import CircleVault.Json.Records
import CircleVault.Json.Settings

/-!
# Descriptions

What an inspection tool shows of a value, as JSON: the value in each of its textual forms, and what
can be told from it.  Descriptions are for reading only; records are stored in their written form.
-/

namespace CircleVault

def Bytes.describe (b : Bytes) : Json := .text b.toHex

def Block.describe {n : Nat} (b : Block n) : Json := .text b.toHex

namespace Outcome

/-- An outcome with its entry in the catalogue. -/
def describe (o : Outcome) : Json :=
  .object [("name", .text o.name), ("code", .int o.number), ("status", .int o.status),
    ("classification", .text o.severity.name), ("description", .text o.description),
    ("is_warning", .bool o.isWarning), ("is_error", .bool o.isError),
    ("display", .text o.display)]

end Outcome

namespace Report

/-- A report, with whether there is a cause behind it. -/
def describe (r : Report) : Json :=
  .object ([("error", .text r.outcome.name), ("message", .text r.message)] ++
    if r.source.isSome then [("source", .bool true)] else [])

def describeFully (r : Report) : Json :=
  .object [("code", .int r.outcome.number), ("name", .text r.outcome.name),
    ("message", .text r.message), ("display", .text r.display),
    ("source", Json.ofOption .text r.source)]

end Report

namespace StoreFailure

def word : StoreFailure → String
  | notFound _ _ => "NotFound"
  | constraint _ => "Constraint"
  | backend _ => "Database"

/-- A failure as the store's own callers see it. -/
def describe (f : StoreFailure) : Json :=
  .object [("error", .text f.word), ("message", .text f.display)]

/-- A failure as the store's own callers see it and as it is passed on. -/
def describeFully (f : StoreFailure) : Json :=
  .object [("store", f.describe), ("core", f.report.describe), ("display", .text f.report.display),
    ("source", Json.ofOption .text f.report.source)]

end StoreFailure

/-- Why a text is no record. -/
def Json.Mishap.describe : Json.Mishap → Json
  | malformed => .object [("error", .text "Json")]
  | refused f => .object [("error", .text "Json"), ("message", .text f.report.display)]

def Id.describe {kind : RecordKind} (id : Id kind) : List (String × Json) :=
  [("debug", .text id.labelled), ("display", .text id.toText), ("bytes", id.bytes.describe)]

namespace TrustLevel

def describe (l : TrustLevel) : Json :=
  .object [("level", .text l.name), ("display", .text l.name), ("debug", .text l.title),
    ("json", .text (Json.write l))]

end TrustLevel

namespace Salt

def descriptionFields (s : Salt) : List (String × Json) :=
  [("armored", .text s.text), ("raw", s.bytes.describe), ("debug", .text s.labelled)]

def describe (s : Salt) : Json := .object s.descriptionFields

end Salt

namespace SecretKey

def describe (k : SecretKey) : Json :=
  .object [("encoded", k.bytes.describe), ("bytes", k.bytes.describe),
    ("algorithm", .text k.algorithm.name), ("debug", .text k.labelled),
    ("salt", Json.ofOption Salt.toJson k.salt)]

end SecretKey

namespace PublicKey

/-- A public key with its form for agreement. -/
def describe (S : Suite) (k : PublicKey) : Json :=
  .object [("armored", .text k.toText), ("encoded", k.bytes.describe), ("bytes", k.bytes.describe),
    ("algorithm", .text k.algorithm.name), ("montgomery", (k.agreement S).describe),
    ("x25519", (k.agreement S).describe), ("debug", .text k.labelled)]

end PublicKey

namespace PrivateKey

/-- A private key with its public half and its forms for agreement. -/
def describe (S : Suite) (k : PrivateKey) : Json :=
  .object [("encoded", k.seed.describe), ("algorithm", .text k.algorithm.name),
    ("scalar", (k.agreement S).describe), ("public", (k.publicKey S).describe S),
    ("x25519", (S.agreementOf (k.agreement S)).describe), ("debug", .text (k.labelled S)),
    ("pair_debug", .text (k.pairLabelled S)),
    ("pair_algorithm", .text (k.publicKey S).algorithm.name)]

end PrivateKey

namespace Checksum

def describe (c : Checksum) : Json :=
  .object [("hex", .text c.toHex), ("display", .text c.toHex), ("debug", .text c.labelled),
    ("bytes", c.bytes.describe), ("json", .text (Json.write c))]

end Checksum

namespace Signature

def describe (s : Signature) : Json :=
  .object [("signature", s.bytes.describe), ("json", .text (Json.write s)),
    ("debug", .text s.labelled)]

end Signature

namespace SealedKey

def descriptionFields (k : SealedKey) : List (String × Json) :=
  [("version", .int k.version.toNat), ("ephemeral_public", k.ephemeral.describe),
    ("nonce", k.nonce.describe), ("encrypted_key", k.encrypted.describe)]

end SealedKey

namespace Founding

/-- A new circle with what can be told of its key and secret. -/
def describe (f : Founding) : Json :=
  .object [("name", .text f.circle.name), ("added", f.circle.added.toJson),
    ("altered", f.circle.altered.toJson), ("key_circle", .bool (f.key.circle = f.circle.id)),
    ("algorithm", .text f.key.algorithm.name), ("status", .text f.key.status.name),
    ("active", .bool f.key.isActive), ("key_added", f.key.added.toJson),
    ("secret_len", .int f.secret.bytes.toBytes.length),
    ("has_salt", .bool f.secret.salt.isSome)]

end Founding

namespace Configuration

/-- The defaults and the sizes of key material. -/
def describeDefaults : Json :=
  .object [("settings", Settings.standard.toJson), ("settings_fast", Settings.cheap.toJson),
    ("kdf", Costs.standard.toJson), ("kdf_fast", Costs.cheap.toJson),
    ("config_blocking", .bool standard.blockingUnlock),
    ("config_settings", standard.settings.toJson),
    ("config_fast_blocking", .bool cheap.blockingUnlock),
    ("config_fast_settings", cheap.settings.toJson),
    ("salt_len", .int Salt.size), ("armored_salt_len", .int Salt.textSize),
    ("secret_key_len", .int SecretKey.size), ("derived_key_len", .int SecretKey.size),
    ("sealed_key_version", .int SealedKey.currentVersion.toNat),
    ("day_millis", Timestamp.day.toJson),
    ("cipher_format", .int CipherFormat.xchacha20Poly1305.number),
    ("strongest_first", .array (TrustLevel.strongestFirst.map fun l => .text l.name))]

end Configuration

end CircleVault
