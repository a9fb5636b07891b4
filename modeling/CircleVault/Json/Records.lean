import CircleVault.Armor
import CircleVault.Grant
import CircleVault.Json.Decode
import CircleVault.SignedRecord

/-!
# Records in JSON

Every record has one written form: its fields in their order, identifiers as UUIDs, byte strings in
Base64, levels and states by name, times as integers.  A salt is its text, and is read in UTF-8; a
service with another charset reads it again.  Only the parts of a sealed key are arrays of numbers.
-/

namespace CircleVault

open Json

/-! ## Parts of records -/

def Id.toJson {kind : RecordKind} (id : Id kind) : Json := .text id.toText

def Id.ofJson {kind : RecordKind} (j : Json) : Decoded (Id kind) := do
  match ofText? (← asText j) with
  | some id => return id
  | none => throw .malformed

instance {kind : RecordKind} : Written (Id kind) := ⟨Id.toJson, Id.ofJson⟩

/-- A record's field for an identifier of some kind. -/
def idField (name : String) (kind : RecordKind) : Field :=
  field name (Id.ofJson : Json → Decoded (Id kind))

def Bytes.toJson (b : Bytes) : Json := .text (Base64.write b)

/-- A fault in the content of a text. -/
def Json.refuse {α : Type} : Except Failure α → Decoded α := Except.mapError .refused

def Bytes.ofJson (j : Json) : Decoded Bytes := do refuse (Armor.read (← asText j))

def Block.toJson {n : Nat} (b : Block n) : Json := b.toBytes.toJson

def Block.ofJson (n : Nat) (j : Json) : Decoded (Block n) := do
  refuse (Armor.readBlock n (← asText j))

def Bytes.toNumbers (b : Bytes) : Json := .array (b.map fun x => .int x.toNat)

def Timestamp.toJson (t : Timestamp) : Json := .int t.toInt

def Timestamp.ofJson : Json → Decoded Timestamp := asInt64

instance : Written Timestamp := ⟨Timestamp.toJson, Timestamp.ofJson⟩

def Json.ofOption {α : Type} (encode : α → Json) : Option α → Json
  | some a => encode a
  | none => .null

def Salt.toJson (s : Salt) : Json := .text s.text

def Salt.ofJson (j : Json) : Decoded Salt := (asText j).map (Salt.ofText .utf8)

instance : Written Salt := ⟨Salt.toJson, Salt.ofJson⟩

def Checksum.toJson (c : Checksum) : Json := c.bytes.toJson

def Checksum.ofJson (j : Json) : Decoded Checksum := (Block.ofJson 32 j).map Checksum.mk

instance : Written Checksum := ⟨Checksum.toJson, Checksum.ofJson⟩

def Signature.toJson (s : Signature) : Json := s.bytes.toJson

def Signature.ofJson (j : Json) : Decoded Signature := (Block.ofJson 64 j).map Signature.mk

instance : Written Signature := ⟨Signature.toJson, Signature.ofJson⟩

/-! ## Named values -/

def TrustLevel.ofJson : Json → Decoded TrustLevel := asNamed strongestFirst name

def KeyStatus.ofJson : Json → Decoded KeyStatus := asNamed all name

def Algorithm.ofJson : Json → Decoded Algorithm := asNamed all name

def CipherFormat.ofJson : Json → Decoded CipherFormat := asNamed all name

def Outcome.ofJson : Json → Decoded Outcome := asNamed all name

def Severity.ofJson : Json → Decoded Severity := asNamed all upperName

instance : Written TrustLevel := ⟨fun l => .text l.name, TrustLevel.ofJson⟩
instance : Written KeyStatus := ⟨fun s => .text s.name, KeyStatus.ofJson⟩
instance : Written Algorithm := ⟨fun a => .text a.name, Algorithm.ofJson⟩
instance : Written CipherFormat := ⟨fun f => .text f.name, CipherFormat.ofJson⟩
instance : Written Outcome := ⟨fun o => .text o.name, Outcome.ofJson⟩
instance : Written Severity := ⟨fun s => .text s.upperName, Severity.ofJson⟩

/-! ## Encrypted data -/

namespace Ciphertext

def toJson (c : Ciphertext) : Json :=
  .object [("format", .text c.format.name), ("salt", c.salt.toJson),
    ("ciphertext", c.bytes.toJson)]

def layout : List Field :=
  [field "format" CipherFormat.ofJson, field "salt" Salt.ofJson, field "ciphertext" Bytes.ofJson]

def ofJson (j : Json) : Decoded Ciphertext := do
  match ← slots layout j with
  | [format, salt, bytes] =>
      return {
        format := ← required CipherFormat.ofJson format
        salt := ← required Salt.ofJson salt
        bytes := ← required Bytes.ofJson bytes }
  | _ => throw .malformed

instance : Written Ciphertext := ⟨toJson, ofJson⟩

end Ciphertext

/-! ## Members -/

namespace Member

def toJson (m : Member) : Json :=
  .object [("id", m.id.toJson), ("name", .text m.name), ("salt", m.salt.toJson),
    ("private_key", m.privateKey.toJson), ("public_key", .text m.publicKey),
    ("added", m.added.toJson), ("altered", m.altered.toJson)]

def layout : List Field :=
  [idField "id" .member, field "name" asText, field "salt" Salt.ofJson,
    field "private_key" Ciphertext.ofJson, field "public_key" asText,
    field "added" Timestamp.ofJson, field "altered" Timestamp.ofJson]

def ofJson (j : Json) : Decoded Member := do
  match ← slots layout j with
  | [id, name, salt, privateKey, publicKey, added, altered] =>
      return {
        id := ← required Id.ofJson id
        name := ← required asText name
        salt := ← required Salt.ofJson salt
        privateKey := ← required Ciphertext.ofJson privateKey
        publicKey := ← required asText publicKey
        added := ← required Timestamp.ofJson added
        altered := ← required Timestamp.ofJson altered }
  | _ => throw .malformed

instance : Written Member := ⟨toJson, ofJson⟩

end Member

/-! ## Circles and their keys -/

namespace Circle

def toJson (c : Circle) : Json :=
  .object [("id", c.id.toJson), ("name", .text c.name), ("added", c.added.toJson),
    ("altered", c.altered.toJson)]

def layout : List Field :=
  [idField "id" .circle, field "name" asText,
    field "added" Timestamp.ofJson, field "altered" Timestamp.ofJson]

def ofJson (j : Json) : Decoded Circle := do
  match ← slots layout j with
  | [id, name, added, altered] =>
      return {
        id := ← required Id.ofJson id
        name := ← required asText name
        added := ← required Timestamp.ofJson added
        altered := ← required Timestamp.ofJson altered }
  | _ => throw .malformed

instance : Written Circle := ⟨toJson, ofJson⟩

end Circle

namespace CircleKey

def toJson (k : CircleKey) : Json :=
  .object [("id", k.id.toJson), ("circle_id", k.circle.toJson),
    ("algorithm", .text k.algorithm.name), ("status", .text k.status.name),
    ("added", k.added.toJson), ("altered", k.altered.toJson)]

def layout : List Field :=
  [idField "id" .key, idField "circle_id" .circle,
    field "algorithm" Algorithm.ofJson, field "status" KeyStatus.ofJson,
    field "added" Timestamp.ofJson, field "altered" Timestamp.ofJson]

def ofJson (j : Json) : Decoded CircleKey := do
  match ← slots layout j with
  | [id, circle, algorithm, status, added, altered] =>
      return {
        id := ← required Id.ofJson id
        circle := ← required Id.ofJson circle
        algorithm := ← required Algorithm.ofJson algorithm
        status := ← required KeyStatus.ofJson status
        added := ← required Timestamp.ofJson added
        altered := ← required Timestamp.ofJson altered }
  | _ => throw .malformed

instance : Written CircleKey := ⟨toJson, ofJson⟩

end CircleKey

/-! ## Grants -/

namespace Grant

def toJson (g : Grant) : Json :=
  .object [("id", g.id.toJson), ("member_id", g.member.toJson), ("circle_id", g.circle.toJson),
    ("key_id", g.key.toJson), ("trust_level", .text g.level.name),
    ("circle_key", g.envelope.toJson), ("added", g.added.toJson), ("altered", g.altered.toJson)]

def layout : List Field :=
  [idField "id" .grant, idField "member_id" .member, idField "circle_id" .circle,
    idField "key_id" .key,
    field "trust_level" TrustLevel.ofJson, field "circle_key" Bytes.ofJson,
    field "added" Timestamp.ofJson, field "altered" Timestamp.ofJson]

def ofJson (j : Json) : Decoded Grant := do
  match ← slots layout j with
  | [id, member, circle, key, level, envelope, added, altered] =>
      return {
        id := ← required Id.ofJson id
        member := ← required Id.ofJson member
        circle := ← required Id.ofJson circle
        key := ← required Id.ofJson key
        level := ← required TrustLevel.ofJson level
        envelope := ← required Bytes.ofJson envelope
        added := ← required Timestamp.ofJson added
        altered := ← required Timestamp.ofJson altered }
  | _ => throw .malformed

instance : Written Grant := ⟨toJson, ofJson⟩

end Grant

/-! ## Signatures -/

namespace SignedRecord

def toJson (r : SignedRecord) : Json :=
  .object [("checksum", r.checksum.toJson), ("public_key", .text r.publicKey),
    ("signature", r.signature.toJson), ("expires", ofOption Timestamp.toJson r.expires),
    ("verifications", .int r.verifications.toNat),
    ("last_verification", ofOption Timestamp.toJson r.lastVerification),
    ("added", r.added.toJson), ("altered", r.altered.toJson)]

def layout : List Field :=
  [field "checksum" Checksum.ofJson, field "public_key" asText,
    field "signature" Signature.ofJson, field "expires" (asOption Timestamp.ofJson),
    field "verifications" asUInt64, field "last_verification" (asOption Timestamp.ofJson),
    field "added" Timestamp.ofJson, field "altered" Timestamp.ofJson]

def ofJson (j : Json) : Decoded SignedRecord := do
  match ← slots layout j with
  | [checksum, publicKey, signature, expires, verifications, last, added, altered] =>
      return {
        checksum := ← required Checksum.ofJson checksum
        publicKey := ← required asText publicKey
        signature := ← required Signature.ofJson signature
        expires := ← optional Timestamp.ofJson expires
        verifications := ← required asUInt64 verifications
        lastVerification := ← optional Timestamp.ofJson last
        added := ← required Timestamp.ofJson added
        altered := ← required Timestamp.ofJson altered }
  | _ => throw .malformed

instance : Written SignedRecord := ⟨toJson, ofJson⟩

end SignedRecord

def VerificationFault.toJson (f : VerificationFault) : Json := .text f.name

def Verification.toJson (v : Verification) : Json :=
  .object [("verified", .bool v.succeeded), ("failure", ofOption VerificationFault.toJson v.fault),
    ("record", v.record.toJson)]

/-! ## Sealed keys -/

namespace SealedKey

def toJson (k : SealedKey) : Json :=
  .object [("version", .int k.version.toNat),
    ("ephemeral_public", Bytes.toNumbers k.ephemeral.toBytes),
    ("nonce", Bytes.toNumbers k.nonce.toBytes), ("encrypted_key", Bytes.toNumbers k.encrypted)]

def layout : List Field :=
  [field "version" asByte, field "ephemeral_public" (asBlock 32), field "nonce" (asBlock 12),
    field "encrypted_key" (asList asByte)]

def ofJson (j : Json) : Decoded SealedKey := do
  match ← slots layout j with
  | [version, ephemeral, nonce, encrypted] =>
      return {
        version := ← required asByte version
        ephemeral := ← required (asBlock 32) ephemeral
        nonce := ← required (asBlock 12) nonce
        encrypted := ← required (asList asByte) encrypted }
  | _ => throw .malformed

instance : Written SealedKey := ⟨toJson, ofJson⟩

end SealedKey

end CircleVault
