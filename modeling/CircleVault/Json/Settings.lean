import CircleVault.Json.Decode
import CircleVault.Settings

/-!
# Settings in JSON

Any field of the settings may be missing and takes its default then; the costs, where they are
given, are given in full.
-/

namespace CircleVault

open Json

namespace Charset

def toJson (c : Charset) : Json := .text c.name

def ofJson : Json → Decoded Charset := asNamed all name

instance : Written Charset := ⟨toJson, ofJson⟩

end Charset

namespace Costs

def toJson (c : Costs) : Json :=
  .object [("memory_kib", .int c.memoryKib.toNat), ("iterations", .int c.iterations.toNat),
    ("parallelism", .int c.parallelism.toNat)]

def layout : List Field :=
  [field "memory_kib" asUInt32, field "iterations" asUInt32, field "parallelism" asUInt32]

def ofJson (j : Json) : Decoded Costs := do
  match ← slots layout j with
  | [memory, iterations, parallelism] =>
      return {
        memoryKib := ← required asUInt32 memory
        iterations := ← required asUInt32 iterations
        parallelism := ← required asUInt32 parallelism }
  | _ => throw .malformed

instance : Written Costs := ⟨toJson, ofJson⟩

end Costs

namespace Settings

def toJson (s : Settings) : Json :=
  .object [("kdf", s.kdf.toJson), ("salt_charset", s.saltCharset.toJson),
    ("min_passphrase_len", .int s.minPassphraseLength.toNat)]

def layout : List Field :=
  [field "kdf" Costs.ofJson, field "salt_charset" Charset.ofJson,
    field "min_passphrase_len" asUInt64]

/-- The settings of a JSON value, not yet checked. -/
def ofJson (j : Json) : Decoded Settings := do
  match ← slots layout j with
  | [kdf, charset, least] =>
      return {
        kdf := ← withDefault standard.kdf Costs.ofJson kdf
        saltCharset := ← withDefault standard.saltCharset Charset.ofJson charset
        minPassphraseLength := ← withDefault standard.minPassphraseLength asUInt64 least }
  | _ => throw .malformed

instance : Written Settings := ⟨toJson, ofJson⟩

/-- The settings that a text writes, checked. -/
def load (text : String) : Except Failure Settings := do
  match ofText ofJson text with
  | .error _ => throw .settingsUnreadable
  | .ok settings =>
      let _ ← settings.validate
      return settings

end Settings

/-- The configuration with the settings that a text writes. -/
def Configuration.load (text : String) : Except Failure Configuration := do
  return { standard with settings := ← Settings.load text }

end CircleVault
