import CircleVault.Failure
import CircleVault.Text

/-!
# Settings

Settings are an explicit value handed to the operations that need them: the costs of the
password-derived key function, the charset of legacy salts and the passphrase policy.  Costs can
be any numbers; a `KeyStretching` is a choice of costs that the function can run with.
-/

namespace CircleVault

/-! ## Charsets -/

/-- The charset that turns a legacy textual salt into bytes. -/
inductive Charset where
  | utf8
  | latin1
deriving DecidableEq, Repr, Inhabited

namespace Charset

def name : Charset → String
  | utf8 => "utf8"
  | latin1 => "latin1"

def all : List Charset := [utf8, latin1]

/-- The Latin-1 byte of a character, which is a question mark for a character outside the
charset. -/
def latin1Byte (c : Char) : UInt8 := if c.toNat < 256 then UInt8.ofNat c.toNat else 63

def encode : Charset → String → Bytes
  | utf8, text => Text.utf8 text
  | latin1, text => text.toList.map latin1Byte

end Charset

/-! ## Costs of the password-derived key function -/

/-- The costs of deriving a key from a passphrase. -/
structure Costs where
  /-- Memory, in units of 1024 bytes. -/
  memoryKib : UInt32
  /-- Passes over the memory. -/
  iterations : UInt32
  /-- Lanes that could be filled at the same time. -/
  parallelism : UInt32
deriving DecidableEq, Repr

namespace Costs

def standard : Costs := ⟨19 * 1024, 2, 1⟩

/-- Cheap costs for trying things out. -/
def cheap : Costs := ⟨1024, 1, 1⟩

/-- The greatest number of lanes. -/
def maxParallelism : UInt32 := 0xFFFFFF

/-- The first reason for which the costs are unusable.  Each lane needs eight units of memory; the
product is taken in 32-bit words. -/
def problem? (c : Costs) : Option CostProblem :=
  if c.memoryKib < 8 then some .memoryTooSmall
  else if c.memoryKib < c.parallelism * 8 then some .memoryTooSmall
  else if c.iterations = 0 then some .timeTooSmall
  else if c.parallelism = 0 then some .threadsTooFew
  else if maxParallelism < c.parallelism then some .threadsTooMany
  else none

end Costs

/-- Costs that the password-derived key function can run with. -/
structure KeyStretching where
  costs : Costs
  usable : costs.problem? = none

/-- The password-derived key function with the given costs, if they are usable. -/
def KeyStretching.ofCosts (c : Costs) : Except Failure KeyStretching :=
  match h : c.problem? with
  | none => .ok ⟨c, h⟩
  | some problem => .error (.costUnusable problem)

/-! ## Settings -/

/-- The settings of a process. -/
structure Settings where
  kdf : Costs
  saltCharset : Charset
  /-- The least number of characters in a passphrase. -/
  minPassphraseLength : UInt64
deriving DecidableEq, Repr

namespace Settings

def standard : Settings := ⟨.standard, .utf8, 8⟩

def cheap : Settings := { standard with kdf := .cheap }

/-- Refuse settings that the password-derived key function cannot run with, or under which an
empty passphrase would do. -/
def validate (s : Settings) : Except Failure KeyStretching := do
  let kdf ← KeyStretching.ofCosts s.kdf
  if s.minPassphraseLength = 0 then throw .emptyPassphraseAllowed
  return kdf

/-- Refuse a passphrase with too few characters. -/
def checkPassphrase (s : Settings) (passphrase : String) : Except Failure Unit :=
  if passphrase.length < s.minPassphraseLength.toNat then
    throw (.passphraseTooShort s.minPassphraseLength.toNat)
  else
    return ()

end Settings

/-- The configuration of a service: its settings, and whether passphrase work may block a thread
of its own. -/
structure Configuration where
  settings : Settings
  /-- Whether passphrase work runs on a thread of its own. -/
  blockingUnlock : Bool
deriving DecidableEq, Repr

namespace Configuration

def standard : Configuration := ⟨.standard, true⟩

def cheap : Configuration := ⟨.cheap, true⟩

end Configuration

end CircleVault
