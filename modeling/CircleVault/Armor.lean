import CircleVault.Base64
import CircleVault.Failure

/-!
# Armor

Byte strings cross textual boundaries in Base64.  Reading is strict: exactly the texts that writing
produces are accepted, so two texts never stand for one byte string.
-/

namespace CircleVault.Armor

/-- The bytes that a text writes. -/
def read (text : String) : Except Failure Bytes :=
  match Base64.read? text with
  | some b => .ok b
  | none => .error .notBase64

def readBlock (n : Nat) (text : String) : Except Failure (Block n) := do
  let b ← read text
  match Block.ofBytes? n b with
  | some k => return k
  | none => throw (.wrongSize n b.length)

end CircleVault.Armor
