import CircleVault.Circle
import CircleVault.Grant
import CircleVault.SelfTest

/-!
# Reproducible entropy

Operations take what is drawn at random as an argument.  For rehearsals, which are to come out the
same every time, this module draws it from a stream that its starting point determines: the
state advances by an odd constant, and each word is the state with its bits mixed.
-/

namespace CircleVault

/-- The place in the stream. -/
structure Entropy where
  state : UInt64

/-- The next 64 bits, and the place after them. -/
def Entropy.next (e : Entropy) : UInt64 × Entropy :=
  let z := e.state + 0x9E3779B97F4A7C15
  let a := (z ^^^ (z >>> 30)) * 0xBF58476D1CE4E5B9
  let b := (a ^^^ (a >>> 27)) * 0x94D049BB133111EB
  (b ^^^ (b >>> 31), ⟨z⟩)

/-- A value drawn from the stream. -/
def Drawing (α : Type) : Type := StateM Entropy α

instance : Monad Drawing := inferInstanceAs (Monad (StateM Entropy))

namespace Drawing

/-- The next 64 bits. -/
def word : Drawing UInt64 := fun e => e.next

/-- The bytes of the next words. -/
def words : Nat → Drawing Bytes
  | 0 => return []
  | n + 1 => do
      let w ← word
      return Bytes.ofNatLE 8 w.toNat ++ (← words n)

def block (n : Nat) : Drawing (Block n) := return Block.fit n (← words (n / 8 + 1))

def salt : Drawing Salt := return Salt.ofBytes (← block 16)

def secretKey : Drawing SecretKey := return ⟨← block 32, some (← salt)⟩

def privateKey : Drawing PrivateKey := return ⟨← block 32⟩

def selfTest : Drawing SelfTest.Draw := return ⟨← block 16, ← block 32⟩

def protection : Drawing Member.Protection := return ⟨← block 16, ← block 16⟩

def member : Drawing Member.Draw := return ⟨← block 32, ← protection, ← block 16⟩

def founding : Drawing Founding.Draw :=
  return ⟨← block 16, ← block 32, ← block 16, ← block 16⟩

def sealing : Drawing SealedKey.Draw := return ⟨← block 32, ← block 12⟩

def grant : Drawing Grant.Draw := return ⟨← sealing, ← block 16⟩

end Drawing

end CircleVault
