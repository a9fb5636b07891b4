import CircleVault.Bytes
import CircleVault.Curve.Field

/-!
# Key agreement

X25519: the Montgomery form of the curve, by the `u` coordinate alone.  A ladder of 255 steps
multiplies a coordinate by a clamped scalar.  Two secrets agree on the same coordinate, whichever
side computes it.
-/

namespace CircleVault.Curve.Montgomery

open CircleVault.Curve.Field

/-- Two neighbouring multiples of a point, each as a quotient of coordinates. -/
structure Rungs where
  x2 : Nat
  z2 : Nat
  x3 : Nat
  z3 : Nat

/-- Double the first multiple and add the two, their difference being the coordinate `u`. -/
def Rungs.step (u : Nat) (r : Rungs) : Rungs :=
  let a := add r.x2 r.z2
  let aa := mul a a
  let b := sub r.x2 r.z2
  let bb := mul b b
  let e := sub aa bb
  let da := mul (sub r.x3 r.z3) a
  let cb := mul (add r.x3 r.z3) b
  let s := add da cb
  let t := sub da cb
  ⟨mul aa bb, mul e (add aa (mul 121665 e)), mul s s, mul u (mul t t)⟩

def Rungs.swap (r : Rungs) : Rungs := ⟨r.x3, r.z3, r.x2, r.z2⟩

/-- Climb from the given bit of the scalar down to the lowest. -/
def climb (u scalar : Nat) : Nat → Rungs → Rungs
  | 0, r => r
  | n + 1, r =>
      climb u scalar n <|
        if scalar.testBit n then (r.swap.step u).swap else r.step u

def multiply (scalar u : Nat) : Nat :=
  let r := climb u scalar 255 ⟨1, 0, u, 1⟩
  mul r.x2 (inv r.z2)

/-- The scalar of a secret: its lowest three bits are cleared, the highest is cleared and the one
below it set. -/
def clamp (secret : Block 32) : Nat :=
  let n := secret.toNatLE
  n % Nat.pow 2 254 / 8 * 8 + Nat.pow 2 254

def agree (secret peer : Block 32) : Block 32 :=
  Block.ofNatLE 32 (multiply (clamp secret) (peer.toNatLE % Nat.pow 2 255 % p))

def publicOf (secret : Block 32) : Block 32 := agree secret (Block.ofNatLE 32 9)

end CircleVault.Curve.Montgomery
