/-!
# The field of Curve25519

Arithmetic modulo the prime `2 ^ 255 - 19`, on natural numbers below it.  Both curves, the one of
signatures and the one of key agreement, have their coordinates in this field.
-/

namespace CircleVault.Curve

def p : Nat := Nat.pow 2 255 - 19

/-- A power modulo `m`, by repeated squaring. -/
def powMod (m base exponent : Nat) : Nat :=
  if exponent = 0 then 1 % m
  else
    let half := powMod m (base * base % m) (exponent / 2)
    if exponent % 2 = 1 then half * base % m else half
termination_by exponent
decreasing_by omega

namespace Field

def add (a b : Nat) : Nat := (a + b) % p

def sub (a b : Nat) : Nat := (a + (p - b % p)) % p

def mul (a b : Nat) : Nat := a * b % p

/-- The inverse; zero for zero. -/
def inv (a : Nat) : Nat := powMod p a (p - 2)

/-- A square root of minus one. -/
def sqrtMinusOne : Nat := powMod p 2 ((p - 1) / 4)

/-- The even one of the square roots of `u / v`, if there are any.  The candidate is a power of the
quotient; it is a root up to a root of minus one. -/
def sqrtRatio? (u v : Nat) : Option Nat :=
  let q := mul u (inv v)
  let r := powMod p q ((p + 3) / 8)
  let root? : Option Nat :=
    if mul r r = q then some r
    else
      let s := mul r sqrtMinusOne
      if mul s s = q then some s else none
  root?.map fun r => if r % 2 = 1 then p - r else r

end Field

end CircleVault.Curve
