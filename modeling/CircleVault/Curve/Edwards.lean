import CircleVault.Bytes
import CircleVault.Curve.Field

/-!
# The Edwards curve

The group in which signatures are made: the points of `-x² + y² = 1 + d x² y²`.  A point is held in
four coordinates, so that adding needs no division, and the addition law has no exceptions.  A
point is written as its `y` coordinate with the parity of `x` in the top bit.

Reading is generous where the written form leaves room: a `y` coordinate above the prime is taken
modulo the prime, and the parity bit is ignored where `x` is zero.
-/

namespace CircleVault.Curve

open CircleVault.Curve.Field

/-- A point, with `x = X / Z`, `y = Y / Z` and `x y = T / Z`. -/
structure Point where
  X : Nat
  Y : Nat
  Z : Nat
  T : Nat

namespace Point

/-- The curve's constant. -/
def d : Nat := mul (p - 121665) (inv 121666)

def zero : Point := ⟨0, 1, 1, 0⟩

def add (a b : Point) : Point :=
  let e := mul (sub a.Y a.X) (sub b.Y b.X)
  let f := mul (Field.add a.Y a.X) (Field.add b.Y b.X)
  let g := mul (mul a.T (2 * d % p)) b.T
  let h := mul (Field.add a.Z a.Z) b.Z
  let i := sub f e
  let j := sub h g
  let k := Field.add h g
  let l := Field.add f e
  ⟨mul i j, mul k l, mul j k, mul i l⟩

def neg (a : Point) : Point := ⟨sub 0 a.X, a.Y, a.Z, sub 0 a.T⟩

def smul (n : Nat) (a : Point) : Point :=
  if n = 0 then zero
  else
    let half := smul (n / 2) (a.add a)
    if n % 2 = 1 then half.add a else half
termination_by n
decreasing_by omega

def y (a : Point) : Nat := mul a.Y (inv a.Z)

def write (a : Point) : Block 32 :=
  let zInv := inv a.Z
  let x := mul a.X zInv
  let y := mul a.Y zInv
  Block.ofNatLE 32 (y + Nat.pow 2 255 * (x % 2))

/-- The point that a written form stands for, if there is one. -/
def read? (b : Block 32) : Option Point :=
  let n := b.toNatLE
  let y := n % Nat.pow 2 255 % p
  let parity := n / Nat.pow 2 255 % 2
  let yy := mul y y
  (sqrtRatio? (sub yy 1) (Field.add (mul d yy) 1)).map fun root =>
    let x := if parity = 1 then sub 0 root else root
    ⟨x, y, 1, mul x y⟩

/-- The point that generates the group of signatures, with `y = 4 / 5` and even `x`. -/
def base : Point :=
  (read? (Block.ofNatLE 32 (mul 4 (inv 5)))).getD zero

/-- The order of the generated group. -/
def order : Nat := Nat.pow 2 252 + 27742317777372353535851937790883648493

end Point

end CircleVault.Curve
