import CircleVault.Failure
import CircleVault.Text

/-!
# Trust levels

A trust level is what a member holds in a circle, and what an operation requires.  The levels are
totally ordered, `sysop` being the strongest, and a level satisfies every requirement at or below
it.
-/

namespace CircleVault

/-- A grade of access. -/
inductive TrustLevel where
  | all
  | read
  | write
  | admin
  | sysop
deriving DecidableEq, Repr, Inhabited

namespace TrustLevel

/-- The place of a level in the hierarchy, counted from the weakest. -/
def rank : TrustLevel → Nat
  | all => 0
  | read => 1
  | write => 2
  | admin => 3
  | sysop => 4

instance : LE TrustLevel := ⟨fun a b => a.rank ≤ b.rank⟩
instance : LT TrustLevel := ⟨fun a b => a.rank < b.rank⟩
instance (a b : TrustLevel) : Decidable (a ≤ b) := inferInstanceAs (Decidable (a.rank ≤ b.rank))
instance (a b : TrustLevel) : Decidable (a < b) := inferInstanceAs (Decidable (a.rank < b.rank))

/-- Minus one, zero or one, as a level is weaker than another, the same or stronger. -/
def compare (a b : TrustLevel) : Int := if a < b then -1 else if a = b then 0 else 1

def strongestFirst : List TrustLevel := [sysop, admin, write, read, all]

/-- The levels that satisfy a requirement, strongest first. -/
def permitted (required : TrustLevel) : List TrustLevel :=
  strongestFirst.filter fun level => required ≤ level

/-- Whether a level satisfies a requirement. -/
def allows (actual required : TrustLevel) : Bool := required ≤ actual

/-- The name in upper case, as records and requests spell it. -/
def name : TrustLevel → String
  | all => "ALL"
  | read => "READ"
  | write => "WRITE"
  | admin => "ADMIN"
  | sysop => "SYSOP"

def title : TrustLevel → String
  | all => "All"
  | read => "Read"
  | write => "Write"
  | admin => "Admin"
  | sysop => "Sysop"

/-- The level that a text names, in letters of either case. -/
def ofText (text : String) : Except Failure TrustLevel :=
  match strongestFirst.find? fun level => Text.eqIgnoringAsciiCase level.name text with
  | some level => .ok level
  | none => .error (.unknownTrustLevel text)

end TrustLevel

end CircleVault
