/-!
# Work in place

Work on a state changes it step by step, and may be refused on the way.  A refusal undoes nothing:
the state stays as the steps before it have left it.  So work that is to be done in full or not at
all has to make all its checks before its first change.
-/

namespace CircleVault

/-- Work on a state in place. -/
abbrev Work (ε σ : Type) : Type → Type := EStateM ε σ

namespace Work

variable {ε σ α : Type}

/-- Look at the state, and go on with what comes of it or refuse. -/
def judge (f : σ → Except ε α) : Work ε σ α := do
  match f (← get) with
  | .ok a => return a
  | .error e => throw e

/-- Refuse a state that meets a condition. -/
def refuseIf (p : σ → Bool) (e : ε) : Work ε σ Unit :=
  judge fun s => if p s then .error e else .ok ()

/-- Go on with what is found in the state, or refuse. -/
def find (e : ε) (f : σ → Option α) : Work ε σ α :=
  judge fun s => (f s).elim (.error e) .ok

end Work

end CircleVault
