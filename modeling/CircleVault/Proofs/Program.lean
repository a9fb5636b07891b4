import CircleVault.Program
import CircleVault.Proofs.Writes
import Mathlib.Tactic.Lemma

/-!
# What programs meet

A program run alone is a function of the clock and the store.  `Program.Meets` says that its result
and the store after it satisfy a postcondition, and there is one rule for each thing that an
operation does: ask a call, end with a result, require a condition, look something up, write.  A
rule leaves one goal for going on, with what was found as a hypothesis, and one for the failure.
So an operation is taken apart by a chain of rules in the order of its lines, and what each line
found has a name afterwards.

`Program.run_invariant` is the other reading: what every single call keeps, every program keeps.
What holds only of some runs, because it depends on the clock, is said of a single one by
`Program.Throughout`.
-/

namespace CircleVault

namespace Program

variable {α β γ : Type}

/-! ## Laws -/

lemma bind_assoc (p : Program α) (f : α → Program β) (g : β → Program γ) :
    (p >>= f) >>= g = p >>= fun a => f a >>= g := by
  induction p with
  | done r =>
      cases r with
      | error e => rfl
      | ok a => rfl
  | ask c next ih =>
      show Program.ask c (fun a => ((next a >>= f) >>= g)) =
        Program.ask c (fun a => next a >>= fun a => f a >>= g)
      simp only [ih]

lemma bind_pure (p : Program α) : (p >>= pure) = p := by
  induction p with
  | done r =>
      cases r with
      | error e => rfl
      | ok a => rfl
  | ask c next ih =>
      show Program.ask c (fun a => next a >>= pure) = Program.ask c next
      simp only [ih]

/-! ## Invariants -/

/-- What every call keeps, every program keeps. -/
theorem run_invariant {P : Store → Prop}
    (kept : ∀ (s : Store) (now : Timestamp) (c : Call), P s → P (s.answer now c).2)
    (p : Program α) (clock : Nat → Timestamp) (s : Store) (h : P s) : P (p.run clock s).2 := by
  induction p generalizing clock s with
  | done r => exact h
  | ask c next ih => exact ih _ _ _ (kept s _ c h)

/-! ## Postconditions -/

/-- The moments that are left after the first call. -/
def later (clock : Nat → Timestamp) (k : Nat) : Timestamp := clock (k + 1)

/-- The result of a program and the store after it satisfy a postcondition. -/
def Meets (p : Program α) (clock : Nat → Timestamp) (s : Store)
    (Q : Except Failure α → Store → Prop) : Prop :=
  Q (p.run clock s).1 (p.run clock s).2

section Rules

variable {clock : Nat → Timestamp} {s : Store} {Q : Except Failure β → Store → Prop}

lemma Meets.imp {p : Program β} {R : Except Failure β → Store → Prop} (h : p.Meets clock s R)
    (weaker : ∀ r s', R r s' → Q r s') : p.Meets clock s Q :=
  weaker _ _ h

lemma Meets.and {p : Program β} {R : Except Failure β → Store → Prop} (h : p.Meets clock s Q)
    (h' : p.Meets clock s R) : p.Meets clock s fun r s' => Q r s' ∧ R r s' :=
  ⟨h, h'⟩

lemma Meets.bind {p : Program α} {f : α → Program β} {R : Except Failure α → Store → Prop}
    (first : p.Meets clock s R)
    (goes : ∀ a s' clock', R (.ok a) s' → (f a).Meets clock' s' Q)
    (fails : ∀ e s', R (.error e) s' → Q (.error e) s') : (p >>= f).Meets clock s Q := by
  induction p generalizing clock s with
  | done r =>
      cases r with
      | error e => exact fails e s first
      | ok a => exact goes a s clock first
  | ask c next ih => exact ih _ first

lemma Meets.done {r : Except Failure β} (h : Q r s) : (Program.done r).Meets clock s Q := h

lemma Meets.result {b : β} (h : Q (.ok b) s) : (pure b : Program β).Meets clock s Q := h

lemma Meets.call {c : Call} {f : c.Answer → Program β}
    (h : (f (s.answer (clock 0) c).1).Meets (later clock) (s.answer (clock 0) c).2 Q) :
    (call c >>= f).Meets clock s Q := h

lemma Meets.of_ok {r : Except Failure α} {a : α} {f : α → Program β} (made : r = .ok a)
    (goes : (f a).Meets clock s Q) : (of r >>= f).Meets clock s Q := by
  subst made
  exact goes

lemma Meets.of {r : Except Failure α} {f : α → Program β}
    (goes : ∀ a, r = .ok a → (f a).Meets clock s Q)
    (fails : ∀ e, r = .error e → Q (.error e) s) : (of r >>= f).Meets clock s Q := by
  cases r with
  | error e => exact fails e rfl
  | ok a => exact goes a rfl

lemma Meets.require {condition : Bool} {e : Failure} {f : Unit → Program β}
    (goes : condition = true → (f ()).Meets clock s Q)
    (fails : condition = false → Q (.error e) s) : (require condition e >>= f).Meets clock s Q := by
  cases condition with
  | false => exact fails rfl
  | true => exact goes rfl

lemma Meets.found {o : Option α} {e : Failure} {f : α → Program β}
    (goes : ∀ a, o = some a → (f a).Meets clock s Q)
    (fails : o = none → Q (.error e) s) : (found e o >>= f).Meets clock s Q := by
  cases o with
  | none => exact fails rfl
  | some a => exact goes a rfl

/-- A write that the store may refuse: its answer and the store after it are the two halves of
`settle`. -/
lemma Meets.accepted {w : Store.Write α} {f : α → Program β} (spares : w.Spares s)
    (goes : ∀ a s', w = .ok a s' → (f a).Meets clock s' Q)
    (fails : ∀ e, w = .error e s → Q (.error (.store e)) s) :
    (accepted (Store.settle w).1 >>= f).Meets clock (Store.settle w).2 Q := by
  cases w with
  | error e s' =>
      obtain rfl := spares e s' rfl
      exact fails e rfl
  | ok a s' => exact goes a s' rfl

/-- A write at the end of an operation. -/
lemma Meets.wrote {w : Store.Write β} (spares : w.Spares s)
    (goes : ∀ b s', w = .ok b s' → Q (.ok b) s')
    (fails : ∀ e, w = .error e s → Q (.error (.store e)) s) :
    (Program.accepted (Store.settle w).1).Meets clock (Store.settle w).2 Q := by
  rw [← bind_pure (Program.accepted _)]
  exact Meets.accepted spares (fun b s' h => .result (goes b s' h)) fails

end Rules

/-! ## All along -/

/-- Something holds of the store before and after every call of a program. -/
def Throughout (P : Store → Prop) : Program α → (Nat → Timestamp) → Store → Prop
  | .done _, _, s => P s
  | .ask c next, clock, s =>
      P s ∧ (next (s.answer (clock 0) c).1).Throughout P (later clock) (s.answer (clock 0) c).2

instance Throughout.decidable {P : Store → Prop} [DecidablePred P] :
    (p : Program α) → (clock : Nat → Timestamp) → (s : Store) → Decidable (p.Throughout P clock s)
  | .done _, _, s => inferInstanceAs (Decidable (P s))
  | .ask c next, clock, s =>
      have := Throughout.decidable (P := P) (next (s.answer (clock 0) c).1) (later clock)
        (s.answer (clock 0) c).2
      inferInstanceAs (Decidable (_ ∧ _))

section

variable {P : Store → Prop} {p : Program α} {f : α → Program β} {clock : Nat → Timestamp}
  {s : Store}

lemma Throughout.start (along : p.Throughout P clock s) : P s := by
  cases p with
  | done r => exact along
  | ask c next => exact along.1

/-- What holds all along a program holds all along its first part. -/
lemma Throughout.first (along : (p >>= f).Throughout P clock s) : p.Throughout P clock s := by
  induction p generalizing clock s with
  | done r =>
      show P s
      exact along.start
  | ask c next ih => exact ⟨along.1, ih _ along.2⟩

/-- Going on with the result of a program, while something holds all along. -/
lemma Meets.bind_along {R : Except Failure α → Store → Prop} {Q : Except Failure β → Store → Prop}
    (along : (p >>= f).Throughout P clock s) (first : p.Meets clock s R)
    (goes : ∀ a s' clock', (f a).Throughout P clock' s' → R (.ok a) s' →
      (f a).Meets clock' s' Q)
    (fails : ∀ e s', R (.error e) s' → Q (.error e) s') : (p >>= f).Meets clock s Q := by
  induction p generalizing clock s with
  | done r =>
      cases r with
      | error e => exact fails e s first
      | ok a => exact goes a s clock along first
  | ask c next ih => exact ih _ along.2 first

end

end Program

end CircleVault
