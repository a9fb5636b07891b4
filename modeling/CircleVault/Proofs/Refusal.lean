import Mathlib.Logic.Basic
import Mathlib.Tactic.Lemma

/-!
# Results and refusals

A function that may refuse checks one condition after another and goes on with what it found.  The
lemmas here say what each such line comes to, for a given result and for a given refusal.
-/

namespace CircleVault

section

variable {ε α β : Type} {x : Except ε α} {f : α → Except ε β}

lemma bind_eq_ok {b : β} : (x >>= f) = .ok b ↔ ∃ a, x = .ok a ∧ f a = .ok b := by
  cases x with
  | error e => simp [bind, Except.bind]
  | ok a => simp [bind, Except.bind]

lemma bind_eq_error {e : ε} :
    (x >>= f) = .error e ↔ x = .error e ∨ ∃ a, x = .ok a ∧ f a = .error e := by
  cases x with
  | error e' => simp [bind, Except.bind]
  | ok a => simp [bind, Except.bind]

lemma check_bind_eq_ok {x : Except ε Unit} {f : Unit → Except ε β} {b : β} :
    (x >>= f) = .ok b ↔ x = .ok () ∧ f () = .ok b :=
  bind_eq_ok.trans ⟨fun ⟨_, h⟩ => h, fun h => ⟨(), h⟩⟩

lemma ok_bind (a : α) (f : α → Except ε β) : (Except.ok a >>= f) = f a := rfl

lemma throw_bind (e : ε) : (throw e >>= f) = .error e := rfl

lemma pure_eq_ok {a b : α} : (pure a : Except ε α) = .ok b ↔ b = a := by
  simp [pure, Except.pure, eq_comm]

end

section

variable {ε α : Type} {c : Prop} [Decidable c] {w : Except ε α}

lemma refuse_if_eq_ok {e : ε} {r : α} :
    (if c then .error e else w) = .ok r ↔ ¬c ∧ w = .ok r := by
  by_cases h : c <;> simp [h]

lemma refuse_if_eq_error {e e' : ε} :
    (if c then .error e else w) = .error e' ↔ c ∧ e = e' ∨ ¬c ∧ w = .error e' := by
  by_cases h : c <;> simp [h]

lemma accept_if_eq_ok {e : ε} {r : α} :
    (if c then w else .error e) = .ok r ↔ c ∧ w = .ok r := by
  by_cases h : c <;> simp [h]

lemma accept_if_eq_error {e e' : ε} :
    (if c then w else .error e) = .error e' ↔ c ∧ w = .error e' ∨ ¬c ∧ e = e' := by
  by_cases h : c <;> simp [h]

end

end CircleVault
