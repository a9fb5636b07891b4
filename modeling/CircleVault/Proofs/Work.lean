import CircleVault.Work
import Mathlib.Tactic.Lemma

/-!
# Steps of work

What each step of work in place comes to is said once: a check passes or refuses, and a change
happens.  Two properties of work as a whole are drawn from its steps.  Work is `Sure` if it is never
refused, and it is `Traceless` if, wherever it is refused, the state is as it was in the beginning.
Checks in front keep work traceless; what comes behind the first change has to be sure.
-/

namespace CircleVault

namespace Work

variable {ε σ α β : Type} {s s' : σ} {b : β}

/-! ## Steps -/

lemma run_pure : (pure b : Work ε σ β).run s = .ok b s := rfl

lemma run_modify {f : σ → σ} {k : PUnit → Work ε σ β} :
    (modify f >>= k).run s = (k ⟨⟩).run (f s) := rfl

lemma run_modifyGet {f : σ → α × σ} {k : α → Work ε σ β} :
    (modifyGet f >>= k).run s = (k (f s).1).run (f s).2 := rfl

section Checks

variable {e : ε} {k : α → Work ε σ β}

lemma run_judge {f : σ → Except ε α} :
    (judge f >>= k).run s =
      match f s with
      | .ok a => (k a).run s
      | .error e => .error e s := by
  have looked : (judge f).run s =
      match f s with
      | .ok a => .ok a s
      | .error e => .error e s := by
    show (match f s with | .ok a => pure a | .error e => throw e : Work ε σ α).run s = _
    cases f s <;> rfl
  rw [EStateM.run_bind, looked]
  cases f s <;> rfl

lemma judge_eq_ok {f : σ → Except ε α} :
    (judge f >>= k).run s = .ok b s' ↔ ∃ a, f s = .ok a ∧ (k a).run s = .ok b s' := by
  rw [run_judge]
  cases f s with
  | ok a => simp
  | error e => simp

lemma judge_eq_error {f : σ → Except ε α} :
    (judge f >>= k).run s = .error e s' ↔
      f s = .error e ∧ s' = s ∨ ∃ a, f s = .ok a ∧ (k a).run s = .error e s' := by
  rw [run_judge]
  cases f s with
  | ok a => simp
  | error e' => simp [eq_comm]

lemma find_eq_ok {f : σ → Option α} :
    (find e f >>= k).run s = .ok b s' ↔ ∃ a, f s = some a ∧ (k a).run s = .ok b s' := by
  rw [find, judge_eq_ok]
  cases f s with
  | none => simp
  | some a => simp

lemma refuseIf_eq_ok {p : σ → Bool} {k : Unit → Work ε σ β} :
    (refuseIf p e >>= k).run s = .ok b s' ↔ p s = false ∧ (k ()).run s = .ok b s' := by
  rw [refuseIf, judge_eq_ok]
  cases p s with
  | false =>
      rw [if_neg Bool.false_ne_true]
      exact ⟨fun ⟨_, _, done⟩ => ⟨rfl, done⟩, fun ⟨_, done⟩ => ⟨(), rfl, done⟩⟩
  | true =>
      rw [if_pos rfl]
      exact ⟨nofun, nofun⟩

end Checks

/-! ## Work as a whole -/

/-- Work that is never refused. -/
def Sure (w : Work ε σ β) : Prop := ∀ s, ∃ b s', w.run s = .ok b s'

/-- Work that leaves the state as it was, wherever it is refused. -/
def Traceless (w : Work ε σ β) : Prop := ∀ s e s', w.run s = .error e s' → s' = s

lemma Sure.pure (b : β) : Sure (pure b : Work ε σ β) := fun s => ⟨b, s, rfl⟩

lemma Sure.modify {f : σ → σ} {k : PUnit → Work ε σ β} (rest : (k ⟨⟩).Sure) :
    Sure (modify f >>= k) :=
  fun s => rest (f s)

lemma Sure.modifyGet {f : σ → α × σ} {k : α → Work ε σ β} (rest : ∀ a, (k a).Sure) :
    Sure (modifyGet f >>= k) :=
  fun s => rest (f s).1 (f s).2

lemma Sure.traceless {w : Work ε σ β} (sure : w.Sure) : w.Traceless := by
  intro s e s' refused
  obtain ⟨b, s'', done⟩ := sure s
  rw [done] at refused
  cases refused

/-- A check in front of traceless work is made while the state is as it was. -/
lemma Traceless.judge {f : σ → Except ε α} {k : α → Work ε σ β} (rest : ∀ a, (k a).Traceless) :
    Traceless (judge f >>= k) := by
  intro s e s' refused
  obtain ⟨-, same⟩ | ⟨a, -, refused⟩ := judge_eq_error.1 refused
  · exact same
  · exact rest a s e s' refused

lemma Traceless.check {p : σ → Bool} {e : ε} {k : Unit → Work ε σ β} (rest : (k ()).Traceless) :
    Traceless (refuseIf p e >>= k) :=
  .judge fun _ => rest

end Work

end CircleVault
