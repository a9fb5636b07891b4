import CircleVault.Proofs.Integrity

/-!
# Any calls in a row

`Store.performAll` takes a store through calls, each at a moment of its own, with whatever arguments
and whether they are accepted or refused.  Nothing is said about who calls: what holds here holds
of the store itself, under any service and under several at once, because a call is one atomic step.

What every call keeps, any calls in a row keep (`performAll_invariant`).  In particular the store's
integrity, and with it that a member or a circle is found by its name, and a grant by its member and
circle, in one way only: the tables may enumerate their records in any order
(`integrity_performAll`).
-/

namespace CircleVault

namespace Store

/-- The store after calls, each at its moment, one after another. -/
def performAll (s : Store) (calls : List (Timestamp × Call)) : Store :=
  calls.foldl (fun s c => (s.answer c.1 c.2).2) s

variable {s : Store}

@[simp] lemma performAll_nil : s.performAll [] = s := rfl

@[simp] lemma performAll_cons (c : Timestamp × Call) (calls : List (Timestamp × Call)) :
    s.performAll (c :: calls) = (s.answer c.1 c.2).2.performAll calls := rfl

lemma performAll_append (calls more : List (Timestamp × Call)) :
    s.performAll (calls ++ more) = (s.performAll calls).performAll more :=
  List.foldl_append

/-- What every call keeps, any calls in a row keep. -/
theorem performAll_invariant {P : Store → Prop}
    (kept : ∀ (s : Store) (now : Timestamp) (c : Call), P s → P (s.answer now c).2)
    (calls : List (Timestamp × Call)) (h : P s) : P (s.performAll calls) := by
  induction calls generalizing s with
  | nil => exact h
  | cons c rest ih => exact ih (kept s c.1 c.2 h)

/-! ## Integrity -/

lemma Integrity.performAll (h : s.Integrity) (calls : List (Timestamp × Call)) :
    (s.performAll calls).Integrity :=
  performAll_invariant Integrity.answer calls h

/-- Every search comes to one answer. -/
structure Searchable (s : Store) : Prop where
  memberNamed : ∀ name, s.members.Settles (fun m => m.name = name) (s.memberNamed? name)
  circleNamed : ∀ name, s.circles.Settles (fun c => c.name = name) (s.circleNamed? name)
  grant : ∀ member circle,
    s.grants.Settles (fun g => g.member = member && g.circle = circle) (s.grant? member circle)

lemma Integrity.searchable (h : s.Integrity) : s.Searchable where
  memberNamed name := by
    refine Table.settles_iff.2 fun id id' m m' found found' named named' => ?_
    rw [decide_eq_true_eq] at named named'
    exact h.member_name id id' m m' found found' (named.trans named'.symm)
  circleNamed name := by
    refine Table.settles_iff.2 fun id id' c c' found found' named named' => ?_
    rw [decide_eq_true_eq] at named named'
    exact h.circle_name id id' c c' found found' (named.trans named'.symm)
  grant member circle := by
    refine Table.settles_iff.2 fun id id' g g' found found' here here' => ?_
    rw [Bool.and_eq_true, decide_eq_true_eq, decide_eq_true_eq] at here here'
    exact h.grant_unique id id' g g' found found' (here.1.trans here'.1.symm)
      (here.2.trans here'.2.symm)

/-- **Whatever is asked of it, the store keeps its integrity**, and a search by name, or by member
and circle, comes to one answer. -/
theorem integrity_performAll (calls : List (Timestamp × Call)) :
    (Store.empty.performAll calls).Integrity ∧ (Store.empty.performAll calls).Searchable := by
  have h := Integrity.empty.performAll calls
  exact ⟨h, h.searchable⟩

end Store

end CircleVault
