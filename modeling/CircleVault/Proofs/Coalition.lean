import CircleVault.Proofs.Transparent
import CircleVault.Proofs.WellFormed
import Mathlib.Data.Set.Defs

/-!
# Coalitions

No set of members can raise itself.  Whatever its members do together, in a circle that is there
they stay below the highest level that any of them held, and so does every grant of the circle that
they create, change or remove; without an administrator among them they change none.

One operation is enough of an argument: a grant that changes is backed by a grant of the actor in
the same circle, at `admin` or above and at no lower level (`Effect.backed`).  That a new grant
lands in the actor's own circle comes from the key of the actor's grant, so the store has to be
well-formed.
-/

namespace CircleVault

open Store

/-- No member of a set holds more than a level in a circle that is there. -/
structure Store.Capped (s : Store) (A : Set MemberId) (c : CircleId) (L : TrustLevel) : Prop where
  present : s.circles.get? c ≠ none
  level_le : ∀ a ∈ A, ∀ g, s.grant? a c = some g → g.level ≤ L

/-! ## One operation -/

namespace Service

variable {sv : Service} {s s' : Store} {o : Operation} {r : Except Failure o.Result}

/-- A grant that an operation creates, changes or removes belongs to a circle that was not there,
or is backed by the grant that the actor holds in its circle. -/
theorem Effect.backed (h : s.WellFormed) (e : Effect sv s o r s') {g : Grant}
    (changed : ¬(g ∈ s.grants.values ↔ g ∈ s'.grants.values)) :
    s.circles.get? g.circle = none ∨
      ∃ actor own, o.actor? = some actor ∧ s.grant? actor g.circle = some own ∧
        .admin ≤ own.level ∧ g.level ≤ own.level := by
  have h' := h.effect e
  rw [h.mem_values_grants, h'.mem_values_grants] at changed
  cases e with
  | refused => exact absurd Iff.rfl changed
  | answered => exact absurd Iff.rfl changed
  | registered made wrote =>
      obtain ⟨-, -, rfl, rfl⟩ := insertMember_eq_ok.1 wrote
      exact absurd Iff.rfl changed
  | reprotected present made wrote =>
      obtain ⟨_, -, -, rfl, rfl⟩ := updateMember_eq_ok.1 wrote
      exact absurd Iff.rfl changed
  | founded present made granted wrote =>
      obtain ⟨fresh, -, ⟨-, home, -⟩, -, -, freshGrant, rfl, rfl⟩ := createCircle_eq_ok.1 wrote
      obtain ⟨-, rfl | found⟩ := Table.of_insert_changed changed
      · exact .inl (home ▸ fresh)
      · rw [freshGrant] at found
        cases found
  | granted held admin within present found opener opened made wrote =>
      obtain ⟨-, -, fresh, -, rfl, rfl⟩ := insertGrant_eq_ok.1 wrote
      obtain ⟨-, -, _, -, rfl⟩ := Grant.make_eq_ok.1 made
      obtain ⟨-, rfl | present⟩ := Table.of_insert_changed changed
      · obtain rfl := h.key_of_grant? held found
        exact .inr ⟨_, _, rfl, held, admin, within⟩
      · rw [fresh] at present
        cases present
  | revoked held admin taken within kept wrote =>
      obtain ⟨-, rfl⟩ := deleteGrant_eq_ok.1 wrote
      obtain ⟨mem, -, circle⟩ := mem_grants_of_grant? (h.remove_grantsIn taken).1
      obtain ⟨-, found⟩ := Table.of_erase_changed changed
      rw [h.get?_of_mem mem] at found
      cases found
      exact .inr ⟨_, _, rfl, circle ▸ held, admin, within⟩
  | relevelled held admin taken within granted kept wrote =>
      obtain ⟨_, -, -, rfl, rfl⟩ := updateGrant_eq_ok.1 wrote
      obtain ⟨mem, -, circle⟩ := mem_grants_of_grant? (h.remove_grantsIn taken).1
      obtain ⟨-, rfl | found⟩ := Table.of_insert_changed changed
      · exact .inr ⟨_, _, rfl, circle ▸ held, admin, granted⟩
      · rw [Grant.withLevel, h.get?_of_mem mem] at found
        cases found
        exact .inr ⟨_, _, rfl, circle ▸ held, admin, within⟩
  | signed present unsigned opened wrote =>
      obtain ⟨_, -, rfl, rfl⟩ := upsertSignature_eq_ok.1 wrote
      exact absurd Iff.rfl changed
  | verified present parsed found success wrote =>
      obtain ⟨_, -, rfl, rfl⟩ := upsertSignature_eq_ok.1 wrote
      exact absurd Iff.rfl changed
  | unverified => exact absurd Iff.rfl changed

/-! ## One coalition -/

variable {A : Set MemberId} {c : CircleId} {L : TrustLevel}

/-- What an operation of a capped set changes in the circle stays under the cap, and is nothing if
the cap is below `admin`. -/
lemma Effect.capped_changes (h : s.WellFormed) (cap : s.Capped A c L) (e : Effect sv s o r s')
    (acting : ∀ a, o.actor? = some a → a ∈ A) {g : Grant}
    (changed : ¬(g ∈ s.grantsIn c ↔ g ∈ s'.grantsIn c)) : .admin ≤ L ∧ g.level ≤ L := by
  rw [mem_grantsIn, mem_grantsIn] at changed
  have circle : g.circle = c := by tauto
  subst circle
  obtain fresh | ⟨actor, own, acts, held, admin, within⟩ := e.backed h (g := g) (by tauto)
  · exact absurd fresh cap.present
  · have := cap.level_le actor (acting actor acts) own held
    exact ⟨le_trans admin this, le_trans within this⟩

lemma Effect.capped (h : s.WellFormed) (cap : s.Capped A c L) (e : Effect sv s o r s')
    (acting : ∀ a, o.actor? = some a → a ∈ A) : s'.Capped A c L := by
  have h' := h.effect e
  refine ⟨?_, fun a ha g held => ?_⟩
  · obtain ⟨circle, found⟩ := Option.ne_none_iff_exists'.1 cap.present
    rw [e.circle_stays found]
    exact Option.some_ne_none circle
  · obtain ⟨mem, member, circle⟩ := mem_grants_of_grant? held
    by_cases same : g ∈ s.grantsIn c ↔ g ∈ s'.grantsIn c
    · obtain ⟨mem, -⟩ := mem_grantsIn.1 (same.2 (mem_grantsIn.2 ⟨mem, circle⟩))
      exact cap.level_le a ha g (h.grant?_eq_some.2 ⟨mem, member, circle⟩)
    · exact (e.capped_changes h cap acting same).2

/-! ## Runs -/

/-- Only members of a set act in a run. -/
def ActsAlone (A : Set MemberId) (run : List Turn) : Prop :=
  ∀ t ∈ run, ∀ a, t.operation.actor? = some a → a ∈ A

/-- What a run of a capped set keeps. -/
lemma proceedAll_capped (sv : Service) {p : Progress} (h : p.store.WellFormed)
    (cap : p.store.Capped A c L) {run : List Turn} (alone : ActsAlone A run) :
    (sv.proceedAll p run).store.WellFormed ∧ (sv.proceedAll p run).store.Capped A c L ∧
      (L < .admin → ∀ g,
        g ∈ (sv.proceedAll p run).store.grantsIn c ↔ g ∈ p.store.grantsIn c) := by
  refine proceedAll_invariant (P := fun q => q.store.WellFormed ∧ q.store.Capped A c L ∧
    (L < .admin → ∀ g, g ∈ q.store.grantsIn c ↔ g ∈ p.store.grantsIn c)) run ?_
    ⟨h, cap, fun _ _ => Iff.rfl⟩
  intro q t ht ⟨h, cap, same⟩
  have e := sv.serve_effect q.store t
  refine ⟨h.effect e, e.capped h cap (alone t ht), fun low g => ?_⟩
  rw [← same low g]
  -- A grant that changed would be backed at `admin`, above the cap.
  by_contra changed
  have ⟨admin, _⟩ := e.capped_changes h cap (alone t ht) fun unchanged => changed unchanged.symm
  exact absurd low admin.not_gt

/-- **A coalition cannot raise itself.**  Take a circle that is there after a run, members none of
whom holds more than `L` in it, and a further run in which only they act.  At every point of it they
hold at most `L` in the circle, and every grant of the circle that the next turn creates, changes or
removes is at most at `L`.  If `L` is below `admin`, or if none of them holds a grant in the circle,
the circle's grants stay what they are. -/
theorem coalition_capped (sv : Service) (before : List Turn) (c : CircleId) (A : Set MemberId)
    (L : TrustLevel) (present : (sv.after before).store.circles.contains c = true)
    (highest : ∀ a ∈ A, ∀ g, (sv.after before).store.grant? a c = some g → g.level ≤ L)
    (run : List Turn) (alone : ActsAlone A run) (early late : List Turn)
    (split : run = early ++ late) :
    (∀ a ∈ A, ∀ g, (sv.after (before ++ early)).store.grant? a c = some g → g.level ≤ L) ∧
      (∀ t rest, late = t :: rest → ∀ g,
        ¬(g ∈ (sv.after (before ++ early)).store.grantsIn c ↔
          g ∈ (sv.after (before ++ early ++ [t])).store.grantsIn c) → g.level ≤ L) ∧
      ((L < .admin ∨ ∀ a ∈ A, (sv.after before).store.grant? a c = none) → ∀ g,
        g ∈ (sv.after (before ++ early)).store.grantsIn c ↔
          g ∈ (sv.after before).store.grantsIn c) := by
  subst split
  have there : (sv.after before).store.circles.get? c ≠ none := by
    rwa [Table.contains, Option.isSome_iff_ne_none] at present
  have start : (sv.after before).store.WellFormed := .after sv before
  have alone_early : ActsAlone A early := fun t ht => alone t (List.mem_append_left late ht)
  rw [after_append]
  obtain ⟨h, cap, same⟩ := proceedAll_capped sv start ⟨there, highest⟩ alone_early
  refine ⟨cap.level_le, ?_, ?_⟩
  · rintro t rest rfl g changed
    rw [after_append, after_append, proceedAll_cons, proceedAll_nil] at changed
    have e := sv.serve_effect (sv.proceedAll (sv.after before) early).store t
    exact (e.capped_changes h cap (alone t (by simp)) changed).2
  · rintro (low | none)
    · exact same low
    · -- Members without a grant are capped at the lowest level.
      have lowest : (sv.after before).store.Capped A c .all :=
        ⟨there, fun a ha g held => by rw [none a ha] at held; cases held⟩
      exact (proceedAll_capped sv start lowest alone_early).2.2 (by decide)

open SmallCircle in
/-- Bob, who may write in Alice's circle, tries to raise himself and then to remove her. -/
def ambition : List Turn :=
  [turn 50 (.changeLevel bob club bob .sysop), turn 60 (.removeGrant bob club alice)]

open SmallCircle in
theorem coalition_capped_smallCircle :
    (∀ g, (service.after (founded ++ ambition)).store.grant? bob club = some g →
      g.level ≤ .write) ∧
    ∀ g, g ∈ (service.after (founded ++ ambition)).store.grantsIn club ↔
      g ∈ (service.after founded).store.grantsIn club := by
  have present : (service.after founded).store.circles.contains club = true := by decide +kernel
  have level : ((service.after founded).store.grant? bob club).map Grant.level = some .write := by
    decide +kernel
  have highest : ∀ a ∈ ({bob} : Set MemberId), ∀ g,
      (service.after founded).store.grant? a club = some g → g.level ≤ .write := by
    rintro a rfl g held
    rw [held] at level
    exact le_of_eq (Option.some.inj level)
  have alone : ActsAlone {bob} ambition := by
    intro t ht a acts
    simp only [ambition, List.mem_cons, List.not_mem_nil, or_false] at ht
    obtain rfl | rfl := ht <;> exact (Option.some.inj acts).symm
  have capped := coalition_capped service founded club {bob} .write present highest ambition alone
    ambition [] (List.append_nil ambition).symm
  exact ⟨capped.1 bob rfl, capped.2.2 (.inl (by decide))⟩

end Service

end CircleVault
