import CircleVault.Store.Call
import CircleVault.Proofs.Work
import Mathlib.Logic.Basic

/-!
# What the store writes

Each write of the store is described once, on both sides.  It is accepted exactly under its guards,
the record stored is the one given with new timestamps, and nothing else of the store changes but
its clock.  And where it is refused, it has not changed the store (`Write.Spares`), because it works
on the store in place and makes its checks before its first change.  Everything said about writes
elsewhere is drawn from these descriptions.

`Leaves` puts them together for a call of any kind, without the guards: which record a call files or
removes, if it does anything.
-/

namespace CircleVault

namespace Store

variable {s s' : Store} {now : Timestamp}

/-- A write that was refused has left the store as it was. -/
def Write.Spares {α : Type} (w : Write α) (s : Store) : Prop := ∀ e s', w = .error e s' → s' = s

/-- What holds of a store, and of the store after a write that is accepted, holds after the write,
because a refused one leaves the store as it is. -/
lemma settle_kept {α : Type} {P : Store → Prop} {w : Write α} (spares : w.Spares s) (before : P s)
    (kept : ∀ a s', w = .ok a s' → P s') : P (settle w).2 := by
  cases w with
  | ok a s' => exact kept a s' rfl
  | error e s' =>
      obtain rfl := spares e s' rfl
      exact before

open Work

variable {α : Type}

lemma run_advance {k : Timestamp → Work StoreFailure Store α} :
    (advance now >>= k).run s = (k (s.tick now)).run { s with clock := s.tick now } := rfl

/-- Traceless work makes a write that leaves the store as it was where it is refused. -/
lemma Write.Spares.write {w : Work StoreFailure Store α} (traceless : w.Traceless) :
    (s.write w).Spares s :=
  traceless s

/-- From the timestamp on, nothing may be refused. -/
lemma traceless_advance {k : Timestamp → Work StoreFailure Store α}
    (sure : ∀ t, (k t).Sure) : Traceless (advance now >>= k) :=
  (Sure.modifyGet sure).traceless

/-! ## Members -/

lemma insertMember_eq_ok {m stored : Member} :
    s.insertMember now m = .ok stored s' ↔
      s.members.get? m.id = none ∧ (∀ o ∈ s.members.values, o.name ≠ m.name) ∧
        stored = { m with added := s.tick now, altered := s.tick now } ∧
        s' = { s with members := s.members.insert m.id stored, clock := s.tick now } := by
  simp only [insertMember, write, refuseIf_eq_ok, run_advance, run_modify, run_pure,
    Table.contains_eq_false, List.any_eq_false, decide_eq_true_eq, EStateM.Result.ok.injEq]
  constructor
  · rintro ⟨fresh, unnamed, rfl, rfl⟩
    exact ⟨fresh, unnamed, rfl, rfl⟩
  · rintro ⟨fresh, unnamed, rfl, rfl⟩
    exact ⟨fresh, unnamed, rfl, rfl⟩

lemma insertMember_spares {m : Member} : (s.insertMember now m).Spares s :=
  .write <| .check <| .check <| traceless_advance fun _ => .modify (.pure _)

lemma updateMember_eq_ok {m stored : Member} :
    s.updateMember now m = .ok stored s' ↔
      ∃ present, s.members.get? m.id = some present ∧
        (∀ o ∈ s.members.values, o.id ≠ m.id → o.name ≠ m.name) ∧
        stored = { m with added := present.added, altered := s.tick now } ∧
        s' = { s with members := s.members.insert m.id stored, clock := s.tick now } := by
  simp only [updateMember, write, find_eq_ok, refuseIf_eq_ok, run_advance, run_modify, run_pure,
    List.any_eq_false, Bool.and_eq_true, decide_eq_true_eq, not_and, EStateM.Result.ok.injEq]
  constructor
  · rintro ⟨present, found, unnamed, rfl, rfl⟩
    exact ⟨present, found, unnamed, rfl, rfl⟩
  · rintro ⟨present, found, unnamed, rfl, rfl⟩
    exact ⟨present, found, unnamed, rfl, rfl⟩

lemma updateMember_spares {m : Member} : (s.updateMember now m).Spares s :=
  .write <| .judge fun _ => .check <| traceless_advance fun _ => .modify (.pure _)

/-! ## Circles -/

lemma insertCircle_eq_ok {c stored : Circle} :
    s.insertCircle now c = .ok stored s' ↔
      s.circles.get? c.id = none ∧ (∀ o ∈ s.circles.values, o.name ≠ c.name) ∧
        stored = { c with added := s.tick now, altered := s.tick now } ∧
        s' = { s with circles := s.circles.insert c.id stored, clock := s.tick now } := by
  simp only [insertCircle, write, refuseIf_eq_ok, run_advance, run_modify, run_pure,
    Table.contains_eq_false, List.any_eq_false, decide_eq_true_eq, EStateM.Result.ok.injEq]
  constructor
  · rintro ⟨fresh, unnamed, rfl, rfl⟩
    exact ⟨fresh, unnamed, rfl, rfl⟩
  · rintro ⟨fresh, unnamed, rfl, rfl⟩
    exact ⟨fresh, unnamed, rfl, rfl⟩

lemma insertCircle_spares {c : Circle} : (s.insertCircle now c).Spares s :=
  .write <| .check <| .check <| traceless_advance fun _ => .modify (.pure _)

lemma createCircle_eq_ok {f stored : Founded} :
    s.createCircle now f = .ok stored s' ↔
      s.circles.get? f.circle.id = none ∧ (∀ o ∈ s.circles.values, o.name ≠ f.circle.name) ∧
        (f.key.circle = f.circle.id ∧ f.owner.circle = f.circle.id ∧ f.owner.key = f.key.id) ∧
        s.keys.get? f.key.id = none ∧ s.members.get? f.owner.member ≠ none ∧
        s.grants.get? f.owner.id = none ∧
        stored =
          ⟨{ f.circle with added := s.tick now, altered := s.tick now },
            { f.key with added := s.tick now, altered := s.tick now },
            { f.owner with added := s.tick now, altered := s.tick now }⟩ ∧
        s' =
          { s with
            circles := s.circles.insert f.circle.id stored.circle
            keys := s.keys.insert f.key.id stored.key
            grants := s.grants.insert f.owner.id stored.owner
            clock := s.tick now } := by
  simp only [createCircle, write, refuseIf_eq_ok, run_advance, run_modify, run_pure,
    Table.contains_eq_false, Table.contains_eq_true, List.any_eq_false, decide_eq_true_eq,
    Bool.or_eq_false_iff, decide_eq_false_iff_not, Bool.not_eq_false', and_assoc,
    ne_eq, not_not, EStateM.Result.ok.injEq]
  constructor
  · rintro ⟨fresh, unnamed, key, home, own, freshKey, holder, freshGrant, rfl, rfl⟩
    exact ⟨fresh, unnamed, key, home, own, freshKey, holder, freshGrant, rfl, rfl⟩
  · rintro ⟨fresh, unnamed, key, home, own, freshKey, holder, freshGrant, rfl, rfl⟩
    exact ⟨fresh, unnamed, key, home, own, freshKey, holder, freshGrant, rfl, rfl⟩

/-- All checks of a founding come before the first of its three records is filed. -/
lemma createCircle_spares {f : Founded} : (s.createCircle now f).Spares s :=
  .write <| .check <| .check <| .check <| .check <| .check <| .check <| traceless_advance
    fun _ => .modify <| .modify <| .modify (.pure _)

/-! ## Keys -/

lemma insertKey_eq_ok {k stored : CircleKey} :
    s.insertKey now k = .ok stored s' ↔
      s.circles.get? k.circle ≠ none ∧ s.keys.get? k.id = none ∧
        (k.isActive = true → ∀ o ∈ s.keys.values, o.circle = k.circle → o.isActive = false) ∧
        stored = { k with added := s.tick now, altered := s.tick now } ∧
        s' = { s with keys := s.keys.insert k.id stored, clock := s.tick now } := by
  simp only [insertKey, write, refuseIf_eq_ok, run_advance, run_modify, run_pure,
    Table.contains_eq_false, Table.contains_eq_true, Bool.not_eq_false', ne_eq,
    EStateM.Result.ok.injEq]
  constructor
  · rintro ⟨home, fresh, alone, rfl, rfl⟩
    exact ⟨home, fresh, by simpa using alone, rfl, rfl⟩
  · rintro ⟨home, fresh, alone, rfl, rfl⟩
    exact ⟨home, fresh, by simpa using alone, rfl, rfl⟩

lemma insertKey_spares {k : CircleKey} : (s.insertKey now k).Spares s :=
  .write <| .check <| .check <| .check <| traceless_advance fun _ => .modify (.pure _)

lemma updateKey_eq_ok {k stored : CircleKey} :
    s.updateKey now k = .ok stored s' ↔
      ∃ present, s.keys.get? k.id = some present ∧
        (k.isActive = true →
          ∀ o ∈ s.keys.values, o.id ≠ k.id → o.circle = k.circle → o.isActive = false) ∧
        stored = { k with added := present.added, altered := s.tick now } ∧
        s' = { s with keys := s.keys.insert k.id stored, clock := s.tick now } := by
  simp only [updateKey, write, find_eq_ok, refuseIf_eq_ok, run_advance, run_modify, run_pure,
    EStateM.Result.ok.injEq]
  constructor
  · rintro ⟨present, found, alone, rfl, rfl⟩
    exact ⟨present, found, by simpa using alone, rfl, rfl⟩
  · rintro ⟨present, found, alone, rfl, rfl⟩
    exact ⟨present, found, by simpa using alone, rfl, rfl⟩

lemma updateKey_spares {k : CircleKey} : (s.updateKey now k).Spares s :=
  .write <| .judge fun _ => .check <| traceless_advance fun _ => .modify (.pure _)

/-! ## Grants -/

lemma insertGrant_eq_ok {g stored : Grant} :
    s.insertGrant now g = .ok stored s' ↔
      s.members.get? g.member ≠ none ∧ s.circles.get? g.circle ≠ none ∧
        s.grants.get? g.id = none ∧
        (∀ o ∈ s.grants.values, o.member = g.member → o.circle ≠ g.circle) ∧
        stored = { g with added := s.tick now, altered := s.tick now } ∧
        s' = { s with grants := s.grants.insert g.id stored, clock := s.tick now } := by
  simp only [insertGrant, write, refuseIf_eq_ok, run_advance, run_modify, run_pure,
    Table.contains_eq_false, Table.contains_eq_true, Bool.not_eq_false', Bool.or_eq_false_iff,
    List.any_eq_false, Bool.and_eq_true, decide_eq_true_eq, not_and, ne_eq, and_assoc,
    EStateM.Result.ok.injEq]
  constructor
  · rintro ⟨holder, home, fresh, alone, rfl, rfl⟩
    exact ⟨holder, home, fresh, alone, rfl, rfl⟩
  · rintro ⟨holder, home, fresh, alone, rfl, rfl⟩
    exact ⟨holder, home, fresh, alone, rfl, rfl⟩

lemma insertGrant_spares {g : Grant} : (s.insertGrant now g).Spares s :=
  .write <| .check <| .check <| .check <| traceless_advance fun _ => .modify (.pure _)

lemma updateGrant_eq_ok {g stored : Grant} :
    s.updateGrant now g = .ok stored s' ↔
      ∃ present, s.grants.get? g.id = some present ∧
        (present.member = g.member ∧ present.circle = g.circle) ∧
        stored = { g with added := present.added, altered := s.tick now } ∧
        s' = { s with grants := s.grants.insert g.id stored, clock := s.tick now } := by
  simp only [updateGrant, write, find_eq_ok, refuseIf_eq_ok, run_advance, run_modify, run_pure,
    Bool.or_eq_false_iff, decide_eq_false_iff_not, ne_eq, not_not, EStateM.Result.ok.injEq]
  constructor
  · rintro ⟨present, found, unmoved, rfl, rfl⟩
    exact ⟨present, found, unmoved, rfl, rfl⟩
  · rintro ⟨present, found, unmoved, rfl, rfl⟩
    exact ⟨present, found, unmoved, rfl, rfl⟩

lemma updateGrant_spares {g : Grant} : (s.updateGrant now g).Spares s :=
  .write <| .judge fun _ => .check <| traceless_advance fun _ => .modify (.pure _)

/-- A stored grant can always be replaced by one of the same member and circle. -/
lemma updateGrant_ne_error {g present : Grant} (found : s.grants.get? g.id = some present)
    (unmoved : present.member = g.member ∧ present.circle = g.circle) (e : StoreFailure) :
    s.updateGrant now g ≠ .error e s' := by
  have accepted : s.updateGrant now g = .ok _ _ :=
    updateGrant_eq_ok.2 ⟨present, found, unmoved, rfl, rfl⟩
  simp [accepted]

lemma deleteGrant_of_found {id : GrantId} {g : Grant} (found : s.grants.get? id = some g) :
    s.deleteGrant id = .ok () { s with grants := s.grants.erase id } := by
  simp only [deleteGrant, write, run_modifyGet, found, run_pure]

lemma deleteGrant_of_absent {id : GrantId} (absent : s.grants.get? id = none) :
    s.deleteGrant id = .error (.missing id) { s with grants := s.grants.erase id } := by
  simp only [deleteGrant, write, run_modifyGet, absent]
  rfl

lemma deleteGrant_eq_ok {id : GrantId} {u : Unit} :
    s.deleteGrant id = .ok u s' ↔
      s.grants.get? id ≠ none ∧ s' = { s with grants := s.grants.erase id } := by
  cases found : s.grants.get? id with
  | none => simp [deleteGrant_of_absent found]
  | some g => simp [deleteGrant_of_found found, eq_comm]

/-- The grant was taken out of the table before the refusal, but it was not there. -/
lemma deleteGrant_spares {id : GrantId} : (s.deleteGrant id).Spares s := by
  intro e s' refused
  cases found : s.grants.get? id with
  | none =>
      rw [deleteGrant_of_absent found, Table.erase_of_absent found] at refused
      cases refused
      rfl
  | some g =>
      rw [deleteGrant_of_found found] at refused
      cases refused

/-- A stored grant can always be removed. -/
lemma deleteGrant_ne_error {id : GrantId} {g : Grant} (found : s.grants.get? id = some g)
    (e : StoreFailure) : s.deleteGrant id ≠ .error e s' := by
  simp [deleteGrant_of_found found]

/-! ## Signatures -/

lemma upsertSignature_eq_ok {r stored : SignedRecord} :
    s.upsertSignature now r = .ok stored s' ↔
      ∃ added, s.signatureAdded r = .ok added ∧
        stored = { r with added, altered := s.tick now } ∧
        s' =
          { s with
            signatures := s.signatures.insert (r.checksum, r.publicKey) stored
            clock := s.tick now } := by
  simp only [upsertSignature, write, judge_eq_ok, run_advance, run_modify, run_pure,
    EStateM.Result.ok.injEq]
  constructor
  · rintro ⟨added, settled, rfl, rfl⟩
    exact ⟨added, settled, rfl, rfl⟩
  · rintro ⟨added, settled, rfl, rfl⟩
    exact ⟨added, settled, rfl, rfl⟩

lemma upsertSignature_of_refused {r : SignedRecord} {e : StoreFailure}
    (refused : s.signatureAdded r = .error e) : s.upsertSignature now r = .error e s :=
  judge_eq_error.2 (.inl ⟨refused, rfl⟩)

lemma upsertSignature_spares {r : SignedRecord} : (s.upsertSignature now r).Spares s :=
  .write <| .judge fun _ => traceless_advance fun _ => .modify (.pure _)

/-! ## Any call -/

/-- What a call leaves behind: the store as it was, or with the record that the call files or
without the one that it removes. -/
inductive Leaves (s : Store) : Call → Store → Prop where
  | unchanged {c : Call} : Leaves s c s
  | insertedMember {m stored : Member} {t : Timestamp} : Leaves s (.insertMember m)
      { s with members := s.members.insert m.id stored, clock := t }
  | updatedMember {m stored : Member} {t : Timestamp} : Leaves s (.updateMember m)
      { s with members := s.members.insert m.id stored, clock := t }
  | insertedCircle {c stored : Circle} {t : Timestamp} : Leaves s (.insertCircle c)
      { s with circles := s.circles.insert c.id stored, clock := t }
  | createdCircle {f stored : Founded} {t : Timestamp} : Leaves s (.createCircle f)
      { s with
        circles := s.circles.insert f.circle.id stored.circle
        keys := s.keys.insert f.key.id stored.key
        grants := s.grants.insert f.owner.id stored.owner
        clock := t }
  | insertedKey {k stored : CircleKey} {t : Timestamp} : Leaves s (.insertKey k)
      { s with keys := s.keys.insert k.id stored, clock := t }
  | updatedKey {k stored : CircleKey} {t : Timestamp} : Leaves s (.updateKey k)
      { s with keys := s.keys.insert k.id stored, clock := t }
  | insertedGrant {g stored : Grant} {t : Timestamp} : Leaves s (.insertGrant g)
      { s with grants := s.grants.insert g.id stored, clock := t }
  | updatedGrant {g stored : Grant} {t : Timestamp} : Leaves s (.updateGrant g)
      { s with grants := s.grants.insert g.id stored, clock := t }
  | deletedGrant {id : GrantId} : Leaves s (.deleteGrant id) { s with grants := s.grants.erase id }
  | upsertedSignature {r stored : SignedRecord} {t : Timestamp} : Leaves s (.upsertSignature r)
      { s with signatures := s.signatures.insert (r.checksum, r.publicKey) stored, clock := t }

/-- **Every call leaves what it says.** -/
theorem answer_leaves (s : Store) (now : Timestamp) (c : Call) : s.Leaves c (s.answer now c).2 := by
  cases c with
  | insertMember m =>
      refine settle_kept insertMember_spares .unchanged fun _ _ wrote => ?_
      obtain ⟨-, -, -, rfl⟩ := insertMember_eq_ok.1 wrote
      exact .insertedMember
  | updateMember m =>
      refine settle_kept updateMember_spares .unchanged fun _ _ wrote => ?_
      obtain ⟨_, -, -, -, rfl⟩ := updateMember_eq_ok.1 wrote
      exact .updatedMember
  | insertCircle c =>
      refine settle_kept insertCircle_spares .unchanged fun _ _ wrote => ?_
      obtain ⟨-, -, -, rfl⟩ := insertCircle_eq_ok.1 wrote
      exact .insertedCircle
  | createCircle f =>
      refine settle_kept createCircle_spares .unchanged fun _ _ wrote => ?_
      obtain ⟨-, -, -, -, -, -, -, rfl⟩ := createCircle_eq_ok.1 wrote
      exact .createdCircle
  | insertKey k =>
      refine settle_kept insertKey_spares .unchanged fun _ _ wrote => ?_
      obtain ⟨-, -, -, -, rfl⟩ := insertKey_eq_ok.1 wrote
      exact .insertedKey
  | updateKey k =>
      refine settle_kept updateKey_spares .unchanged fun _ _ wrote => ?_
      obtain ⟨_, -, -, -, rfl⟩ := updateKey_eq_ok.1 wrote
      exact .updatedKey
  | insertGrant g =>
      refine settle_kept insertGrant_spares .unchanged fun _ _ wrote => ?_
      obtain ⟨-, -, -, -, -, rfl⟩ := insertGrant_eq_ok.1 wrote
      exact .insertedGrant
  | updateGrant g =>
      refine settle_kept updateGrant_spares .unchanged fun _ _ wrote => ?_
      obtain ⟨_, -, -, -, rfl⟩ := updateGrant_eq_ok.1 wrote
      exact .updatedGrant
  | deleteGrant id =>
      refine settle_kept deleteGrant_spares .unchanged fun _ _ wrote => ?_
      obtain ⟨-, rfl⟩ := deleteGrant_eq_ok.1 wrote
      exact .deletedGrant
  | upsertSignature r =>
      refine settle_kept upsertSignature_spares .unchanged fun _ _ wrote => ?_
      obtain ⟨_, -, -, rfl⟩ := upsertSignature_eq_ok.1 wrote
      exact .upsertedSignature
  | _ => exact .unchanged

/-- Circles are never removed. -/
lemma Leaves.circle_stays {c : Call} (h : s.Leaves c s') {id : CircleId}
    (there : s.circles.get? id ≠ none) : s'.circles.get? id ≠ none := by
  cases h with
  | insertedCircle => exact Table.get?_insert_ne_none there
  | createdCircle => exact Table.get?_insert_ne_none there
  | _ => exact there

end Store

end CircleVault
