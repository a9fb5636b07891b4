import CircleVault.Proofs.Effect
import CircleVault.Proofs.Records

/-!
# Well-formed circles

What the service keeps beyond what the store keeps by itself: a circle has one key, which may
receive grants; a grant is made for the key of its own circle; and a circle has a sysop.  The store
alone promises none of this, because it accepts any key and any grant that names a circle.

`Store.WellFormed` collects these facts over the four tables.  Each write of the service restores
them under what the operation checked before it, `WellFormed.effect` puts this together for one
operation, and `WellFormed.after` for every run.  The same facts in terms of a single circle and of
its listing are `Store.InOrder`.
-/

namespace CircleVault

namespace Store

/-- What the service keeps. -/
structure WellFormed (s : Store) : Prop extends Integrity s where
  key_active : ∀ id k, s.keys.get? id = some k → k.isActive = true
  key_circle : ∀ id k, s.keys.get? id = some k → s.circles.get? k.circle ≠ none
  key_unique : ∀ id id' k k', s.keys.get? id = some k → s.keys.get? id' = some k' →
    k.circle = k'.circle → id = id'
  grant_key : ∀ id g, s.grants.get? id = some g →
    ∃ k, s.keys.get? g.key = some k ∧ k.circle = g.circle
  circle_key : ∀ c, s.circles.get? c ≠ none → ∃ id k, s.keys.get? id = some k ∧ k.circle = c
  circle_sysop : ∀ c, s.circles.get? c ≠ none →
    ∃ id g, s.grants.get? id = some g ∧ g.circle = c ∧ g.level = .sysop

namespace WellFormed

variable {s s' : Store} {now : Timestamp}

lemma empty : WellFormed .empty := by
  refine { Integrity.empty with
    key_active := ?_, key_circle := ?_, key_unique := ?_
    grant_key := ?_, circle_key := ?_, circle_sysop := ?_ } <;> simp [Store.empty]

/-! ## One write -/

/-- Writes of members and signatures leave circles, keys and grants alone. -/
lemma frame (h : s.WellFormed) (integrity : s'.Integrity) (circles : s'.circles = s.circles)
    (keys : s'.keys = s.keys) (grants : s'.grants = s.grants) : s'.WellFormed := by
  refine { integrity with
    key_active := ?_, key_circle := ?_, key_unique := ?_
    grant_key := ?_, circle_key := ?_, circle_sysop := ?_ }
  · rw [keys]
    exact h.key_active
  · rw [keys, circles]
    exact h.key_circle
  · rw [keys]
    exact h.key_unique
  · rw [grants, keys]
    exact h.grant_key
  · rw [circles, keys]
    exact h.circle_key
  · rw [circles, grants]
    exact h.circle_sysop

/-- A new circle brings its one key and its first sysop. -/
lemma createCircle (h : s.WellFormed) {f stored : Founded} (active : f.key.isActive = true)
    (sysop : f.owner.level = .sysop) (wrote : s.createCircle now f = .ok stored s') :
    s'.WellFormed := by
  have integrity := h.toIntegrity.createCircle wrote
  obtain ⟨fresh, -, ⟨keyHome, home, key⟩, freshKey, -, freshGrant, rfl, rfl⟩ :=
    createCircle_eq_ok.1 wrote
  refine { integrity with
    key_active := ?_, key_circle := ?_, key_unique := ?_
    grant_key := ?_, circle_key := ?_, circle_sysop := ?_ }
  · exact Table.forall_insert h.key_active active
  · refine Table.forall_insert (fun id k found => ?_) ?_
    · exact Table.get?_insert_ne_none (h.key_circle id k found)
    · simp [keyHome]
  · refine Table.unique_insert h.key_unique fun id k found same => ?_
    exact absurd (same.trans keyHome ▸ fresh) (h.key_circle id k found)
  · refine Table.forall_insert (fun id g found => ?_) ?_
    · obtain ⟨k, there, circle⟩ := h.grant_key id g found
      exact ⟨k, Table.get?_insert_of_fresh freshKey there, circle⟩
    · refine ⟨{ f.key with added := s.tick now, altered := s.tick now }, ?_,
        keyHome.trans home.symm⟩
      exact (congrArg _ key).trans (Table.get?_insert_self ..)
  · intro c present
    by_cases new : c = f.circle.id
    · exact ⟨f.key.id, _, Table.get?_insert_self .., keyHome.trans new.symm⟩
    · obtain ⟨id, k, found, circle⟩ := h.circle_key c (by simpa [new] using present)
      exact ⟨id, k, Table.get?_insert_of_fresh freshKey found, circle⟩
  · intro c present
    by_cases new : c = f.circle.id
    · exact ⟨f.owner.id, _, Table.get?_insert_self .., home.trans new.symm, sysop⟩
    · obtain ⟨id, g, found, circle, level⟩ := h.circle_sysop c (by simpa [new] using present)
      exact ⟨id, g, Table.get?_insert_of_fresh freshGrant found, circle, level⟩

lemma insertGrant (h : s.WellFormed) {g stored : Grant} {k : CircleKey}
    (key : s.keys.get? g.key = some k) (home : k.circle = g.circle)
    (wrote : s.insertGrant now g = .ok stored s') : s'.WellFormed := by
  have integrity := h.toIntegrity.insertGrant wrote
  obtain ⟨-, -, fresh, -, rfl, rfl⟩ := insertGrant_eq_ok.1 wrote
  refine { integrity with
    key_active := h.key_active, key_circle := h.key_circle, key_unique := h.key_unique
    circle_key := h.circle_key, grant_key := ?_, circle_sysop := ?_ }
  · exact Table.forall_insert h.grant_key ⟨k, key, home⟩
  · intro c present
    obtain ⟨id, o, found, circle, level⟩ := h.circle_sysop c present
    exact ⟨id, o, Table.get?_insert_of_fresh fresh found, circle, level⟩

/-- A revoked grant leaves a sysop in its circle, if another grant is at that level. -/
lemma deleteGrant (h : s.WellFormed) {g o : Grant} {u : Unit}
    (mem : g ∈ s.grants.values) (other : o ∈ s.grants.values) (home : o.circle = g.circle)
    (holder : o.member ≠ g.member) (sysop : o.level = .sysop)
    (wrote : s.deleteGrant g.id = .ok u s') : s'.WellFormed := by
  have integrity := h.toIntegrity.deleteGrant wrote
  obtain ⟨-, rfl⟩ := deleteGrant_eq_ok.1 wrote
  have here := h.get?_of_mem mem
  have there := h.get?_of_mem other
  refine { integrity with
    key_active := h.key_active, key_circle := h.key_circle, key_unique := h.key_unique
    circle_key := h.circle_key, grant_key := ?_, circle_sysop := ?_ }
  · intro id g found
    exact h.grant_key id g (Table.get?_of_erase found)
  · intro c present
    obtain ⟨id, o', found, circle, level⟩ := h.circle_sysop c present
    by_cases gone : id = g.id
    · have same : o' = g := Option.some.inj (found.symm.trans (gone ▸ here))
      have apart : o.id ≠ g.id := fun same =>
        holder (congrArg Grant.member (h.grant_eq_of_id other mem same))
      refine ⟨o.id, o, ?_, home.trans (same ▸ circle), sysop⟩
      rw [Table.get?_erase, if_neg apart, there]
    · exact ⟨id, o', by rw [Table.get?_erase, if_neg gone, found], circle, level⟩

/-- A grant at another level leaves a sysop in its circle, if it is at that level itself or another
grant is. -/
lemma updateGrant (h : s.WellFormed) {g stored : Grant} {level : TrustLevel}
    (mem : g ∈ s.grants.values)
    (kept : level = .sysop ∨ ∃ o ∈ s.grants.values, o.circle = g.circle ∧ o.member ≠ g.member ∧
      o.level = .sysop)
    (wrote : s.updateGrant now (g.withLevel level) = .ok stored s') : s'.WellFormed := by
  have integrity := h.toIntegrity.updateGrant wrote
  obtain ⟨present, found, -, rfl, rfl⟩ := updateGrant_eq_ok.1 wrote
  have here := h.get?_of_mem mem
  refine { integrity with
    key_active := h.key_active, key_circle := h.key_circle, key_unique := h.key_unique
    circle_key := h.circle_key, grant_key := ?_, circle_sysop := ?_ }
  · exact Table.forall_insert h.grant_key (h.grant_key g.id g here)
  · intro c present
    obtain ⟨id, o', found', circle, sysop⟩ := h.circle_sysop c present
    by_cases replaced : id = g.id
    · have same : o' = g := Option.some.inj (found'.symm.trans (replaced ▸ here))
      obtain rfl | ⟨o, other, home, holder, sysop⟩ := kept
      · exact ⟨g.id, _, Table.get?_insert_self .., same ▸ circle, rfl⟩
      · have there := h.get?_of_mem other
        have apart : o.id ≠ g.id := fun same =>
          holder (congrArg Grant.member (h.grant_eq_of_id other mem same))
        refine ⟨o.id, o, ?_, home.trans (same ▸ circle), sysop⟩
        exact (Table.get?_insert ..).trans ((if_neg apart).trans there)
    · exact ⟨id, o', (Table.get?_insert ..).trans ((if_neg replaced).trans found'), circle, sysop⟩

/-! ## One operation -/

lemma hasSysop_iff {grants : List Grant} :
    Service.hasSysop grants = true ↔ ∃ g ∈ grants, g.level = .sysop := by
  simp [Service.hasSysop]

/-- Every operation keeps circles well-formed. -/
theorem effect (h : s.WellFormed) {sv : Service} {o : Operation} {r : Except Failure o.Result}
    (e : Service.Effect sv s o r s') : s'.WellFormed := by
  cases e with
  | refused => exact h
  | answered => exact h
  | registered made wrote =>
      have integrity := h.toIntegrity.insertMember wrote
      obtain ⟨-, -, rfl, rfl⟩ := insertMember_eq_ok.1 wrote
      exact h.frame integrity rfl rfl rfl
  | reprotected present made wrote =>
      have integrity := h.toIntegrity.updateMember wrote
      obtain ⟨_, -, -, rfl, rfl⟩ := updateMember_eq_ok.1 wrote
      exact h.frame integrity rfl rfl rfl
  | founded present made granted wrote =>
      obtain ⟨-, rfl⟩ := Founding.make_eq_ok.1 made
      obtain ⟨-, -, _, -, rfl⟩ := Grant.make_eq_ok.1 granted
      exact h.createCircle rfl rfl wrote
  | granted held admin within present found opener opened made wrote =>
      obtain ⟨-, -, _, -, rfl⟩ := Grant.make_eq_ok.1 made
      rw [← h.key_id _ _ found] at found
      refine h.insertGrant ?_ rfl wrote
      exact found
  | revoked held admin taken within kept wrote =>
      obtain ⟨here, others⟩ := h.remove_grantsIn taken
      obtain ⟨mem, member, circle⟩ := mem_grants_of_grant? here
      obtain ⟨o, ho, sysop⟩ := hasSysop_iff.1 kept
      obtain ⟨other, home, holder⟩ := (others o).1 ho
      exact h.deleteGrant mem other (home.trans circle.symm) (member ▸ holder) sysop wrote
  | relevelled held admin taken within granted kept wrote =>
      obtain ⟨here, others⟩ := h.remove_grantsIn taken
      obtain ⟨mem, member, circle⟩ := mem_grants_of_grant? here
      refine h.updateGrant mem ?_ wrote
      obtain ⟨o, ho, sysop⟩ := hasSysop_iff.1 kept
      obtain rfl | ho := List.mem_cons.1 ho
      · exact .inl sysop
      · obtain ⟨other, home, holder⟩ := (others o).1 ho
        exact .inr ⟨o, other, home.trans circle.symm, member ▸ holder, sysop⟩
  | signed present unsigned opened wrote =>
      have integrity := h.toIntegrity.upsertSignature wrote
      obtain ⟨_, -, rfl, rfl⟩ := upsertSignature_eq_ok.1 wrote
      exact h.frame integrity rfl rfl rfl
  | verified present parsed found success wrote =>
      have integrity := h.toIntegrity.upsertSignature wrote
      obtain ⟨_, -, rfl, rfl⟩ := upsertSignature_eq_ok.1 wrote
      exact h.frame integrity rfl rfl rfl
  | unverified => exact h

/-- After every run, circles are well-formed. -/
theorem after (sv : Service) (run : List Turn) : (sv.after run).store.WellFormed :=
  Service.after_invariant (P := fun p => p.store.WellFormed) empty
    (fun p t h => h.effect (sv.serve_effect p.store t)) run

end WellFormed

/-! ## One circle -/

/-- A circle has a sysop and one key, which may receive grants; its grants are for that key, their
holders are there, and nobody holds two of them. -/
structure InOrder (s : Store) (c : CircleId) : Prop where
  sysop : ∃ g ∈ s.grantsIn c, g.level = .sysop
  key : ∃ k, (s.keys.values.filter fun k => k.circle = c) = [k] ∧ k.isActive = true ∧
    ∀ g ∈ s.grantsIn c, g.key = k.id ∧ s.key? g.key = some k
  once : ((s.grantsIn c).map Grant.member).Nodup
  holder : ∀ g ∈ s.grantsIn c, (s.member? g.member).isSome = true

namespace WellFormed

variable {s : Store}

/-- The circle of a well-formed store is in order. -/
theorem inOrder (h : s.WellFormed) {c : CircleId} (present : s.circles.get? c ≠ none) :
    s.InOrder c := by
  obtain ⟨id, k, found, home⟩ := h.circle_key c present
  have filed := h.key_id id k found
  refine ⟨?_, ⟨k, ?_, h.key_active id k found, fun g hg => ?_⟩, h.nodup_grantsIn c, fun g hg => ?_⟩
  · obtain ⟨_, g, found, circle, sysop⟩ := h.circle_sysop c present
    exact ⟨g, mem_grantsIn.2 ⟨Table.mem_values_of_get? found, circle⟩, sysop⟩
  · refine Table.filter_values_eq_singleton found (by simpa using home) ?_
    intro id' k' found' home'
    exact h.key_unique id' id k' k found' found (by simpa [home] using home')
  · obtain ⟨mem, circle⟩ := mem_grantsIn.1 hg
    obtain ⟨k', found', home'⟩ := h.grant_key g.id g (h.get?_of_mem mem)
    have same := h.key_unique _ _ _ _ found' found (home'.trans (circle.trans home.symm))
    exact ⟨same.trans filed.symm, by rw [key?, same, found]⟩
  · obtain ⟨mem, -⟩ := mem_grantsIn.1 hg
    exact Option.isSome_iff_ne_none.2 (h.grant_member g.id g (h.get?_of_mem mem))

/-- The key of a member's grant in a circle is the circle's. -/
lemma key_of_grant? (h : s.WellFormed) {m : MemberId} {c : CircleId} {g : Grant} {k : CircleKey}
    (held : s.grant? m c = some g) (found : s.key? g.key = some k) : k.circle = c := by
  obtain ⟨mem, -, circle⟩ := mem_grants_of_grant? held
  obtain ⟨k', found', home⟩ := h.grant_key g.id g (h.get?_of_mem mem)
  rw [key?, found'] at found
  cases found
  exact home.trans circle

/-! ## Granting -/

open Program in
/-- Where circles are well-formed, granting never misses the key of the actor's own grant. -/
lemma addGrant_keyed (h : s.WellFormed) (sv : Service) (actor : MemberId) (passphrase : String)
    (circle : CircleId) (target : MemberId) (level : TrustLevel) (drawn : Grant.Draw)
    (clock : Nat → Timestamp) :
    (sv.addGrant actor passphrase circle target level drawn).Meets clock s fun r _ =>
      r ≠ .error .grantKeyMissing ∧ r ≠ .error .keyRetired := by
  refine .authorize (fun own held _ => ?_) (fun _ => by simp) (fun _ _ _ => by simp)
  obtain ⟨mem, -, -⟩ := mem_grants_of_grant? held
  obtain ⟨k, there, -⟩ := h.grant_key own.id own (h.get?_of_mem mem)
  refine .require (fun _ => ?_) (fun _ => by simp)
  refine .member (fun recipient _ => ?_) (fun _ => by simp)
  refine .keyOf (fun key found active => ?_) (fun missing => ?_) (fun key found retired => ?_)
  · refine .call (.secretOf (fun _ secret _ _ => ?_) (fun _ => by simp) (fun _ e _ shut => ?_))
    · refine .of (fun g _ => ?_) (fun e refused => ?_)
      · exact .call (.wrote Store.insertGrant_spares (fun _ _ _ => by simp) (fun _ _ => by simp))
      · obtain rfl | rfl := Grant.make_eq_error active refused <;> simp
    · have opening := Grant.isOpening_of_unlock shut
      constructor <;> rintro ⟨⟩ <;> cases opening
  · rw [key?, there] at missing
    cases missing
  · rw [h.key_active _ _ found] at retired
    cases retired

/-- **Circles stay well-formed.**  After every run, each circle that is there is in order, and
granting fails neither because the key of the actor's own grant is missing nor because it may not
receive grants. -/
theorem circles_inOrder_after (sv : Service) (run : List Turn) :
    (∀ c ∈ (sv.after run).store.circles.values, (sv.after run).store.InOrder c.id) ∧
      ∀ actor passphrase circle target level drawn clock,
        (sv.serve (sv.after run).store
            ⟨.addGrant actor passphrase circle target level drawn, clock⟩).1 ≠
          .error .grantKeyMissing ∧
        (sv.serve (sv.after run).store
            ⟨.addGrant actor passphrase circle target level drawn, clock⟩).1 ≠
          .error .keyRetired := by
  have h := after sv run
  refine ⟨fun c hc => ?_, fun actor passphrase circle target level drawn clock => ?_⟩
  · obtain ⟨id, found⟩ := Table.mem_values.1 hc
    refine h.inOrder ?_
    rw [h.circle_id id c found, found]
    exact Option.some_ne_none c
  · exact h.addGrant_keyed sv actor passphrase circle target level drawn clock

end WellFormed

end Store

end CircleVault
