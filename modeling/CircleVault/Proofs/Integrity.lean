import CircleVault.Proofs.Program
import CircleVault.Proofs.Writes
import Mathlib.Data.List.Nodup

/-!
# Integrity of the store

What the store keeps by itself, whoever calls it and with whatever records: every record is filed
under its own identifier, names are unique, a member holds one grant in a circle, and the member and
the circle of a grant are there.  `Store.Integrity` collects these facts, `Integrity.answer` shows
that every call keeps them, and `Integrity.run` that every program does.

With them a lookup that searches the values has a single answer, so `grant?` and the listings are
described by the records alone (`Integrity.grant?_eq_some`, `mem_grantsIn`).
-/

namespace CircleVault

namespace Store

/-- What the store keeps by itself. -/
structure Integrity (s : Store) : Prop where
  member_id : ∀ id m, s.members.get? id = some m → m.id = id
  circle_id : ∀ id c, s.circles.get? id = some c → c.id = id
  key_id : ∀ id k, s.keys.get? id = some k → k.id = id
  grant_id : ∀ id g, s.grants.get? id = some g → g.id = id
  signature_key : ∀ k r, s.signatures.get? k = some r → (r.checksum, r.publicKey) = k
  member_name : ∀ id id' m m', s.members.get? id = some m → s.members.get? id' = some m' →
    m.name = m'.name → id = id'
  circle_name : ∀ id id' c c', s.circles.get? id = some c → s.circles.get? id' = some c' →
    c.name = c'.name → id = id'
  grant_unique : ∀ id id' g g', s.grants.get? id = some g → s.grants.get? id' = some g' →
    g.member = g'.member → g.circle = g'.circle → id = id'
  grant_member : ∀ id g, s.grants.get? id = some g → s.members.get? g.member ≠ none
  grant_circle : ∀ id g, s.grants.get? id = some g → s.circles.get? g.circle ≠ none

namespace Integrity

variable {s : Store}

lemma empty : Integrity .empty := by
  constructor <;> simp [Store.empty]

/-! ## One record -/

lemma putMember (h : s.Integrity) {id : MemberId} {m : Member} {t : Timestamp} (own : m.id = id)
    (unnamed : ∀ o ∈ s.members.values, o.id ≠ id → o.name ≠ m.name) :
    Integrity { s with members := s.members.insert id m, clock := t } := by
  have free : ∀ id' o, s.members.get? id' = some o → o.name = m.name → id' = id := by
    intro id' o found same
    by_contra ne
    exact unnamed o (Table.mem_values_of_get? found) (by rwa [h.member_id id' o found]) same
  refine { h with member_id := ?_, member_name := ?_, grant_member := ?_ }
  · exact Table.forall_insert h.member_id own
  · exact Table.unique_insert h.member_name free
  · intro id' g found
    exact Table.get?_insert_ne_none (h.grant_member id' g found)

lemma putCircle (h : s.Integrity) {id : CircleId} {c : Circle} {t : Timestamp} (own : c.id = id)
    (unnamed : ∀ o ∈ s.circles.values, o.id ≠ id → o.name ≠ c.name) :
    Integrity { s with circles := s.circles.insert id c, clock := t } := by
  have free : ∀ id' o, s.circles.get? id' = some o → o.name = c.name → id' = id := by
    intro id' o found same
    by_contra ne
    exact unnamed o (Table.mem_values_of_get? found) (by rwa [h.circle_id id' o found]) same
  refine { h with circle_id := ?_, circle_name := ?_, grant_circle := ?_ }
  · exact Table.forall_insert h.circle_id own
  · exact Table.unique_insert h.circle_name free
  · intro id' g found
    exact Table.get?_insert_ne_none (h.grant_circle id' g found)

lemma putKey (h : s.Integrity) {id : KeyId} {k : CircleKey} {t : Timestamp} (own : k.id = id) :
    Integrity { s with keys := s.keys.insert id k, clock := t } := by
  refine { h with key_id := ?_ }
  exact Table.forall_insert h.key_id own

lemma putGrant (h : s.Integrity) {id : GrantId} {g : Grant} {t : Timestamp} (own : g.id = id)
    (holder : s.members.get? g.member ≠ none) (home : s.circles.get? g.circle ≠ none)
    (alone : ∀ id' o, s.grants.get? id' = some o → o.member = g.member → o.circle = g.circle →
      id' = id) :
    Integrity { s with grants := s.grants.insert id g, clock := t } := by
  -- A grant's member and circle together are the name that is unique.
  have unique := Table.unique_insert (t := s.grants) (f := fun o : Grant => (o.member, o.circle))
    (fun id₁ id₂ o₁ o₂ found₁ found₂ same =>
      h.grant_unique id₁ id₂ o₁ o₂ found₁ found₂ (congrArg Prod.fst same) (congrArg Prod.snd same))
    (fun id' o found same => alone id' o found (congrArg Prod.fst same) (congrArg Prod.snd same))
  refine { h with grant_id := ?_, grant_unique := ?_, grant_member := ?_, grant_circle := ?_ }
  · exact Table.forall_insert h.grant_id own
  · intro id₁ id₂ o₁ o₂ found₁ found₂ member circle
    exact unique id₁ id₂ o₁ o₂ found₁ found₂ (Prod.ext member circle)
  · exact Table.forall_insert h.grant_member holder
  · exact Table.forall_insert h.grant_circle home

lemma dropGrant (h : s.Integrity) (id : GrantId) :
    Integrity { s with grants := s.grants.erase id } := by
  refine { h with grant_id := ?_, grant_unique := ?_, grant_member := ?_, grant_circle := ?_ }
  · intro id' o found
    exact h.grant_id id' o (Table.get?_of_erase found)
  · intro id₁ id₂ o₁ o₂ found₁ found₂ member circle
    exact h.grant_unique id₁ id₂ o₁ o₂ (Table.get?_of_erase found₁) (Table.get?_of_erase found₂)
      member circle
  · intro id' o found
    exact h.grant_member id' o (Table.get?_of_erase found)
  · intro id' o found
    exact h.grant_circle id' o (Table.get?_of_erase found)

lemma putSignature (h : s.Integrity) {k : Checksum × String} {r : SignedRecord} {t : Timestamp}
    (own : (r.checksum, r.publicKey) = k) :
    Integrity { s with signatures := s.signatures.insert k r, clock := t } := by
  refine { h with signature_key := ?_ }
  exact Table.forall_insert h.signature_key own

/-! ## One call -/

lemma insertMember (h : s.Integrity) {now : Timestamp} {m stored : Member} {s' : Store}
    (wrote : s.insertMember now m = .ok stored s') : s'.Integrity := by
  obtain ⟨-, unnamed, rfl, rfl⟩ := insertMember_eq_ok.1 wrote
  exact h.putMember rfl fun o ho _ => unnamed o ho

lemma updateMember (h : s.Integrity) {now : Timestamp} {m stored : Member} {s' : Store}
    (wrote : s.updateMember now m = .ok stored s') : s'.Integrity := by
  obtain ⟨present, -, unnamed, rfl, rfl⟩ := updateMember_eq_ok.1 wrote
  exact h.putMember rfl unnamed

lemma insertCircle (h : s.Integrity) {now : Timestamp} {c stored : Circle} {s' : Store}
    (wrote : s.insertCircle now c = .ok stored s') : s'.Integrity := by
  obtain ⟨-, unnamed, rfl, rfl⟩ := insertCircle_eq_ok.1 wrote
  exact h.putCircle rfl fun o ho _ => unnamed o ho

/-- A founded circle is new, so no grant names it before its owner's does. -/
lemma createCircle (h : s.Integrity) {now : Timestamp} {f stored : Founded} {s' : Store}
    (wrote : s.createCircle now f = .ok stored s') : s'.Integrity := by
  obtain ⟨fresh, unnamed, ⟨-, home, -⟩, -, holder, freshGrant, rfl, rfl⟩ :=
    createCircle_eq_ok.1 wrote
  have withCircle := h.putCircle (t := s.tick now)
    (c := { f.circle with added := s.tick now, altered := s.tick now }) rfl
    fun o ho _ => unnamed o ho
  have withKey := withCircle.putKey (t := s.tick now)
    (k := { f.key with added := s.tick now, altered := s.tick now }) rfl
  refine withKey.putGrant rfl holder ?_ ?_
  · simp [home]
  · intro id o found _ circle
    exact absurd (circle.trans home ▸ fresh) (h.grant_circle id o found)

lemma insertKey (h : s.Integrity) {now : Timestamp} {k stored : CircleKey} {s' : Store}
    (wrote : s.insertKey now k = .ok stored s') : s'.Integrity := by
  obtain ⟨-, -, -, rfl, rfl⟩ := insertKey_eq_ok.1 wrote
  exact h.putKey rfl

lemma updateKey (h : s.Integrity) {now : Timestamp} {k stored : CircleKey} {s' : Store}
    (wrote : s.updateKey now k = .ok stored s') : s'.Integrity := by
  obtain ⟨present, -, -, rfl, rfl⟩ := updateKey_eq_ok.1 wrote
  exact h.putKey rfl

lemma insertGrant (h : s.Integrity) {now : Timestamp} {g stored : Grant} {s' : Store}
    (wrote : s.insertGrant now g = .ok stored s') : s'.Integrity := by
  obtain ⟨holder, home, -, alone, rfl, rfl⟩ := insertGrant_eq_ok.1 wrote
  refine h.putGrant rfl holder home ?_
  intro id o found member circle
  exact absurd circle (alone o (Table.mem_values_of_get? found) member)

lemma updateGrant (h : s.Integrity) {now : Timestamp} {g stored : Grant} {s' : Store}
    (wrote : s.updateGrant now g = .ok stored s') : s'.Integrity := by
  obtain ⟨present, found, ⟨member, circle⟩, rfl, rfl⟩ := updateGrant_eq_ok.1 wrote
  refine h.putGrant rfl ?_ ?_ ?_
  · exact member ▸ h.grant_member _ _ found
  · exact circle ▸ h.grant_circle _ _ found
  · intro id o foundOther sameMember sameCircle
    exact h.grant_unique id g.id o present foundOther found (sameMember.trans member.symm)
      (sameCircle.trans circle.symm)

lemma deleteGrant (h : s.Integrity) {id : GrantId} {u : Unit} {s' : Store}
    (wrote : s.deleteGrant id = .ok u s') : s'.Integrity := by
  obtain ⟨-, rfl⟩ := deleteGrant_eq_ok.1 wrote
  exact h.dropGrant id

lemma upsertSignature (h : s.Integrity) {now : Timestamp} {r stored : SignedRecord} {s' : Store}
    (wrote : s.upsertSignature now r = .ok stored s') : s'.Integrity := by
  obtain ⟨added, -, rfl, rfl⟩ := upsertSignature_eq_ok.1 wrote
  exact h.putSignature rfl

/-- Every call keeps the store's integrity, whatever records it is given. -/
theorem answer (s : Store) (now : Timestamp) (c : Call) (h : s.Integrity) :
    (s.answer now c).2.Integrity := by
  cases c with
  | insertMember m => exact settle_kept insertMember_spares h fun _ _ => h.insertMember
  | updateMember m => exact settle_kept updateMember_spares h fun _ _ => h.updateMember
  | insertCircle c => exact settle_kept insertCircle_spares h fun _ _ => h.insertCircle
  | createCircle f => exact settle_kept createCircle_spares h fun _ _ => h.createCircle
  | insertKey k => exact settle_kept insertKey_spares h fun _ _ => h.insertKey
  | updateKey k => exact settle_kept updateKey_spares h fun _ _ => h.updateKey
  | insertGrant g => exact settle_kept insertGrant_spares h fun _ _ => h.insertGrant
  | updateGrant g => exact settle_kept updateGrant_spares h fun _ _ => h.updateGrant
  | deleteGrant id => exact settle_kept deleteGrant_spares h fun _ _ => h.deleteGrant
  | upsertSignature r => exact settle_kept upsertSignature_spares h fun _ _ => h.upsertSignature
  | _ => exact h

/-- Every program keeps the store's integrity. -/
theorem run {α : Type} (p : Program α) (clock : Nat → Timestamp) (h : s.Integrity) :
    (p.run clock s).2.Integrity :=
  p.run_invariant answer clock s h

end Integrity

/-! ## Lookups -/

variable {s : Store}

lemma mem_grantsIn {c : CircleId} {g : Grant} :
    g ∈ s.grantsIn c ↔ g ∈ s.grants.values ∧ g.circle = c := by
  simp [grantsIn, oldestFirst]

lemma mem_grantsOf {m : MemberId} {g : Grant} :
    g ∈ s.grantsOf m ↔ g ∈ s.grants.values ∧ g.member = m := by
  simp [grantsOf, oldestFirst]

lemma mem_grants_of_grant? {m : MemberId} {c : CircleId} {g : Grant} (h : s.grant? m c = some g) :
    g ∈ s.grants.values ∧ g.member = m ∧ g.circle = c := by
  refine ⟨List.mem_of_find?_eq_some h, ?_⟩
  simpa using List.find?_some h

lemma grant?_eq_none {m : MemberId} {c : CircleId} :
    s.grant? m c = none ↔ ∀ g ∈ s.grants.values, g.member = m → g.circle ≠ c := by
  simp [grant?]

namespace Integrity

lemma get?_of_mem (h : s.Integrity) {g : Grant} (mem : g ∈ s.grants.values) :
    s.grants.get? g.id = some g := by
  obtain ⟨id, found⟩ := Table.mem_values.1 mem
  exact h.grant_id id g found ▸ found

lemma mem_values_grants (h : s.Integrity) {g : Grant} :
    g ∈ s.grants.values ↔ s.grants.get? g.id = some g :=
  ⟨h.get?_of_mem, Table.mem_values_of_get?⟩

lemma grant_eq_of_id (h : s.Integrity) {g g' : Grant} (mem : g ∈ s.grants.values)
    (mem' : g' ∈ s.grants.values) (id : g.id = g'.id) : g = g' := by
  have found := h.get?_of_mem mem
  rw [id, h.get?_of_mem mem'] at found
  exact (Option.some.inj found).symm

lemma grant_ext (h : s.Integrity) {g g' : Grant} (mem : g ∈ s.grants.values)
    (mem' : g' ∈ s.grants.values) (member : g.member = g'.member) (circle : g.circle = g'.circle) :
    g = g' :=
  h.grant_eq_of_id mem mem'
    (h.grant_unique _ _ _ _ (h.get?_of_mem mem) (h.get?_of_mem mem') member circle)

/-- A member's grant in a circle is the one stored grant of that member and circle. -/
theorem grant?_eq_some (h : s.Integrity) {m : MemberId} {c : CircleId} {g : Grant} :
    s.grant? m c = some g ↔ g ∈ s.grants.values ∧ g.member = m ∧ g.circle = c := by
  refine ⟨mem_grants_of_grant?, ?_⟩
  rintro ⟨mem, rfl, rfl⟩
  cases found : s.grant? g.member g.circle with
  | none => exact absurd (List.find?_eq_none.1 found g mem) (by simp)
  | some g' =>
      obtain ⟨mem', member, circle⟩ := mem_grants_of_grant? found
      rw [h.grant_ext mem' mem member circle]

/-- A signature record that is found says under which checksum and public key it is found. -/
lemma signature?_own (h : s.Integrity) {checksum : Checksum} {publicKey : String}
    {r : SignedRecord} (found : s.signature? checksum publicKey = some r) :
    s.signature? r.checksum r.publicKey = some r := by
  obtain ⟨rfl, rfl⟩ := Prod.mk.inj (h.signature_key _ r found)
  exact found

lemma nodup_grants (h : s.Integrity) : s.grants.values.Nodup :=
  .of_map Grant.id (Table.nodup_values_map h.grant_id)

/-- No member is listed twice among a circle's grants. -/
theorem nodup_grantsIn (h : s.Integrity) (c : CircleId) :
    ((s.grantsIn c).map Grant.member).Nodup := by
  have listed : (s.grantsIn c).Nodup :=
    (List.mergeSort_perm _ _).nodup_iff.2 (h.nodup_grants.filter _)
  refine listed.map_on fun g hg g' hg' member => ?_
  obtain ⟨mem, circle⟩ := mem_grantsIn.1 hg
  obtain ⟨mem', circle'⟩ := mem_grantsIn.1 hg'
  exact h.grant_ext mem mem' member (circle.trans circle'.symm)

/-- No circle is listed twice among a member's grants. -/
theorem nodup_grantsOf (h : s.Integrity) (m : MemberId) :
    ((s.grantsOf m).map Grant.circle).Nodup := by
  have listed : (s.grantsOf m).Nodup :=
    (List.mergeSort_perm _ _).nodup_iff.2 (h.nodup_grants.filter _)
  refine listed.map_on fun g hg g' hg' circle => ?_
  obtain ⟨mem, member⟩ := mem_grantsOf.1 hg
  obtain ⟨mem', member'⟩ := mem_grantsOf.1 hg'
  exact h.grant_ext mem mem' (member.trans member'.symm) circle

lemma find?_grantsIn (h : s.Integrity) (m : MemberId) (c : CircleId) :
    (s.grantsIn c).find? (fun g => g.member = m) = s.grant? m c := by
  cases found : s.grant? m c with
  | none =>
      refine List.find?_eq_none.2 fun g hg => ?_
      obtain ⟨mem, circle⟩ := mem_grantsIn.1 hg
      simpa using fun member => grant?_eq_none.1 found g mem member circle
  | some g =>
      obtain ⟨mem, member, circle⟩ := mem_grants_of_grant? found
      cases listed : (s.grantsIn c).find? (fun g => g.member = m) with
      | none =>
          have := List.find?_eq_none.1 listed g (mem_grantsIn.2 ⟨mem, circle⟩)
          simp [member] at this
      | some g' =>
          obtain ⟨mem', circle'⟩ := mem_grantsIn.1 (List.mem_of_find?_eq_some listed)
          have member' : g'.member = m := by simpa using List.find?_some listed
          rw [h.grant_ext mem' mem (member'.trans member.symm) (circle'.trans circle.symm)]

/-- Where no member is listed twice, leaving out the first grant of a member leaves out all. -/
lemma mem_eraseP_member {grants : List Grant} {m : MemberId} {o : Grant}
    (nodup : (grants.map Grant.member).Nodup) :
    o ∈ grants.eraseP (fun g => g.member = m) ↔ o ∈ grants ∧ o.member ≠ m := by
  induction grants with
  | nil => simp
  | cons g rest ih =>
      rw [List.map_cons, List.nodup_cons] at nodup
      obtain ⟨fresh, nodup⟩ := nodup
      by_cases here : g.member = m
      · rw [List.eraseP_cons_of_pos (by simpa using here)]
        constructor
        · intro mem
          refine ⟨List.mem_cons_of_mem g mem, fun same => fresh ?_⟩
          rw [here, ← same]
          exact List.mem_map_of_mem mem
        · rintro ⟨mem, other⟩
          obtain rfl | mem := List.mem_cons.1 mem
          · exact absurd here other
          · exact mem
      · rw [List.eraseP_cons_of_neg (by simpa using here), List.mem_cons, List.mem_cons, ih nodup]
        constructor
        · rintro (rfl | ⟨mem, other⟩)
          · exact ⟨.inl rfl, here⟩
          · exact ⟨.inr mem, other⟩
        · rintro ⟨rfl | mem, other⟩
          · exact .inl rfl
          · exact .inr ⟨mem, other⟩

/-- Taking a member's grant out of a circle's listing finds the member's grant in the circle, and
leaves the grants of the others. -/
theorem remove_grantsIn (h : s.Integrity) {m : MemberId} {c : CircleId} {g : Grant}
    {rest : List Grant} (taken : Grant.remove (s.grantsIn c) m = .ok (g, rest)) :
    s.grant? m c = some g ∧
      ∀ o, o ∈ rest ↔ o ∈ s.grants.values ∧ o.circle = c ∧ o.member ≠ m := by
  rw [Grant.remove, h.find?_grantsIn] at taken
  cases found : s.grant? m c with
  | none => simp [found] at taken
  | some g' =>
      simp only [found, Except.ok.injEq, Prod.mk.injEq] at taken
      obtain ⟨rfl, rfl⟩ := taken
      refine ⟨rfl, fun o => ?_⟩
      rw [mem_eraseP_member (h.nodup_grantsIn c), mem_grantsIn, and_assoc]

end Integrity

end Store

end CircleVault
