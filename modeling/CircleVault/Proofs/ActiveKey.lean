import CircleVault.Proofs.Calls
import Mathlib.Data.List.Induction

/-!
# One active key

A circle should have one active key at most, so that asking for it has one answer.  Whoever inserts
or updates a key as active is refused where another active key is filed under the same circle, but
founding a circle looks for no such key: it takes for granted that a circle that is not there has
none.

That is so as long as no active key is filed under a circle that is not there.  Inserting checks
this and updating does not, so a key can be moved to a circle that is founded only later, with a
second active key of its own (`two_active_after_moved`).  `oneActiveKey_performAll_iff` says that
nothing else breaks the rule: whatever is asked of the store, it holds throughout exactly if no
circle is founded with an active key beside one already filed for it; and it holds if updates keep
active keys at circles that are there.
-/

namespace CircleVault

/-- Whether a call stores a key. -/
def Call.storesKey : Call → Bool
  | .createCircle _ | .insertKey _ | .updateKey _ => true
  | _ => false

namespace Store

/-- Each circle has at most one active key, and asking for it comes to one answer. -/
def OneActiveKey (s : Store) : Prop :=
  ∀ c, s.keys.Settles (fun k => k.circle = c && k.isActive) (s.activeKey? c)

/-- Active keys are filed under circles that are there. -/
def Housed (s : Store) : Prop :=
  ∀ id k, s.keys.get? id = some k → k.isActive = true → s.circles.get? k.circle ≠ none

variable {s s' : Store} {now : Timestamp}

lemma oneActiveKey_iff :
    s.OneActiveKey ↔
      ∀ id id' k k', s.keys.get? id = some k → s.keys.get? id' = some k' → k.isActive = true →
        k'.isActive = true → k.circle = k'.circle → id = id' := by
  constructor
  · intro h id id' k k' found found' active active' same
    refine Table.settles_iff.1 (h k.circle) id id' k k' found found' ?_ ?_
    · simp [active]
    · simp [active', same]
  · intro only c
    refine Table.settles_iff.2 fun id id' k k' found found' here here' => ?_
    rw [Bool.and_eq_true, decide_eq_true_eq] at here here'
    exact only id id' k k' found found' here.2 here'.2 (here.1.trans here'.1.symm)

lemma activeKey?_eq_none {c : CircleId} :
    s.activeKey? c = none ↔
      ∀ id k, s.keys.get? id = some k → k.circle = c → k.isActive = false := by
  simp only [activeKey?, List.find?_eq_none, Table.mem_values, Bool.and_eq_true, decide_eq_true_eq,
    not_and, Bool.not_eq_true]
  constructor
  · intro none id k found
    exact none k ⟨id, found⟩
  · rintro none k ⟨id, found⟩
    exact none id k found

/-- A circle that is not there has no active key, if active keys are housed. -/
lemma Housed.activeKey?_of_absent (h : s.Housed) {c : CircleId} (absent : s.circles.get? c = none) :
    s.activeKey? c = none := by
  refine activeKey?_eq_none.2 fun id k found home => ?_
  by_contra active
  exact h id k found (by simpa using active) (home ▸ absent)

lemma Leaves.keys_eq {c : Call} (h : s.Leaves c s') (other : c.storesKey = false) :
    s'.keys = s.keys := by
  cases h with
  | createdCircle => cases other
  | insertedKey => cases other
  | updatedKey => cases other
  | _ => rfl

/-! ## One write -/

namespace OneActiveKey

lemma empty : OneActiveKey .empty := by
  simp [oneActiveKey_iff, Store.empty]

lemma frame (h : s.OneActiveKey) (keys : s'.keys = s.keys) : s'.OneActiveKey := by
  rw [oneActiveKey_iff, keys]
  exact oneActiveKey_iff.1 h

/-- A key may be filed where no other key of its circle is active, or if it is not active itself. -/
lemma putKey (h : s.OneActiveKey) {id : KeyId} {k : CircleKey}
    (alone : k.isActive = true → ∀ id' o, s.keys.get? id' = some o → id' ≠ id →
      o.circle = k.circle → o.isActive = false)
    (keys : s'.keys = s.keys.insert id k) : s'.OneActiveKey := by
  have other : ∀ id' o, s.keys.get? id' = some o → o.isActive = true → k.isActive = true →
      o.circle = k.circle → id' = id := by
    intro id' o found active' active same
    by_contra ne
    rw [alone active id' o found ne same] at active'
    cases active'
  rw [oneActiveKey_iff, keys]
  intro id₁ id₂ k₁ k₂ found₁ found₂ active₁ active₂ same
  rw [Table.get?_insert] at found₁ found₂
  split at found₁ <;> split at found₂
  next here₁ here₂ => exact here₁.trans here₂.symm
  next here₁ _ =>
    obtain rfl := Option.some.inj found₁
    exact here₁.trans (other id₂ k₂ found₂ active₂ active₁ same.symm).symm
  next _ here₂ =>
    obtain rfl := Option.some.inj found₂
    exact (other id₁ k₁ found₁ active₁ active₂ same).trans here₂.symm
  next => exact oneActiveKey_iff.1 h id₁ id₂ k₁ k₂ found₁ found₂ active₁ active₂ same

lemma insertKey (h : s.OneActiveKey) {k stored : CircleKey}
    (wrote : s.insertKey now k = .ok stored s') : s'.OneActiveKey := by
  obtain ⟨-, -, alone, rfl, rfl⟩ := insertKey_eq_ok.1 wrote
  refine h.putKey (fun active id o found _ home => ?_) rfl
  exact alone active o (Table.mem_values_of_get? found) home

lemma updateKey (h : s.OneActiveKey) (integrity : s.Integrity) {k stored : CircleKey}
    (wrote : s.updateKey now k = .ok stored s') : s'.OneActiveKey := by
  obtain ⟨_, -, alone, rfl, rfl⟩ := updateKey_eq_ok.1 wrote
  refine h.putKey (fun active id o found ne home => ?_) rfl
  exact alone active o (Table.mem_values_of_get? found) (by rwa [integrity.key_id id o found]) home

/-- Founding a circle keeps the rule exactly if its key is not active, or no active key is filed
for the circle before. -/
lemma createCircle_iff (h : s.OneActiveKey) {f stored : Founded}
    (wrote : s.createCircle now f = .ok stored s') :
    s'.OneActiveKey ↔ (f.key.isActive = true → s.activeKey? f.circle.id = none) := by
  obtain ⟨-, -, ⟨home, -⟩, fresh, -, -, rfl, rfl⟩ := createCircle_eq_ok.1 wrote
  constructor
  · intro h' active
    refine activeKey?_eq_none.2 fun id o found here => ?_
    by_contra active'
    have same := oneActiveKey_iff.1 h' id f.key.id o _ (Table.get?_insert_of_fresh fresh found)
      (Table.get?_insert_self ..) (by simpa using active') active (here.trans home.symm)
    rw [same, fresh] at found
    cases found
  · intro keyless
    refine h.putKey (fun active id o found _ here => ?_) rfl
    exact activeKey?_eq_none.1 (keyless active) id o found (here.trans home)

/-! ## One call -/

/-- Every call but founding a circle keeps the rule. -/
lemma answer (h : s.OneActiveKey) (integrity : s.Integrity) (now : Timestamp) (c : Call)
    (keyless : ∀ f stored s', c = .createCircle f → s.createCircle now f = .ok stored s' →
      f.key.isActive = true → s.activeKey? f.circle.id = none) :
    (s.answer now c).2.OneActiveKey := by
  cases c with
  | createCircle f =>
      refine settle_kept createCircle_spares h fun stored s' wrote => ?_
      exact (h.createCircle_iff wrote).2 (keyless f stored s' rfl wrote)
  | insertKey k => exact settle_kept insertKey_spares h fun _ _ => h.insertKey
  | updateKey k => exact settle_kept updateKey_spares h fun _ _ => h.updateKey integrity
  | _ => exact h.frame ((answer_leaves s now _).keys_eq rfl)

end OneActiveKey

namespace Housed

lemma empty : Housed .empty := by
  simp [Housed, Store.empty]

lemma frame (h : s.Housed) (keys : s'.keys = s.keys)
    (circles : ∀ id, s.circles.get? id ≠ none → s'.circles.get? id ≠ none) : s'.Housed := by
  intro id k found active
  rw [keys] at found
  exact circles k.circle (h id k found active)

/-- Every call but moving an active key to a circle that is not there keeps active keys housed. -/
lemma answer (h : s.Housed) (now : Timestamp) (c : Call)
    (home : ∀ k, c = .updateKey k → k.isActive = true → s.circles.get? k.circle ≠ none) :
    (s.answer now c).2.Housed := by
  cases c with
  | createCircle f =>
      refine settle_kept createCircle_spares h fun stored s' wrote => ?_
      obtain ⟨-, -, ⟨own, -⟩, -, -, -, rfl, rfl⟩ := createCircle_eq_ok.1 wrote
      refine Table.forall_insert (fun id k found active => ?_) fun _ => ?_
      · exact Table.get?_insert_ne_none (h id k found active)
      · simp [own]
  | insertKey k =>
      refine settle_kept insertKey_spares h fun stored s' wrote => ?_
      obtain ⟨there, -, -, rfl, rfl⟩ := insertKey_eq_ok.1 wrote
      exact Table.forall_insert h fun _ => there
  | updateKey k =>
      refine settle_kept updateKey_spares h fun stored s' wrote => ?_
      obtain ⟨_, -, -, rfl, rfl⟩ := updateKey_eq_ok.1 wrote
      exact Table.forall_insert h (home k rfl)
  | _ =>
      exact h.frame ((answer_leaves s now _).keys_eq rfl)
        fun _ => (answer_leaves s now _).circle_stays

end Housed

/-! ## Calls in a row -/

variable {calls : List (Timestamp × Call)}

lemma oneActiveKey_of_keyless
    (keyless : ∀ early now f late stored s', calls = early ++ (now, .createCircle f) :: late →
      (Store.empty.performAll early).createCircle now f = .ok stored s' →
      f.key.isActive = true → (Store.empty.performAll early).activeKey? f.circle.id = none) :
    (Store.empty.performAll calls).OneActiveKey := by
  induction calls using List.reverseRecOn with
  | nil => exact OneActiveKey.empty
  | append_singleton early c ih =>
      have h := ih fun early' now f late stored s' split wrote active =>
        keyless early' now f (late ++ [c]) stored s' (by simp [split]) wrote active
      rw [performAll_append, performAll_cons, performAll_nil]
      refine h.answer (Integrity.empty.performAll early) c.1 c.2 ?_
      intro f stored s' founds wrote active
      refine keyless early c.1 f [] stored s' ?_ wrote active
      rw [← founds]

lemma housed_of_updates
    (home : ∀ early now k late, calls = early ++ (now, .updateKey k) :: late → k.isActive = true →
      (Store.empty.performAll early).circles.get? k.circle ≠ none) :
    (Store.empty.performAll calls).Housed := by
  induction calls using List.reverseRecOn with
  | nil => exact Housed.empty
  | append_singleton early c ih =>
      have h := ih fun early' now k late split active =>
        home early' now k (late ++ [c]) (by simp [split]) active
      rw [performAll_append, performAll_cons, performAll_nil]
      refine h.answer c.1 c.2 fun k updates active => ?_
      refine home early c.1 k [] ?_ active
      rw [← updates]

/-- **When a circle has one active key.**  Whatever is asked of the store, circles have at most one
active key throughout exactly if none is founded with an active key while another active key is
filed for it.  This is so if no update puts an active key into a circle that is not there. -/
theorem oneActiveKey_performAll_iff (calls : List (Timestamp × Call)) :
    ((∀ early late, calls = early ++ late → (Store.empty.performAll early).OneActiveKey) ↔
      ∀ early now f late stored s', calls = early ++ (now, .createCircle f) :: late →
        (Store.empty.performAll early).createCircle now f = .ok stored s' →
        f.key.isActive = true → (Store.empty.performAll early).activeKey? f.circle.id = none) ∧
    ((∀ early now k late, calls = early ++ (now, .updateKey k) :: late → k.isActive = true →
        (Store.empty.performAll early).circle? k.circle ≠ none) →
      ∀ early late, calls = early ++ late → (Store.empty.performAll early).OneActiveKey) := by
  refine ⟨⟨?_, ?_⟩, ?_⟩
  · rintro throughout early now f late stored s' rfl wrote
    have before := throughout early ((now, .createCircle f) :: late) rfl
    have after := throughout (early ++ [(now, .createCircle f)]) late (by simp)
    rw [performAll_append, performAll_cons, performAll_nil, answer, wrote] at after
    exact (before.createCircle_iff wrote).1 after
  · rintro keyless early late rfl
    refine oneActiveKey_of_keyless fun early' now f late' stored s' split wrote active => ?_
    exact keyless early' now f (late' ++ late) stored s' (by simp [split]) wrote active
  · rintro home early late rfl
    refine oneActiveKey_of_keyless fun early' now f late' stored s' split wrote _ => ?_
    have housed : (Store.empty.performAll early').Housed := by
      refine housed_of_updates fun early'' now' k late'' split' active => ?_
      refine home early'' now' k (late'' ++ (now, .createCircle f) :: late' ++ late) ?_ active
      simp [split, split']
    obtain ⟨fresh, -⟩ := createCircle_eq_ok.1 wrote
    exact housed.activeKey?_of_absent fresh

/-! ## A key that was moved -/

/-- An active key, moved from a circle to another that is not there yet. -/
def movedKey : CircleKey :=
  ⟨⟨.fit 16 [1]⟩, ⟨.fit 16 [2]⟩, .xchacha20Poly1305, .active, 0, 0⟩

/-- The circle that is founded after a key was moved to it. -/
def lateCircle : Founded where
  circle := ⟨⟨.fit 16 [2]⟩, "late", 0, 0⟩
  key := ⟨⟨.fit 16 [2]⟩, ⟨.fit 16 [2]⟩, .xchacha20Poly1305, .active, 0, 0⟩
  owner := ⟨⟨.fit 16 [1]⟩, ⟨.fit 16 [1]⟩, ⟨.fit 16 [2]⟩, ⟨.fit 16 [2]⟩, .sysop, [], 0, 0⟩

/-- A key is inserted for a circle that is there, moved to one that is not, and then this one is
founded. -/
def moving : List (Timestamp × Call) :=
  [(1, .insertMember ⟨⟨.fit 16 [1]⟩, "alice", .ofText .utf8 "",
      ⟨.xchacha20Poly1305, .ofText .utf8 "", []⟩, "", 0, 0⟩),
    (2, .insertCircle ⟨⟨.fit 16 [1]⟩, "early", 0, 0⟩),
    (3, .insertKey { movedKey with circle := ⟨.fit 16 [1]⟩ }),
    (4, .updateKey movedKey),
    (5, .createCircle lateCircle)]

theorem two_active_after_moved : ¬(Store.empty.performAll moving).OneActiveKey := by
  intro h
  have few := (h lateCircle.circle.id).1
  revert few
  decide +kernel

end Store

end CircleVault
