import CircleVault.Service
import CircleVault.Proofs.Timestamps

/-!
# Listings

The store lists grants by sorting what its table holds by `added`, so the order of a listing is that
of stored timestamps.  The order that is meant is that of the insertions.  It is kept apart from the
store, on a roll of identifiers that is drawn from the answers alone: a grant that is inserted comes
last, and one that is deleted goes (`Store.enrol`).

`Store.Enrolled` is what every call keeps: on the roll is what is in the table, and along the roll
`added` strictly increases.  Only an insertion gives out an `added`, and one later than the store's
clock; an update keeps it.  So no two grants share one, however the wall clock goes, and sorting by
`added` has a single result, which is the roll (`Store.listings_in_order`).
-/

namespace CircleVault

/-- The grant that an accepted call inserts, if it inserts one. -/
def Call.inserted : (c : Call) → c.Answer → List GrantId
  | .insertGrant _, a => ofAccepted (fun g => [g.id]) a
  | .createCircle _, a => ofAccepted (fun f : Store.Founded => [f.owner.id]) a
  | _, _ => []

namespace Store

variable {s s' : Store} {now : Timestamp} {roll : List GrantId} {calls : List (Timestamp × Call)}

/-! ## The roll -/

/-- The grant that a call inserts, if the store accepts the call. -/
def inserted (s : Store) (c : Timestamp × Call) : List GrantId := c.2.inserted (s.answer c.1 c.2).1

/-- The roll after a call: what the call removes goes, and what it inserts comes last. -/
def enrol (s : Store) (roll : List GrantId) (c : Timestamp × Call) : List GrantId :=
  roll.filter (fun id => .grant id ∉ s.removed c) ++ s.inserted c

/-- The roll after calls, one after another. -/
def enrolAll (s : Store) (roll : List GrantId) : List (Timestamp × Call) → List GrantId
  | [] => roll
  | c :: rest => (s.answer c.1 c.2).2.enrolAll (s.enrol roll c) rest

lemma enrolAll_append (calls more : List (Timestamp × Call)) :
    s.enrolAll roll (calls ++ more) =
      (s.performAll calls).enrolAll (s.enrolAll roll calls) more := by
  induction calls generalizing s roll with
  | nil => rfl
  | cons c rest ih => rw [List.cons_append, enrolAll, enrolAll, ih, performAll_cons]

/-- The grants on a roll, as they are stored now. -/
def present (s : Store) (roll : List GrantId) : List Grant := roll.filterMap s.grants.get?

/-! ## What calls do to the times of insertion -/

/-- When a grant was inserted, if it is there. -/
def addedAt (s : Store) (id : GrantId) : Option Timestamp := (s.grants.get? id).map Grant.added

/-- What a call does to the times of insertion: nothing, or one grant leaves, or a new one joins at
the moment that the clock shows from then on. -/
inductive Turnover (s : Store) : List Entry.Name → List GrantId → Store → Prop
  | stays {s' : Store} (same : ∀ id, s'.addedAt id = s.addedAt id) (on : s.clock ≤ s'.clock) :
      Turnover s [] [] s'
  | leaves (id : GrantId) {s' : Store}
      (others : ∀ id', s'.addedAt id' = if id' = id then none else s.addedAt id')
      (on : s.clock ≤ s'.clock) : Turnover s [.grant id] [] s'
  | joins (id : GrantId) {s' : Store} (fresh : s.addedAt id = none)
      (others : ∀ id', s'.addedAt id' = if id' = id then some s'.clock else s.addedAt id')
      (on : s.clock < s'.clock) : Turnover s [] [id] s'

lemma addedAt_insert {id id' : GrantId} {g : Grant} (filed : s'.grants = s.grants.insert id g) :
    s'.addedAt id' = if id' = id then some g.added else s.addedAt id' := by
  unfold addedAt
  rw [filed, Table.get?_insert, apply_ite (Option.map Grant.added)]
  rfl

lemma addedAt_erase {id id' : GrantId} :
    { s with grants := s.grants.erase id }.addedAt id' =
      if id' = id then none else s.addedAt id' := by
  unfold addedAt
  rw [Table.get?_erase, apply_ite (Option.map Grant.added)]
  rfl

lemma addedAt_of_none {id : GrantId} (absent : s.grants.get? id = none) : s.addedAt id = none := by
  unfold addedAt
  rw [absent]
  rfl

lemma turnover_of_insert {id : GrantId} {g : Grant} (fresh : s.grants.get? id = none)
    (filed : s'.grants = s.grants.insert id g) (added : g.added = s'.clock)
    (on : s.clock < s'.clock) : s.Turnover [] [id] s' := by
  refine .joins id (addedAt_of_none fresh) (fun id' => ?_) on
  rw [addedAt_insert filed, added]

/-- A write that may insert a grant. -/
lemma turnover_settle {α : Type} {w : Write α} {f : α → List GrantId} (spares : w.Spares s)
    (accepted : ∀ a s', w = .ok a s' → s.Turnover [] (f a) s') :
    s.Turnover [] (Call.ofAccepted f (settle w).1) (settle w).2 := by
  cases w with
  | error e s' =>
      obtain rfl := spares e s' rfl
      exact .stays (fun _ => rfl) (Int64.le_refl _)
  | ok a s' => exact accepted a s' rfl

theorem answer_turnover (below : s.clock < .greatest) (now : Timestamp) (c : Call) :
    s.Turnover (s.removed (now, c)) (s.inserted (now, c)) (s.answer now c).2 := by
  have later : s.clock < s.tick now := lt_tick below now
  have on : s.clock ≤ (s.answer now c).2.clock := (s.answer_comes now c).clock_le below
  have leaves := s.answer_leaves now c
  cases c with
  | insertGrant g =>
      refine turnover_settle insertGrant_spares fun stored s' wrote => ?_
      obtain ⟨-, -, fresh, -, rfl, rfl⟩ := insertGrant_eq_ok.1 wrote
      exact turnover_of_insert fresh rfl rfl later
  | createCircle f =>
      refine turnover_settle createCircle_spares fun stored s' wrote => ?_
      obtain ⟨-, -, -, -, -, fresh, rfl, rfl⟩ := createCircle_eq_ok.1 wrote
      exact turnover_of_insert fresh rfl rfl later
  | updateGrant g =>
      refine settle_kept (P := s.Turnover [] []) updateGrant_spares
        (.stays (fun _ => rfl) (Int64.le_refl _)) ?_
      intro stored s' wrote
      obtain ⟨before, found, -, rfl, rfl⟩ := updateGrant_eq_ok.1 wrote
      refine .stays (fun id => ?_) (Int64.le_of_lt later)
      rw [addedAt_insert rfl]
      split
      next here => rw [here, addedAt, found, Option.map_some]
      next => rfl
  | deleteGrant id =>
      show s.Turnover (Call.ofAccepted _ (settle (s.deleteGrant id)).1) []
        (settle (s.deleteGrant id)).2
      cases wrote : s.deleteGrant id with
      | error e s' =>
          obtain rfl := deleteGrant_spares e s' wrote
          exact .stays (fun _ => rfl) (Int64.le_refl _)
      | ok u s' =>
          obtain ⟨-, rfl⟩ := deleteGrant_eq_ok.1 wrote
          exact .leaves id (fun _ => addedAt_erase) (Int64.le_refl _)
  | _ =>
      -- No other call files a grant or removes one.
      generalize (s.answer now _).2 = s' at leaves on ⊢
      cases leaves <;> exact .stays (fun _ => rfl) on

/-! ## The order on the roll -/

/-- On the roll are the grants that are there, by increasing time of insertion, and none was
inserted after the clock. -/
structure Enrolled (roll : List GrantId) (s : Store) : Prop where
  mem_iff : ∀ id, id ∈ roll ↔ s.addedAt id ≠ none
  ordered : roll.Pairwise fun id id' =>
    ∀ t, s.addedAt id = some t → ∀ t', s.addedAt id' = some t' → t < t'
  bounded : ∀ id t, s.addedAt id = some t → t ≤ s.clock

namespace Enrolled

lemma empty : Enrolled [] .empty where
  mem_iff := by simp [addedAt, Store.empty]
  ordered := .nil
  bounded := by simp [addedAt, Store.empty]

/-- What is on the roll both before and after, at the same times, stays in order. -/
lemma ordered_of_subset (h : Enrolled roll s) {ids : List GrantId} (sub : ids.Sublist roll)
    (same : ∀ id ∈ ids, s'.addedAt id = s.addedAt id) :
    ids.Pairwise fun id id' =>
      ∀ t, s'.addedAt id = some t → ∀ t', s'.addedAt id' = some t' → t < t' := by
  apply (h.ordered.sublist sub).imp_of_mem
  intro id id' mem mem' before
  rw [same _ mem, same _ mem']
  exact before

lemma stays (h : Enrolled roll s) (same : ∀ id, s'.addedAt id = s.addedAt id)
    (on : s.clock ≤ s'.clock) : Enrolled roll s' where
  mem_iff id := by
    rw [same]
    exact h.mem_iff id
  ordered := h.ordered_of_subset (List.Sublist.refl roll) fun id _ => same id
  bounded id t found := by
    rw [same] at found
    exact Int64.le_trans (h.bounded id t found) on

lemma leaves (h : Enrolled roll s) {id : GrantId}
    (others : ∀ id', s'.addedAt id' = if id' = id then none else s.addedAt id')
    (on : s.clock ≤ s'.clock) : Enrolled (roll.filter (· ≠ id)) s' where
  mem_iff id' := by
    rw [List.mem_filter, decide_eq_true_eq, h.mem_iff, others]
    by_cases here : id' = id
    · simp [here]
    · simp [here]
  ordered := by
    refine h.ordered_of_subset List.filter_sublist fun id' mem => ?_
    rw [others, if_neg]
    simpa using (List.mem_filter.1 mem).2
  bounded id' t found := by
    rw [others] at found
    split at found
    · cases found
    · exact Int64.le_trans (h.bounded id' t found) on

lemma joins (h : Enrolled roll s) {id : GrantId} (fresh : s.addedAt id = none)
    (others : ∀ id', s'.addedAt id' = if id' = id then some s'.clock else s.addedAt id')
    (on : s.clock < s'.clock) : Enrolled (roll ++ [id]) s' := by
  have new : id ∉ roll := fun mem => (h.mem_iff id).1 mem fresh
  have old : ∀ id' ∈ roll, s'.addedAt id' = s.addedAt id' := by
    intro id' mem
    rw [others, if_neg]
    rintro rfl
    exact new mem
  constructor
  · intro id'
    rw [List.mem_append, List.mem_singleton, h.mem_iff, others]
    by_cases here : id' = id
    · simp [here]
    · simp [here]
  · apply List.pairwise_append.2
    refine ⟨h.ordered_of_subset (List.Sublist.refl roll) old, List.pairwise_singleton _ id, ?_⟩
    intro id' mem last only t found t' found'
    obtain rfl := List.mem_singleton.1 only
    rw [old id' mem] at found
    rw [others, if_pos rfl] at found'
    rw [← Option.some.inj found']
    -- Whoever was there joined at the clock's time at the latest, and it has gone on since.
    exact Int64.lt_of_le_of_lt (h.bounded id' t found) on
  · intro id' t found
    rw [others] at found
    split at found
    · rw [← Option.some.inj found]
      exact Int64.le_refl _
    · exact Int64.le_trans (h.bounded id' t found) (Int64.le_of_lt on)

/-- Every call keeps the roll, as long as the clock can go on. -/
lemma answer (h : Enrolled roll s) (below : s.clock < .greatest) (c : Timestamp × Call) :
    Enrolled (s.enrol roll c) (s.answer c.1 c.2).2 := by
  have turned := answer_turnover below c.1 c.2
  unfold enrol
  generalize s.removed c = left, s.inserted c = joined at turned ⊢
  generalize (s.answer c.1 c.2).2 = s' at turned ⊢
  cases turned with
  | stays same on => simpa using h.stays same on
  | leaves id others on => simpa using h.leaves others on
  | joins id fresh others on => simpa using h.joins fresh others on

end Enrolled

lemma enrolled_performAll (h : Unexhausted calls) :
    Enrolled (Store.empty.enrolAll [] calls) (Store.empty.performAll calls) := by
  induction calls using List.reverseRecOn with
  | nil => exact .empty
  | append_singleton early c ih =>
      rw [enrolAll_append, performAll_append]
      exact (ih h.early).answer h.early.last c

/-! ## Sorting -/

/-- The grants present are those that are stored. -/
lemma Enrolled.mem_present (h : Enrolled roll s) {g : Grant} :
    g ∈ s.present roll ↔ g ∈ s.grants.values := by
  unfold present
  rw [List.mem_filterMap, Table.mem_values]
  constructor
  · rintro ⟨id, -, found⟩
    exact ⟨id, found⟩
  · rintro ⟨id, found⟩
    refine ⟨id, (h.mem_iff id).2 ?_, found⟩
    simp [addedAt, found]

lemma Enrolled.map_id_present (h : Enrolled roll s) (intact : s.Integrity) :
    (s.present roll).map Grant.id = roll := by
  have own : ∀ id ∈ roll, (s.grants.get? id).map Grant.id = some id := by
    intro id mem
    cases found : s.grants.get? id with
    | none => exact absurd (addedAt_of_none found) ((h.mem_iff id).1 mem)
    | some g => rw [Option.map_some, intact.grant_id id g found]
  calc (s.present roll).map Grant.id
      = roll.filterMap fun id => (s.grants.get? id).map Grant.id := List.map_filterMap
    _ = roll.filterMap some := List.filterMap_congr own
    _ = roll := List.filterMap_some

lemma Enrolled.pairwise_present (h : Enrolled roll s) :
    (s.present roll).Pairwise fun a b => a.added < b.added := by
  unfold present
  apply List.pairwise_filterMap.2
  apply h.ordered.imp
  intro id id' before g found g' found'
  refine before g.added ?_ g'.added ?_
  · rw [addedAt, found, Option.map_some]
  · rw [addedAt, found', Option.map_some]

lemma nodup_added {grants : List Grant} (strict : grants.Pairwise fun a b => a.added < b.added) :
    (grants.map Grant.added).Nodup := by
  apply List.pairwise_map.2
  apply strict.imp
  intro a b before same
  exact Int64.lt_irrefl (same ▸ before)

lemma pairwise_oldestFirst (grants : List Grant) :
    (oldestFirst grants).Pairwise fun a b => a.added ≤ b.added := by
  have sorts : (oldestFirst grants).Pairwise fun a b => decide (a.added ≤ b.added) = true := by
    apply List.pairwise_mergeSort
    · intro a b c
      simpa using Int64.le_trans
    · intro a b
      simpa using Int64.le_total a.added b.added
  exact sorts.imp of_decide_eq_true

/-- Sorting has a single result where the order is strict. -/
lemma oldestFirst_of_perm {grants sorted : List Grant} (perm : grants.Perm sorted)
    (strict : sorted.Pairwise fun a b => a.added < b.added) : oldestFirst grants = sorted := by
  have rearranged : (oldestFirst grants).Perm sorted := (List.mergeSort_perm grants _).trans perm
  have ordered : sorted.Pairwise fun a b => a.added ≤ b.added := strict.imp Int64.le_of_lt
  apply List.Perm.eq_of_pairwise _ (pairwise_oldestFirst grants) ordered rearranged
  intro a b mem mem' le ge
  have same : a.added = b.added := Int64.le_antisymm le ge
  exact List.inj_on_of_nodup_map (nodup_added strict) (rearranged.mem_iff.1 mem) mem' same

lemma Enrolled.perm_present (h : Enrolled roll s) (intact : s.Integrity) :
    s.grants.values.Perm (s.present roll) := by
  have once : (s.present roll).Nodup := .of_map Grant.added (nodup_added h.pairwise_present)
  exact (List.perm_ext_iff_of_nodup intact.nodup_grants once).2 fun _ => h.mem_present.symm

lemma Enrolled.nodup (h : Enrolled roll s) (intact : s.Integrity) : roll.Nodup := by
  rw [← h.map_id_present intact]
  exact (Table.nodup_values_map intact.grant_id).perm ((h.perm_present intact).map Grant.id)

/-- However the table enumerates its grants, those of one kind are listed in the order of the
roll. -/
lemma Enrolled.oldestFirst_filter (h : Enrolled roll s) (intact : s.Integrity) (p : Grant → Bool)
    {order : List Grant} (perm : order.Perm s.grants.values) :
    oldestFirst (order.filter p) = (s.present roll).filter p := by
  have all : order.Perm (s.present roll) := perm.trans (h.perm_present intact)
  exact oldestFirst_of_perm (all.filter p) (h.pairwise_present.filter p)

/-! ## The circles of a member -/

section

open Program Service

lemma circle_found (intact : s.Integrity) {id : CircleId} (there : s.circles.get? id ≠ none)
    (clock : Nat → Timestamp) : (Service.circle id).Meets clock s fun r s' =>
      s' = s ∧ ∃ c, r = .ok c ∧ c.id = id ∧ s.circle? id = some c := by
  refine .call ?_
  rw [← bind_pure (found _ _)]
  refine .found (fun c found => ?_) (fun absent => absurd absent there)
  exact .result ⟨rfl, c, rfl, intact.circle_id id c found, found⟩

/-- The circles of stored grants are found, one after another. -/
lemma circlesOf_found (intact : s.Integrity) {grants : List Grant}
    (stored : ∀ g ∈ grants, g ∈ s.grants.values) (clock : Nat → Timestamp) :
    (circlesOf grants).Meets clock s fun r s' =>
      s' = s ∧ ∃ circles, r = .ok circles ∧ circles.map Circle.id = grants.map Grant.circle ∧
        ∀ c ∈ circles, s.circle? c.id = some c := by
  induction grants generalizing clock with
  | nil => exact .result ⟨rfl, [], rfl, rfl, List.forall_mem_nil _⟩
  | cons g rest ih =>
      obtain ⟨first, others⟩ := List.forall_mem_cons.1 stored
      have there := intact.grant_circle g.id g (intact.get?_of_mem first)
      refine .bind (circle_found intact there clock) ?_ ?_
      · rintro c s' clock' ⟨rfl, c, same, own, found⟩
        obtain rfl := Except.ok.inj same
        refine .bind (ih others clock') ?_ ?_
        · rintro circles s' clock'' ⟨rfl, circles, same, names, all⟩
          obtain rfl := Except.ok.inj same
          refine .result ⟨rfl, _, rfl, ?_, ?_⟩
          · rw [List.map_cons, List.map_cons, own, names]
          · exact List.forall_mem_cons.2 ⟨own ▸ found, all⟩
        · rintro e s' ⟨-, circles, failed, -⟩
          cases failed
      · rintro e s' ⟨-, c, failed, -⟩
        cases failed

end

/-! ## The order of listings -/

/-- **Listings are complete and in the order of insertion.**  After any calls, as long as the clock
has not run out, the grants on the roll are those that are stored, each of them once.  A circle's
listing is what is on the roll for the circle, in that order, and a member's likewise, in whatever
order the table enumerates its grants.  And listing a member's circles succeeds, with the stored
circles of the member's grants, one for each and none of them twice. -/
theorem listings_in_order (calls : List (Timestamp × Call)) (unexhausted : Unexhausted calls) :
    let s := Store.empty.performAll calls
    let roll := Store.empty.enrolAll [] calls
    (roll.Nodup ∧ (s.present roll).map Grant.id = roll ∧
      ∀ g, g ∈ s.present roll ↔ g ∈ s.grants.values) ∧
    (∀ c, s.grantsIn c = (s.present roll).filter fun g => g.circle = c) ∧
    (∀ m, s.grantsOf m = (s.present roll).filter fun g => g.member = m) ∧
    (∀ order : List Grant, order.Perm s.grants.values → ∀ p : Grant → Bool,
      oldestFirst (order.filter p) = (s.present roll).filter p) ∧
    ∀ m clock, ∃ circles, (Service.listCircles m).run clock s = (.ok circles, s) ∧
      circles.map Circle.id = (s.grantsOf m).map Grant.circle ∧ (circles.map Circle.id).Nodup ∧
      ∀ c ∈ circles, s.circle? c.id = some c := by
  intro s roll
  have intact : s.Integrity := Integrity.empty.performAll calls
  have enrolled : Enrolled roll s := enrolled_performAll unexhausted
  have listed : ∀ p : Grant → Bool, oldestFirst (s.grants.values.filter p) =
      (s.present roll).filter p :=
    fun p => enrolled.oldestFirst_filter intact p (List.Perm.refl _)
  refine ⟨⟨enrolled.nodup intact, enrolled.map_id_present intact, fun g => enrolled.mem_present⟩,
    fun c => listed _, fun m => listed _, ?_, ?_⟩
  · intro order perm p
    exact enrolled.oldestFirst_filter intact p perm
  · intro m clock
    have stored : ∀ g ∈ s.grantsOf m, g ∈ s.grants.values := fun g mem => (mem_grantsOf.1 mem).1
    obtain ⟨unchanged, circles, succeeds, same, found⟩ :=
      circlesOf_found intact stored (Program.later clock)
    refine ⟨circles, Prod.ext succeeds unchanged, same, ?_, found⟩
    rw [same]
    exact intact.nodup_grantsOf m

/-! ## A member who comes back -/

/-- A third member joins the circle, the second one's grant is written again, and the first member
leaves the circle and comes back under the old identifier, while the wall clock goes on running
backwards. -/
def comeback : List (Timestamp × Call) :=
  backwards ++
    [(20, .insertMember (newcomer "carol" 3)), (20, .insertGrant (ticket 3 3 1)),
      (10, .updateGrant (ticket 2 2 1)), (5, .deleteGrant ⟨.fit 16 [1]⟩),
      (5, .insertGrant (ticket 1 1 1))]

theorem listings_in_order_comeback :
    let s := Store.empty.performAll comeback
    let board : CircleId := ⟨.fit 16 [1]⟩
    Unexhausted comeback ∧
      (s.grantsIn board).map Grant.id = [⟨.fit 16 [2]⟩, ⟨.fit 16 [3]⟩, ⟨.fit 16 [1]⟩] ∧
      oldestFirst (s.grants.values.reverse.filter fun g => g.circle = board) = s.grantsIn board ∧
      ∃ circles, (Service.listCircles ⟨.fit 16 [2]⟩).run (fun _ => 0) s = (.ok circles, s) ∧
        circles.map Circle.id = [board] := by
  intro s board
  have unexhausted : Unexhausted comeback := by decide +kernel
  obtain ⟨⟨-, names, -⟩, inCircle, -, anyOrder, ofMember⟩ := listings_in_order comeback unexhausted
  have reversed := anyOrder s.grants.values.reverse (List.reverse_perm _) fun g => g.circle = board
  refine ⟨unexhausted, ?_, reversed.trans (inCircle board).symm, ?_⟩
  · have all : (s.grantsIn board).map Grant.id = Store.empty.enrolAll [] comeback := by
      rw [inCircle, List.filter_eq_self.2, names]
      decide +kernel
    rw [all]
    decide +kernel
  · obtain ⟨circles, succeeds, same, -, -⟩ := ofMember ⟨.fit 16 [2]⟩ fun _ => 0
    refine ⟨circles, succeeds, same.trans ?_⟩
    decide +kernel

end Store

end CircleVault
