import CircleVault.Proofs.Calls
import CircleVault.Proofs.Interleaving
import CircleVault.Proofs.Listings
import CircleVault.Proofs.Transparent

/-!
# A circle and its last sysop

Revoking a grant and changing its level list the circle's grants, look for a sysop among those that
would be left, and write.  Others may write in between.  A `Management` is one such operation on a
circle's grants, and any number of them run in a `Scene`, their calls in any order.

The store has no guard of its own: it removes the grants of two sysops although each of the two
removals relied on the other sysop (`Management.sysop_lost_in_race`).  What can be said is whose
fault that is.  While an operation is under way, every sysop of its listing is either still seated
in the store or was unseated, since the listing, by somebody else (`Managed`).  So a write takes the
last sysop away only if all sysops on whom its operation relies were unseated under its hands
(`Management.Overtaken`), and a circle keeps a sysop through every schedule in which that happens to
nobody (`Management.sysop_stays_unless_overtaken`).
-/

namespace CircleVault

open Program

/-! ## Seats -/

namespace Store

/-- A grant at the level of a sysop is stored in a circle. -/
def Seated (s : Store) (c : CircleId) : Prop :=
  ∃ g ∈ s.grants.values, g.circle = c ∧ g.level = .sysop

instance (s : Store) (c : CircleId) : Decidable (s.Seated c) :=
  inferInstanceAs (Decidable (∃ g ∈ s.grants.values, g.circle = c ∧ g.level = .sysop))

/-- The grant with an identifier is one of a sysop in a circle. -/
def Seats (s : Store) (c : CircleId) (id : GrantId) : Prop :=
  ∃ g, s.grants.get? id = some g ∧ g.circle = c ∧ g.level = .sysop

variable {s s' : Store} {c : CircleId} {id : GrantId} {now : Timestamp}

lemma Seats.seated (h : s.Seats c id) : s.Seated c := by
  obtain ⟨g, found, here, level⟩ := h
  exact ⟨g, Table.mem_values_of_get? found, here, level⟩

lemma Seats.insert (h : s.Seats c id) {g : Grant} {other : GrantId}
    (fresh : s.grants.get? other = none) (grants : s'.grants = s.grants.insert other g) :
    s'.Seats c id := by
  obtain ⟨o, found, seat⟩ := h
  exact ⟨o, grants ▸ Table.get?_insert_of_fresh fresh found, seat⟩

/-- A grant that is set at the level of a sysop is one of a sysop, in its circle. -/
lemma seats_updateGrant {g stored : Grant} (wrote : s.updateGrant now g = .ok stored s')
    (circle : g.circle = c) (level : g.level = .sysop) : s'.Seats c g.id := by
  obtain ⟨present, -, -, rfl, rfl⟩ := updateGrant_eq_ok.1 wrote
  exact ⟨_, Table.get?_insert_self .., circle, level⟩

lemma Seats.updateGrant (h : s.Seats c id) {g stored : Grant}
    (wrote : s.updateGrant now g = .ok stored s') (kept : g.id = id → g.level = .sysop) :
    s'.Seats c id := by
  obtain ⟨o, found, here, level⟩ := h
  obtain ⟨present, there, ⟨-, circle⟩, -, after⟩ := updateGrant_eq_ok.1 wrote
  by_cases own : g.id = id
  · subst own
    obtain rfl := Option.some.inj (there.symm.trans found)
    exact seats_updateGrant wrote (circle.symm.trans here) (kept rfl)
  · refine ⟨o, ?_, here, level⟩
    simp [after, Ne.symm own, found]

lemma Seats.deleteGrant (h : s.Seats c id) {removed : GrantId} {u : Unit}
    (wrote : s.deleteGrant removed = .ok u s') (kept : removed ≠ id) : s'.Seats c id := by
  obtain ⟨o, found, seat⟩ := h
  obtain ⟨-, rfl⟩ := deleteGrant_eq_ok.1 wrote
  exact ⟨o, by simp [Ne.symm kept, found], seat⟩

end Store

/-- Whether a call took a sysop's grant away, or set it at another level. -/
def Call.unseats (id : GrantId) : (c : Call) → c.Answer → Bool
  | .deleteGrant removed, .ok _ => removed = id
  | .updateGrant g, .ok _ => g.id = id && g.level ≠ .sysop
  | _, _ => false

/-- Whoever is seated stays so through a call that does not unseat them. -/
theorem Store.Seats.answer {s : Store} {c : CircleId} {id : GrantId} (h : s.Seats c id)
    (now : Timestamp) (call : Call) (spared : call.unseats id (s.answer now call).1 = false) :
    (s.answer now call).2.Seats c id := by
  have leaves := s.answer_leaves now call
  cases call with
  | createCircle f =>
      refine settle_kept (P := fun s' => s'.Seats c id) createCircle_spares h fun _ _ wrote => ?_
      obtain ⟨-, -, -, -, -, fresh, -, rfl⟩ := createCircle_eq_ok.1 wrote
      exact h.insert fresh rfl
  | insertGrant g =>
      refine settle_kept (P := fun s' => s'.Seats c id) insertGrant_spares h fun _ _ wrote => ?_
      obtain ⟨-, -, fresh, -, -, rfl⟩ := insertGrant_eq_ok.1 wrote
      exact h.insert fresh rfl
  | updateGrant g =>
      refine settle_kept (P := fun s' => s'.Seats c id) updateGrant_spares h fun _ _ wrote => ?_
      refine h.updateGrant wrote fun own => ?_
      simpa [Store.answer, settle, wrote, Call.unseats, own] using spared
  | deleteGrant removed =>
      refine settle_kept (P := fun s' => s'.Seats c id) deleteGrant_spares h fun _ _ wrote => ?_
      refine h.deleteGrant wrote ?_
      simpa [Store.answer, settle, wrote, Call.unseats] using spared
  | _ =>
      -- No other call files a grant or removes one.
      generalize (s.answer now _).2 = s' at leaves ⊢
      cases leaves <;> exact h

/-! ## Operations on a circle's grants -/

/-- An operation on a circle's grants that may take a sysop away. -/
inductive Management where
  | removal (actor target : MemberId)
  | change (actor target : MemberId) (level : TrustLevel)

namespace Management

abbrev Result : Management → Type
  | removal .. => Unit
  | change .. => Grant

def program (c : CircleId) : (o : Management) → Program o.Result
  | removal actor target => Service.removeGrant actor c target
  | change actor target level => Service.changeLevel actor c target level

def actor : Management → MemberId
  | removal actor _ => actor
  | change actor _ _ => actor

/-- The member whose grant the operation writes. -/
def target : Management → MemberId
  | removal _ target => target
  | change _ target _ => target

/-- Whether the operation makes its target a sysop. -/
def appoints : Management → Bool
  | removal _ _ => false
  | change _ _ level => level = .sysop

/-- The write at the end of an operation, given the grant that it found. -/
def write : Management → Grant → Call
  | removal _ _, held => .deleteGrant held.id
  | change _ _ level, held => .updateGrant (held.withLevel level)

/-- What an operation makes of the listing. -/
def conclude (own : Grant) (present : List Grant) : (o : Management) → Program o.Result
  | removal _ target => do
      let (removed, rest) ← of (Grant.remove present target)
      require (own.level.allows removed.level) .revokeAboveOwn
      require (Service.hasSysop rest) .lastSysop
      accepted (← call (.deleteGrant removed.id))
  | change _ target level => do
      let (held, rest) ← of (Grant.remove present target)
      require (own.level.allows held.level && own.level.allows level) .changeAboveOwn
      let changed := held.withLevel level
      require (Service.hasSysop (changed :: rest)) .lastSysop
      accepted (← call (.updateGrant changed))

lemma program_eq (c : CircleId) (o : Management) :
    o.program c = (do
      let own ← Service.authorize o.actor c .admin
      let present ← call (.grantsIn c)
      o.conclude own present) := by
  cases o <;> rfl

/-- Operations on a circle's grants that are about to begin. -/
def scene {ι : Type} (pool : ι → Management) (c : CircleId) (s : Store) :
    Scene fun i => (pool i).Result :=
  ⟨s, fun i => (pool i).program c, []⟩

end Management

/-! ## What the log tells -/

/-- The grants that a call listed, if it listed a circle's. -/
def Call.grantsListed : (c : Call) → c.Answer → Option (List Grant)
  | .grantsIn _, present => some present
  | _, _ => none

/-- The grants that a participant listed. -/
def Exchange.listedBy {ι : Type} [DecidableEq ι] (i : ι) (e : Exchange ι) : Option (List Grant) :=
  if e.participant = i then e.call.grantsListed e.answer else none

/-- The first listing that a participant read, and what was asked since. -/
def Exchange.listing? {ι : Type} [DecidableEq ι] (i : ι) :
    List (Exchange ι) → Option (List Grant × List (Exchange ι))
  | [] => none
  | e :: rest =>
      match e.listedBy i with
      | some present => some (present, rest)
      | none => listing? i rest

lemma Exchange.listing?_append {ι : Type} [DecidableEq ι] (i : ι) (log : List (Exchange ι))
    (e : Exchange ι) :
    listing? i (log ++ [e]) =
      ((listing? i log).map fun l => (l.1, l.2 ++ [e])).or
        ((e.listedBy i).map fun present => (present, [])) := by
  induction log with
  | nil =>
      rw [List.nil_append, listing?, listing?]
      cases e.listedBy i <;> rfl
  | cons first rest ih =>
      rw [List.cons_append, listing?, listing?]
      cases first.listedBy i with
      | none => exact ih
      | some present => rfl

lemma Exchange.mem_of_listing? {ι : Type} [DecidableEq ι] {i : ι} {log : List (Exchange ι)}
    {l : List Grant × List (Exchange ι)} (had : listing? i log = some l) {e : Exchange ι}
    (since : e ∈ l.2) : e ∈ log := by
  induction log with
  | nil => cases had
  | cons first rest ih =>
      rw [listing?] at had
      split at had
      · obtain rfl := Option.some.inj had
        exact List.mem_cons_of_mem first since
      · exact List.mem_cons_of_mem first (ih had)

namespace Management

variable {c : CircleId} {o : Management}

/-- How far an operation has come: the listing that it read, and the rest of its program. -/
inductive Stage (c : CircleId) (o : Management) : Option (List Grant) → Program o.Result → Prop
  where
  | start : Stage c o none (o.program c)
  | admitted (own : Grant) :
      Stage c o none (.ask (.grantsIn c) fun present => o.conclude own present)
  | deciding {present rest : List Grant} {held : Grant}
      {next : (o.write held).Answer → Program o.Result}
      (taken : Grant.remove present o.target = .ok (held, rest))
      (kept : o.appoints = true ∨ Service.hasSysop rest = true)
      (ends : ∀ answer, ∃ result, next answer = .done result) :
      Stage c o (some present) (.ask (o.write held) next)
  | finished (read : Option (List Grant)) (result : Except Failure o.Result) :
      Stage c o read (.done result)

lemma Stage.require {read : Option (List Grant)} {condition : Bool} {e : Failure}
    {f : Unit → Program o.Result} (goes : condition = true → Stage c o read (f ())) :
    Stage c o read (require condition e >>= f) := by
  cases condition with
  | false => exact .finished read _
  | true => exact goes rfl

/-- With the listing at hand, an operation is about to write, or fails. -/
lemma stage_conclude (own : Grant) (present : List Grant) :
    Stage c o (some present) (o.conclude own present) := by
  cases o with
  | removal actor target =>
      rw [conclude]
      cases taken : Grant.remove present target with
      | error e => exact .finished _ _
      | ok r =>
          refine .require fun _ => .require fun kept => ?_
          refine .deciding taken (.inr kept) fun answer => ?_
          cases answer <;> exact ⟨_, rfl⟩
  | change actor target level =>
      rw [conclude]
      cases taken : Grant.remove present target with
      | error e => exact .finished _ _
      | ok r =>
          refine .require fun _ => .require fun kept => ?_
          refine .deciding taken ?_ fun answer => ?_
          · simpa [Service.hasSysop, Grant.withLevel, appoints] using kept
          · cases answer <;> exact ⟨_, rfl⟩

/-- An operation goes on with what it is answered. -/
lemma Stage.next {read : Option (List Grant)} {p : Program o.Result} (h : Stage c o read p)
    {call : Call} {next : call.Answer → Program o.Result} (asks : p = .ask call next)
    (answer : call.Answer) : Stage c o (read.or (call.grantsListed answer)) (next answer) := by
  cases h with
  | start =>
      rw [program_eq] at asks
      cases asks
      cases answer with
      | none => exact .finished _ _
      | some own =>
          show Stage c o none ((Program.require _ _ >>= fun _ => pure own) >>= _)
          rw [bind_assoc]
          exact .require fun _ => .admitted own
  | admitted own =>
      cases asks
      exact stage_conclude own answer
  | deciding taken kept ends =>
      cases asks
      obtain ⟨result, done⟩ := ends answer
      rw [done]
      exact .finished _ _
  | finished => cases asks

/-- An operation asks what changes nothing, or writes the grant that it found in its listing. -/
lemma Stage.quiet_or_writes {read : Option (List Grant)} {p : Program o.Result}
    (h : Stage c o read p) {call : Call} {next : call.Answer → Program o.Result}
    (asks : p = .ask call next) (s : Store) (now : Timestamp) :
    (s.answer now call).2 = s ∨ ∃ present held rest, read = some present ∧ call = o.write held ∧
      Grant.remove present o.target = .ok (held, rest) ∧
      (o.appoints = true ∨ Service.hasSysop rest = true) := by
  cases h with
  | start =>
      rw [program_eq] at asks
      cases asks
      exact .inl rfl
  | admitted own =>
      cases asks
      exact .inl rfl
  | deciding taken kept ends =>
      cases asks
      exact .inr ⟨_, _, _, rfl, rfl, taken, kept⟩
  | finished => cases asks

/-- An operation that has a listing and goes on has just read it. -/
lemma Stage.listing_of_undone {read : Option (List Grant)} {p : Program o.Result}
    (h : Stage c o read p) {call : Call} {next : call.Answer → Program o.Result}
    (asks : p = .ask call next) {answer : call.Answer} (undone : (next answer).isDone = false)
    (had : (read.or (call.grantsListed answer)).isSome = true) :
    read = none ∧ call = .grantsIn c := by
  cases h with
  | start =>
      rw [program_eq] at asks
      cases asks
      cases had
  | admitted own =>
      cases asks
      exact ⟨rfl, rfl⟩
  | deciding taken kept ends =>
      cases asks
      obtain ⟨result, done⟩ := ends answer
      rw [done] at undone
      cases undone
  | finished => cases asks

/-! ## Any order of calls -/

/-- A sysop on whom an operation relies: one whose grant it does not write. -/
def ReliesOn (o : Management) (g : Grant) : Prop := g.level = .sysop ∧ g.member ≠ o.target

instance (o : Management) (g : Grant) : Decidable (o.ReliesOn g) :=
  inferInstanceAs (Decidable (g.level = .sysop ∧ g.member ≠ o.target))

section Runs

variable {ι : Type} {pool : ι → Management}

/-- Somebody else has unseated a grant's holder. -/
def UnseatedBy (i : ι) (id : GrantId) (since : List (Exchange ι)) : Prop :=
  ∃ e ∈ since, e.participant ≠ i ∧ e.call.unseats id e.answer = true

instance [DecidableEq ι] (i : ι) (id : GrantId) (since : List (Exchange ι)) :
    Decidable (UnseatedBy i id since) :=
  inferInstanceAs
    (Decidable (∃ e ∈ since, e.participant ≠ i ∧ e.call.unseats id e.answer = true))

/-- What a listing still says: it was the circle's, and its sysops are seated unless somebody else
has unseated them. -/
structure Current (c : CircleId) (s : Store) (i : ι) (present : List Grant)
    (since : List (Exchange ι)) : Prop where
  listed : ∃ s₀ : Store, s₀.Integrity ∧ present = s₀.grantsIn c
  seats : ∀ g ∈ present, g.level = .sysop → s.Seats c g.id ∨ UnseatedBy i g.id since

variable {s : Store} {i : ι} {now : Timestamp}

/-- A listing stays current through the calls of others. -/
lemma Current.answer {present : List Grant} {since : List (Exchange ι)}
    (h : Current c s i present since) {j : ι} (other : j ≠ i) (call : Call) :
    Current c (s.answer now call).2 i present (since ++ [⟨j, call, (s.answer now call).1⟩]) where
  listed := h.listed
  seats g mem level := by
    obtain seat | ⟨e, there, unseated⟩ := h.seats g mem level
    · cases spared : call.unseats g.id (s.answer now call).1 with
      | false => exact .inl (seat.answer now call spared)
      | true => exact .inr ⟨_, List.mem_append_right _ (List.mem_singleton_self _), other, spared⟩
    · exact .inr ⟨e, List.mem_append_left _ there, unseated⟩

/-- A listing is current when it is read. -/
lemma current_grantsIn (h : s.Integrity) : Current c s i (s.grantsIn c) [] where
  listed := ⟨s, h, rfl⟩
  seats g mem level := by
    obtain ⟨stored, circle⟩ := Store.mem_grantsIn.1 mem
    exact .inl ⟨g, h.get?_of_mem stored, circle, level⟩

variable [DecidableEq ι]

/-- A participant relies on sysops of its listing all of whom others have unseated since. -/
def Overtaken (sc : Scene fun i => (pool i).Result) (i : ι) : Prop :=
  ∃ l ∈ Exchange.listing? i sc.log, (∃ g ∈ l.1, (pool i).ReliesOn g) ∧
    ∀ g ∈ l.1, (pool i).ReliesOn g → UnseatedBy i g.id l.2

instance (sc : Scene fun i => (pool i).Result) (i : ι) : Decidable (Overtaken sc i) :=
  inferInstanceAs (Decidable (∃ l ∈ Exchange.listing? i sc.log,
    (∃ g ∈ l.1, (pool i).ReliesOn g) ∧ ∀ g ∈ l.1, (pool i).ReliesOn g → UnseatedBy i g.id l.2))

/-- Operations on a circle's grants under way. -/
structure Managed (c : CircleId) (sc : Scene fun i => (pool i).Result) : Prop where
  integrity : sc.store.Integrity
  stages : ∀ i, (pool i).Stage c ((Exchange.listing? i sc.log).map Prod.fst) (sc.programs i)
  current : ∀ i l, Exchange.listing? i sc.log = some l → (sc.programs i).isDone = false →
    Current c sc.store i l.1 l.2

variable {sc : Scene fun i => (pool i).Result}

lemma Managed.start (h : s.Integrity) : Managed c (scene pool c s) where
  integrity := h
  stages _ := .start
  current := nofun

lemma listing?_step {call : Call} {next : call.Answer → Program (pool i).Result}
    (asks : sc.programs i = .ask call next) (j : ι) :
    Exchange.listing? j (sc.step i now).log =
      ((Exchange.listing? j sc.log).map fun l =>
        (l.1, l.2 ++ [⟨i, call, (sc.store.answer now call).1⟩])).or
        (if i = j then (call.grantsListed (sc.store.answer now call).1).map fun present =>
          (present, []) else none) := by
  rw [Scene.step_of_ask asks, Exchange.listing?_append, Exchange.listedBy]
  split <;> rfl

lemma Managed.stages_step (h : Managed c sc) {call : Call}
    {next : call.Answer → Program (pool i).Result} (asks : sc.programs i = .ask call next)
    (now : Timestamp) (j : ι) :
    (pool j).Stage c ((Exchange.listing? j (sc.step i now).log).map Prod.fst)
      ((sc.step i now).programs j) := by
  have stage := h.stages j
  rw [listing?_step asks, Scene.step_of_ask asks]
  by_cases own : i = j
  · subst own
    have goes := stage.next asks (sc.store.answer now call).1
    simp only [if_true, Function.update_self]
    cases had : Exchange.listing? i sc.log <;>
      cases found : call.grantsListed (sc.store.answer now call).1 <;>
        simpa [had, found] using goes
  · simp only [if_neg own, Function.update_of_ne (Ne.symm own), Option.or_none]
    cases had : Exchange.listing? j sc.log <;> simpa [had] using stage

lemma Managed.current_step (h : Managed c sc) {call : Call}
    {next : call.Answer → Program (pool i).Result} (asks : sc.programs i = .ask call next)
    (now : Timestamp) (j : ι) (l : List Grant × List (Exchange ι))
    (had : Exchange.listing? j (sc.step i now).log = some l)
    (undone : ((sc.step i now).programs j).isDone = false) :
    Current c (sc.step i now).store j l.1 l.2 := by
  rw [listing?_step asks] at had
  rw [Scene.step_of_ask asks] at undone ⊢
  by_cases own : i = j
  · subst own
    simp only [if_true, Function.update_self] at had undone
    have stage := h.stages i
    -- Whoever has a listing and goes on has just read it.
    cases before : Exchange.listing? i sc.log with
    | some l₀ =>
        rw [before] at stage
        exact nomatch (stage.listing_of_undone asks undone rfl).1
    | none =>
        rw [before] at stage had
        obtain ⟨present, found, rfl⟩ := Option.map_eq_some_iff.1 had
        obtain ⟨-, rfl⟩ := stage.listing_of_undone asks undone (Option.isSome_of_eq_some found)
        obtain rfl := Option.some.inj found
        exact current_grantsIn h.integrity
  · simp only [if_neg own, Function.update_of_ne (Ne.symm own), Option.or_none] at had undone
    obtain ⟨l₀, before, rfl⟩ := Option.map_eq_some_iff.1 had
    exact (h.current j l₀ before undone).answer own call

/-- Every step leaves the operations under way. -/
theorem Managed.step (h : Managed c sc) (i : ι) (now : Timestamp) : Managed c (sc.step i now) := by
  cases asks : sc.programs i with
  | done r =>
      rw [Scene.step_of_done asks]
      exact h
  | ask call next =>
      exact
        { integrity := by
            rw [Scene.step_of_ask asks]
            exact h.integrity.answer _ now call
          stages := h.stages_step asks now
          current := h.current_step asks now }

lemma Managed.play (h : Managed c sc) (schedule : List (ι × Timestamp)) :
    Managed c (sc.play schedule) :=
  Scene.play_invariant (P := Managed c) schedule (fun _ i now _ h => h.step i now) h

/-! ## Who takes the last sysop away -/

/-- Another grant than the one written is not unseated. -/
lemma unseats_write {held : Grant} {id : GrantId} (other : held.id ≠ id)
    (answer : (o.write held).Answer) : (o.write held).unseats id answer = false := by
  cases o with
  | removal actor target => cases answer <;> simp [write, Call.unseats, other]
  | change actor target level => cases answer <;> simp [write, Call.unseats, Grant.withLevel, other]

/-- Making a sysop leaves a sysop. -/
lemma seated_of_appoints (appoints : o.appoints = true) {held : Grant} (here : held.circle = c)
    (seated : s.Seated c) (now : Timestamp) : (s.answer now (o.write held)).2.Seated c := by
  cases o with
  | removal actor target => cases appoints
  | change actor target level =>
      refine Store.settle_kept (P := fun s' => s'.Seated c) Store.updateGrant_spares seated
        fun _ _ wrote => ?_
      have sysop : level = .sysop := by simpa [Management.appoints] using appoints
      exact (Store.seats_updateGrant wrote here sysop).seated

/-- The last sysop is taken away by nobody but whoever is overtaken. -/
theorem Managed.overtaken_of_lost (h : Managed c sc) (seated : sc.store.Seated c)
    (lost : ¬(sc.step i now).store.Seated c) : Overtaken sc i := by
  cases asks : sc.programs i with
  | done r =>
      rw [Scene.step_of_done asks] at lost
      exact absurd seated lost
  | ask call next =>
      rw [Scene.step_of_ask asks] at lost
      obtain same | ⟨present, held, rest, read, rfl, taken, kept⟩ :=
        (h.stages i).quiet_or_writes asks sc.store now
      · exact absurd seated (same ▸ lost)
      · obtain ⟨l, had, rfl⟩ := Option.map_eq_some_iff.1 read
        have current := h.current i l had (by rw [asks]; rfl)
        obtain ⟨s₀, intact, listed⟩ := current.listed
        obtain ⟨found, others⟩ := intact.remove_grantsIn (listed ▸ taken)
        obtain ⟨mem, mine, here⟩ := Store.mem_grants_of_grant? found
        refine ⟨l, had, ?_, fun g listing relied => ?_⟩
        · obtain appoints | spare := kept
          · exact absurd (seated_of_appoints appoints here seated now) lost
          · obtain ⟨g, left, level⟩ := List.any_eq_true.1 spare
            obtain ⟨stored, circle, other⟩ := (others g).1 left
            refine ⟨g, ?_, by simpa using level, other⟩
            rw [listed]
            exact Store.mem_grantsIn.2 ⟨stored, circle⟩
        · obtain ⟨level, other⟩ := relied
          obtain seat | unseated := current.seats g listing level
          -- Who is still seated would be so after the write, which is of another grant.
          · refine absurd (seat.answer now _ (unseats_write (fun same => other ?_) _)).seated lost
            rw [listed] at listing
            rw [← intact.grant_eq_of_id mem (Store.mem_grantsIn.1 listing).1 same, mine]
          · exact unseated

/-- Nobody is overtaken where nobody else has moved. -/
lemma not_overtaken_of_alone {schedule : List (ι × Timestamp)}
    (alone : ∀ move ∈ schedule, move.1 = i) : ¬Overtaken ((scene pool c s).play schedule) i := by
  rintro ⟨l, had, ⟨g, listed, relied⟩, all⟩
  obtain ⟨e, since, other, -⟩ := all g listed relied
  have silent : ∀ e ∈ (scene pool c s).log, e.participant = i := List.forall_mem_nil _
  exact other (Scene.participant_of_play alone silent e (Exchange.mem_of_listing? had since))

/-- **A circle keeps a sysop unless somebody is overtaken.**  Any number of operations on a circle's
grants run against a store in which the circle has a sysop, their calls in any order.  A call after
which the circle has none is made by an operation that relies on sysops of its listing, all of whom
others have unseated since; and a schedule in which nobody is overtaken leaves a sysop after every
step. -/
theorem sysop_stays_unless_overtaken (pool : ι → Management) (c : CircleId) (s : Store)
    (intact : s.Integrity) (seated : s.Seated c) (schedule : List (ι × Timestamp)) :
    (∀ i now, ((scene pool c s).play schedule).store.Seated c →
      ¬(((scene pool c s).play schedule).step i now).store.Seated c →
      Overtaken ((scene pool c s).play schedule) i) ∧
    ((∀ early i now, early ++ [(i, now)] <+: schedule →
      ¬Overtaken ((scene pool c s).play early) i) →
      ((scene pool c s).play schedule).store.Seated c) := by
  have managed : ∀ early, Managed c ((scene pool c s).play early) := (Managed.start intact).play
  refine ⟨fun i now => (managed schedule).overtaken_of_lost, fun unhindered => ?_⟩
  refine Scene.play_invariant (P := fun sc => sc.store.Seated c) schedule ?_ seated
  intro early i now part before
  by_contra lost
  exact unhindered early i now part ((managed early).overtaken_of_lost before lost)

end Runs

/-! ## Two who remove each other -/

section Rivals

open SmallCircle

/-- A member who never unlocks anything. -/
def person (id : MemberId) (name : String) : Member :=
  ⟨id, name, .ofBytes (drawn 16 0), ⟨.xchacha20Poly1305, .ofBytes (drawn 16 0), []⟩, "", 0, 0⟩

/-- A sysop's grant in the club. -/
def seat (b : UInt8) (m : MemberId) : Grant :=
  ⟨.random (drawn 16 b), m, club, .random (drawn 16 8), .sysop, [], 0, 0⟩

/-- A store with a club whose sysops are Alice and Bob. -/
def twoSysops : Store :=
  Store.empty.performAll
    [(10, .insertMember (person alice "alice")), (20, .insertMember (person bob "bob")),
      (30, .createCircle ⟨⟨club, "club", 0, 0⟩,
        ⟨.random (drawn 16 8), club, .xchacha20Poly1305, .active, 0, 0⟩, seat 4 alice⟩),
      (40, .insertGrant (seat 5 bob))]

lemma twoSysops_intact : twoSysops.Integrity := Store.Integrity.empty.performAll _

/-- Alice removes Bob, and Bob removes Alice. -/
def rivals : Fin 2 → Management
  | 0 => .removal alice bob
  | 1 => .removal bob alice

/-- Both list the grants before either of them writes, and Alice writes first. -/
def rivalRace : List (Fin 2 × Timestamp) := [(0, 60), (1, 61), (0, 62), (1, 63), (0, 64)]

/-- Alice is done before Bob begins. -/
def aliceFirst : List (Fin 2 × Timestamp) := [(0, 60), (0, 61), (0, 62)]

/-- The grants of the two, as they are stored. -/
def seats : Fin 2 → Grant
  | 0 => { seat 4 alice with added := 30, altered := 30 }
  | 1 => { seat 5 bob with added := 40, altered := 40 }

-- The store sorts by recursion on lengths, which no evaluation opens: the listing is found by its
-- order, and the race is followed from there.
lemma twoSysops_grantsIn : twoSysops.grantsIn club = [seats 0, seats 1] := by
  apply Store.oldestFirst_of_perm
  · decide +kernel
  · decide

/-- The race once both have read the listing. -/
def bothListed : Scene fun i => (rivals i).Result :=
  (scene rivals club twoSysops).play [(0, 60), (1, 61), (0, 62), (1, 63)]

lemma bothListed_programs (i : Fin 2) :
    bothListed.programs i = (rivals i).conclude (seats i) [seats 0, seats 1] := by
  rw [← twoSysops_grantsIn]
  match i with
  | 0 => rfl
  | 1 => rfl

/-- Either is about to take the other's grant away. -/
lemma bothListed_asks (i : Fin 2) :
    ∃ next, bothListed.programs i = .ask (.deleteGrant (seats (i + 1)).id) next := by
  rw [bothListed_programs]
  match i with
  | 0 => exact ⟨_, rfl⟩
  | 1 => exact ⟨_, rfl⟩

lemma store_rivalRace : ((scene rivals club twoSysops).play rivalRace).store =
    (twoSysops.answer 64 (.deleteGrant (seats 1).id)).2 := by
  obtain ⟨next, asks⟩ := bothListed_asks 0
  show (bothListed.step 0 64).store = _
  rw [Scene.step_of_ask asks]
  rfl

lemma lost_rivalRace_step :
    ¬(((scene rivals club twoSysops).play rivalRace).step 1 65).store.Seated club := by
  obtain ⟨next, asks⟩ := bothListed_asks 1
  -- Alice's write does not move Bob.
  have unmoved : ((scene rivals club twoSysops).play rivalRace).programs 1 =
      .ask (.deleteGrant (seats 0).id) next := asks
  rw [Scene.step_of_ask unmoved, store_rivalRace]
  have lost : ¬((twoSysops.answer 64 (.deleteGrant (seats 1).id)).2.answer 65
      (.deleteGrant (seats 0).id)).2.Seated club := by decide +kernel
  exact lost

theorem sysop_stays_unless_overtaken_rivals :
    Overtaken ((scene rivals club twoSysops).play rivalRace) 1 ∧
      ((scene rivals club twoSysops).play aliceFirst).store.Seated club := by
  have seated : twoSysops.Seated club := by decide +kernel
  have before : ((scene rivals club twoSysops).play rivalRace).store.Seated club := by
    rw [store_rivalRace]
    decide +kernel
  have unhindered : ∀ early i now, early ++ [(i, now)] <+: aliceFirst →
      ¬Overtaken ((scene rivals club twoSysops).play early) i := by
    intro early i now part
    have first : ∀ move ∈ aliceFirst, move.1 = 0 := by simp [aliceFirst]
    have alone : ∀ move ∈ early ++ [(i, now)], move.1 = 0 :=
      fun move mem => first move (part.subset mem)
    obtain rfl : i = 0 := alone (i, now) (by simp)
    exact not_overtaken_of_alone fun move mem => alone move (List.mem_append_left _ mem)
  constructor
  · exact (sysop_stays_unless_overtaken rivals club twoSysops twoSysops_intact seated rivalRace).1
      1 65 before lost_rivalRace_step
  · exact (sysop_stays_unless_overtaken rivals club twoSysops twoSysops_intact seated aliceFirst).2
      unhindered

/-- **The last sysop can be lost.**  Alice and Bob remove each other, each relying on the other, and
the circle is left without a sysop. -/
theorem sysop_lost_in_race :
    twoSysops.Integrity ∧ twoSysops.Seated club ∧
      ¬((scene rivals club twoSysops).play (rivalRace ++ [(1, 65)])).store.Seated club := by
  refine ⟨twoSysops_intact, ?_, ?_⟩
  · decide +kernel
  · rw [Scene.play_append]
    exact lost_rivalRace_step

end Rivals

end Management

end CircleVault
