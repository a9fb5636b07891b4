import CircleVault.Proofs.WellFormed

/-!
# The service as an access matrix

The grants of a store amount to a matrix of trust levels, one entry at most for a member in a
circle.  `Effect.access` says that an operation changes this matrix as its answer tells, so after
every run the stored grants are what the ledger of the run has written down.

Decisions on authority depend on the matrix alone, and not on passphrases, data or what is drawn.
Revoking and changing a level are decided by it altogether: `AccessMatrix.revoking` and
`AccessMatrix.relevelling` are the outcomes.  That a refusal to go without a sysop means that the
target is the only one holds because a circle always has one.
-/

namespace CircleVault

/-! ## Decisions of a matrix -/

namespace AccessMatrix

variable (M : AccessMatrix)

/-- A member's entry in a circle is undefined or below a level. -/
def FallsShort (m : MemberId) (c : CircleId) (required : TrustLevel) : Prop :=
  M m c = none ∨ ∃ level, M m c = some level ∧ level < required

/-- A member's entry in a circle is above another member's. -/
def Exceeds (m other : MemberId) (c : CircleId) : Prop :=
  ∃ level, M m c = some level ∧ M.FallsShort other c level

/-- A member is the only sysop of a circle. -/
def SoleSysop (m : MemberId) (c : CircleId) : Prop :=
  M m c = some .sysop ∧ ∀ o, o ≠ m → M o c ≠ some .sysop

open Classical in
/-- What an actor is told who revokes a target's grant. -/
noncomputable def revoking (actor : MemberId) (c : CircleId) (target : MemberId) : Outcome :=
  if M.FallsShort actor c .admin ∨ M.Exceeds target actor c then .authorizationWarning
  else if M target c = none then .identificationWarning
  else if M.SoleSysop target c then .illegalAction
  else .success

open Classical in
/-- What an actor is told who changes a target's level. -/
noncomputable def relevelling (actor : MemberId) (c : CircleId) (target : MemberId)
    (level : TrustLevel) : Outcome :=
  if M.FallsShort actor c .admin ∨ M.Exceeds target actor c then .authorizationWarning
  else if M target c = none then .identificationWarning
  else if M.FallsShort actor c level then .authorizationWarning
  else if M.SoleSysop target c ∧ level ≠ .sysop then .illegalAction
  else .success

end AccessMatrix

/-! ## The matrix of a store -/

namespace Store

variable {s s' : Store} {now : Timestamp}

/-- The levels of the stored grants. -/
def access (s : Store) : AccessMatrix := fun m c => (s.grant? m c).map Grant.level

namespace Integrity

/-- Filing a grant, new or in place of one of the same member and circle, sets one entry. -/
lemma access_insert (h : s.Integrity) (h' : s'.Integrity) (g : Grant)
    (grants : s'.grants = s.grants.insert g.id g)
    (replaced : ∀ o, s.grants.get? g.id = some o → o.member = g.member ∧ o.circle = g.circle) :
    s'.access = s.access.set g.member g.circle (some g.level) := by
  funext m c
  by_cases here : m = g.member ∧ c = g.circle
  · obtain ⟨rfl, rfl⟩ := here
    have found : s'.grants.get? g.id = some g := by rw [grants, Table.get?_insert_self]
    rw [AccessMatrix.set_same, access,
      h'.grant?_eq_some.2 ⟨h'.mem_values_grants.2 found, rfl, rfl⟩]
    rfl
  · rw [AccessMatrix.set_other _ _ here, access, access]
    congr 1
    refine Option.ext fun o => ?_
    rw [h'.grant?_eq_some, h.grant?_eq_some, h'.mem_values_grants, h.mem_values_grants, grants,
      Table.get?_insert]
    by_cases same : o.id = g.id
    · -- Neither the grant that is filed nor the one in its place is at another entry.
      rw [if_pos same]
      constructor
      · rintro ⟨⟨⟩, member, circle⟩
        exact absurd ⟨member.symm, circle.symm⟩ here
      · rintro ⟨found, rfl, rfl⟩
        exact absurd (replaced o (same ▸ found)) here
    · rw [if_neg same]

/-- Removing a grant clears one entry. -/
lemma access_erase (h : s.Integrity) (h' : s'.Integrity) {g : Grant} (mem : g ∈ s.grants.values)
    (grants : s'.grants = s.grants.erase g.id) :
    s'.access = s.access.set g.member g.circle none := by
  have found := h.mem_values_grants.1 mem
  funext m c
  by_cases here : m = g.member ∧ c = g.circle
  · obtain ⟨rfl, rfl⟩ := here
    rw [AccessMatrix.set_same, access, Option.map_eq_none_iff, grant?_eq_none]
    intro o ho member circle
    have there := h'.mem_values_grants.1 ho
    rw [grants, Table.get?_erase] at there
    split at there
    · cases there
    next apart =>
      have same := h.grant_ext (h.mem_values_grants.2 there) mem member circle
      exact apart (congrArg Grant.id same)
  · rw [AccessMatrix.set_other _ _ here, access, access]
    congr 1
    refine Option.ext fun o => ?_
    rw [h'.grant?_eq_some, h.grant?_eq_some, h'.mem_values_grants, h.mem_values_grants, grants,
      Table.get?_erase]
    by_cases same : o.id = g.id
    · rw [if_pos same]
      constructor
      · rintro ⟨⟨⟩, -⟩
      · rintro ⟨there, rfl, rfl⟩
        obtain rfl := h.grant_eq_of_id (h.mem_values_grants.2 there) mem same
        exact absurd ⟨rfl, rfl⟩ here
    · rw [if_neg same]

lemma access_createCircle (h : s.Integrity) {f stored : Founded}
    (wrote : s.createCircle now f = .ok stored s') :
    s'.access = s.access.set f.owner.member f.owner.circle (some f.owner.level) := by
  have h' := h.createCircle wrote
  obtain ⟨-, -, -, -, -, fresh, rfl, rfl⟩ := createCircle_eq_ok.1 wrote
  exact h.access_insert h' { f.owner with added := s.tick now, altered := s.tick now } rfl
    fun o found => by simp [fresh] at found

lemma access_insertGrant (h : s.Integrity) {g stored : Grant}
    (wrote : s.insertGrant now g = .ok stored s') :
    s'.access = s.access.set g.member g.circle (some g.level) := by
  have h' := h.insertGrant wrote
  obtain ⟨-, -, fresh, -, rfl, rfl⟩ := insertGrant_eq_ok.1 wrote
  exact h.access_insert h' { g with added := s.tick now, altered := s.tick now } rfl
    fun o found => by simp [fresh] at found

lemma access_updateGrant (h : s.Integrity) {g stored : Grant}
    (wrote : s.updateGrant now g = .ok stored s') :
    s'.access = s.access.set g.member g.circle (some g.level) := by
  have h' := h.updateGrant wrote
  obtain ⟨present, found, unmoved, rfl, rfl⟩ := updateGrant_eq_ok.1 wrote
  refine h.access_insert h' { g with added := present.added, altered := s.tick now } rfl
    fun o found' => ?_
  obtain rfl := Option.some.inj (found.symm.trans found')
  exact unmoved

lemma access_deleteGrant (h : s.Integrity) {g : Grant} {u : Unit} (mem : g ∈ s.grants.values)
    (wrote : s.deleteGrant g.id = .ok u s') :
    s'.access = s.access.set g.member g.circle none := by
  have h' := h.deleteGrant wrote
  obtain ⟨-, rfl⟩ := deleteGrant_eq_ok.1 wrote
  exact h.access_erase h' mem rfl

/-- The stored grants of a member in a circle are the entry. -/
lemma levels_eq_access (h : s.Integrity) (m : MemberId) (c : CircleId) :
    (s.grants.values.filter fun g => g.member = m && g.circle = c).map Grant.level =
      (s.access m c).toList := by
  cases held : s.grant? m c with
  | none =>
      have none : (s.grants.values.filter fun g => g.member = m && g.circle = c) = [] := by
        refine List.filter_eq_nil_iff.2 fun g hg => ?_
        simpa using grant?_eq_none.1 held g hg
      rw [none, access, held]
      rfl
  | some g =>
      obtain ⟨mem, member, circle⟩ := mem_grants_of_grant? held
      have one : (s.grants.values.filter fun g => g.member = m && g.circle = c) = [g] := by
        refine Table.filter_values_eq_singleton (h.get?_of_mem mem) (by simp [member, circle])
          fun id o found selected => ?_
        simp only [Bool.and_eq_true, decide_eq_true_eq] at selected
        exact h.grant_unique id g.id o g found (h.get?_of_mem mem)
          (selected.1.trans member.symm) (selected.2.trans circle.symm)
      rw [one, access, held]
      rfl

end Integrity

end Store

/-! ## One operation -/

namespace Service

open Store

variable {sv : Service} {s s' : Store}

/-- **Operations refine the matrix.**  If the ledger agrees with the store, it still does after it
has noted an operation and what came of it. -/
theorem Effect.access {o : Operation} {r : Except Failure o.Result} (h : s.WellFormed)
    (e : Effect sv s o r s') (L : Ledger) (agree : s.access = L.access) :
    s'.access = (L.note o r).access := by
  cases e with
  | refused => rw [L.note_error, agree]
  | answered query => rw [L.note_query query, agree]
  | registered made wrote =>
      obtain ⟨-, -, -, rfl⟩ := insertMember_eq_ok.1 wrote
      exact agree
  | reprotected present made wrote =>
      obtain ⟨_, -, -, -, rfl⟩ := updateMember_eq_ok.1 wrote
      exact agree
  | founded present made granted wrote =>
      obtain ⟨-, rfl⟩ := Founding.make_eq_ok.1 made
      obtain ⟨-, -, _, -, rfl⟩ := Grant.make_eq_ok.1 granted
      have own := h.member_id _ _ present
      rw [h.access_createCircle wrote, agree]
      obtain ⟨-, -, -, -, -, -, rfl, -⟩ := createCircle_eq_ok.1 wrote
      rw [← own]
      rfl
  | granted held admin within present found opener opened made wrote =>
      obtain ⟨-, -, _, -, rfl⟩ := Grant.make_eq_ok.1 made
      have own := h.member_id _ _ present
      obtain rfl := h.key_of_grant? held found
      rw [h.access_insertGrant wrote, agree, ← own]
      rfl
  | revoked held admin taken within kept wrote =>
      obtain ⟨mem, rfl, rfl⟩ := mem_grants_of_grant? (h.remove_grantsIn taken).1
      rw [h.access_deleteGrant mem wrote, agree]
      rfl
  | relevelled held admin taken within granted kept wrote =>
      obtain ⟨mem, rfl, rfl⟩ := mem_grants_of_grant? (h.remove_grantsIn taken).1
      rw [h.access_updateGrant wrote, agree]
      rfl
  | signed present unsigned opened wrote =>
      obtain ⟨_, -, -, rfl⟩ := upsertSignature_eq_ok.1 wrote
      exact agree
  | verified present parsed found success wrote =>
      obtain ⟨_, -, -, rfl⟩ := upsertSignature_eq_ok.1 wrote
      exact agree
  | unverified => exact agree

/-! ## Authority -/

section Decisions

open Program

variable {m actor target : MemberId} {c : CircleId} {required level : TrustLevel} {own g : Grant}
  {clock : Nat → Timestamp}

lemma access_of_grant? (held : s.grant? m c = some g) : s.access m c = some g.level := by
  rw [Store.access, held]
  rfl

lemma fallsShort_of_absent (absent : s.grant? m c = none) : s.access.FallsShort m c required := by
  left
  rw [Store.access, absent]
  rfl

lemma fallsShort_iff (held : s.grant? m c = some g) :
    s.access.FallsShort m c required ↔ g.level < required := by
  simp [AccessMatrix.FallsShort, access_of_grant? held]

/-- Writing is refused for want of authority exactly where the actor's entry falls short. -/
lemma encrypt_unauthorized_iff (passphrase : String) (plaintext : Bytes) (drawn : Block 16) :
    (sv.encrypt actor passphrase c plaintext drawn).Meets clock s fun r _ =>
      Outcome.of r = .authorizationWarning ↔ s.access.FallsShort actor c .write := by
  refine .authorize (fun own held enough => ?_)
    (fun absent => iff_of_true rfl (fallsShort_of_absent absent))
    (fun own held low => iff_of_true rfl ((fallsShort_iff held).2 low))
  have authorized := (fallsShort_iff held).not.2 enough.not_gt
  refine .secretOf (fun _ secret _ _ => .result ?_) (fun _ => ?_) (fun _ e _ shut => ?_)
  · exact iff_of_false nofun authorized
  · exact iff_of_false (by decide) authorized
  · exact iff_of_false (Grant.isOpening_of_unlock shut).outcome authorized

/-- Reading is refused for want of authority exactly where the actor's entry falls short. -/
lemma decrypt_unauthorized_iff (passphrase : String) (data : Ciphertext) :
    (sv.decrypt actor passphrase c data).Meets clock s fun r _ =>
      Outcome.of r = .authorizationWarning ↔ s.access.FallsShort actor c .read := by
  refine .authorize (fun own held enough => ?_)
    (fun absent => iff_of_true rfl (fallsShort_of_absent absent))
    (fun own held low => iff_of_true rfl ((fallsShort_iff held).2 low))
  have authorized := (fallsShort_iff held).not.2 enough.not_gt
  refine .secretOf (fun _ secret _ _ => .done ?_) (fun _ => ?_) (fun _ e _ shut => ?_)
  · refine iff_of_false ?_ authorized
    cases opened : (data.reread sv.settings.saltCharset).decrypt sv.suite secret with
    | ok plaintext => exact nofun
    | error e =>
        obtain rfl := Ciphertext.decrypt_eq_error opened
        decide
  · exact iff_of_false (by decide) authorized
  · exact iff_of_false (Grant.isOpening_of_unlock shut).outcome authorized

/-- Granting is refused for want of authority exactly where the actor's entry falls short of
`admin` or of the level to be granted. -/
lemma addGrant_unauthorized_iff (passphrase : String) (drawn : Grant.Draw) :
    (sv.addGrant actor passphrase c target level drawn).Meets clock s fun r _ =>
      Outcome.of r = .authorizationWarning ↔
        s.access.FallsShort actor c .admin ∨ s.access.FallsShort actor c level := by
  refine .authorize (fun own held admin => ?_)
    (fun absent => iff_of_true rfl (.inl (fallsShort_of_absent absent)))
    (fun own held low => iff_of_true rfl (.inl ((fallsShort_iff held).2 low)))
  refine .require (fun within => ?_) (fun above => ?_)
  · have authorized :
        ¬(s.access.FallsShort actor c .admin ∨ s.access.FallsShort actor c level) := by
      rw [fallsShort_iff held, fallsShort_iff held, not_or]
      exact ⟨admin.not_gt, (TrustLevel.allows_iff.1 within).not_gt⟩
    refine .member (fun recipient _ => ?_) (fun _ => iff_of_false (by decide) authorized)
    refine .keyOf (fun key _ active => ?_) (fun _ => iff_of_false (by decide) authorized)
      (fun _ _ _ => iff_of_false (by decide) authorized)
    refine .call (.secretOf (fun _ secret _ _ => ?_) (fun _ => ?_) (fun _ e _ shut => ?_))
    · refine .of (fun made _ => ?_) (fun e refused => ?_)
      · exact .call (.wrote insertGrant_spares (fun _ _ _ => iff_of_false nofun authorized)
          (fun cause _ => iff_of_false (Failure.outcome_store cause) authorized))
      · obtain rfl | rfl := Grant.make_eq_error active refused <;>
          exact iff_of_false (by decide) authorized
    · exact iff_of_false (by decide) authorized
    · exact iff_of_false (Grant.isOpening_of_unlock shut).outcome authorized
  · exact iff_of_true rfl (.inr ((fallsShort_iff held).2 (TrustLevel.allows_eq_false.1 above)))

/-- An actor whose level is neither below `admin` nor below the target's may act on the target. -/
lemma authorized_of_grants (held : s.grant? actor c = some own) (admin : .admin ≤ own.level)
    (there : s.grant? target c = some g) (within : g.level ≤ own.level) :
    ¬(s.access.FallsShort actor c .admin ∨ s.access.Exceeds target actor c) := by
  rintro (low | ⟨level, entry, short⟩)
  · exact absurd ((fallsShort_iff held).1 low) admin.not_gt
  · rw [access_of_grant? there] at entry
    cases entry
    exact absurd ((fallsShort_iff held).1 short) within.not_gt

/-- Without a target's grant a circle lacks a sysop exactly if the target is the only one. -/
lemma hasSysop_rest_iff (h : s.WellFormed) {rest : List Grant}
    (taken : Grant.remove (s.grantsIn c) target = .ok (g, rest)) :
    hasSysop rest = false ↔ s.access.SoleSysop target c := by
  obtain ⟨here, others⟩ := h.remove_grantsIn taken
  obtain ⟨mem, member, circle⟩ := mem_grants_of_grant? here
  rw [← Bool.not_eq_true, WellFormed.hasSysop_iff]
  constructor
  · intro alone
    -- The circle has some sysop; whoever it is, the rest does not list it.
    have outside : ∀ o ∈ s.grants.values, o.circle = c → o.level = .sysop → o.member = target := by
      intro o ho home sysop
      by_contra ne
      exact alone ⟨o, (others o).2 ⟨ho, home, ne⟩, sysop⟩
    refine ⟨?_, fun o ne entry => ?_⟩
    · obtain ⟨_, o, found, home, sysop⟩ := h.circle_sysop c (circle ▸ h.grant_circle _ _
        (h.get?_of_mem mem))
      have ho := Table.mem_values_of_get? found
      rw [access_of_grant? (h.grant?_eq_some.2 ⟨ho, outside o ho home sysop, home⟩), sysop]
    · obtain ⟨g', there, level⟩ := Option.map_eq_some_iff.1 entry
      obtain ⟨mem', member', circle'⟩ := mem_grants_of_grant? there
      exact ne (member'.symm.trans (outside g' mem' circle' level))
  · rintro ⟨-, alone⟩ ⟨o, ho, sysop⟩
    obtain ⟨mem', home, ne⟩ := (others o).1 ho
    refine alone o.member ne ?_
    rw [access_of_grant? (h.grant?_eq_some.2 ⟨mem', rfl, home⟩), sysop]

/-- The rule for taking a target's grant out of a circle's listing. -/
lemma meets_taken {β : Type} {f : Grant × List Grant → Program β}
    {Q : Except Failure β → Store → Prop} (h : s.Integrity)
    (goes : ∀ g rest, Grant.remove (s.grantsIn c) target = .ok (g, rest) →
      (f (g, rest)).Meets (later clock) s Q)
    (fails : s.access target c = none → Q (.error .noSuchGrant) s) :
    (call (.grantsIn c) >>= fun present => of (Grant.remove present target) >>= f).Meets clock s
      Q := by
  refine .call (.of (fun taken htaken => goes taken.1 taken.2 htaken) (fun e untaken => ?_))
  obtain ⟨rfl, absent⟩ := Grant.remove_eq_error untaken
  have unlisted : s.grant? target c = none := (h.find?_grantsIn target c).symm.trans absent
  exact fails (Option.map_eq_none_iff.2 unlisted)

lemma authorized_of_absent (held : s.grant? actor c = some own) (admin : .admin ≤ own.level)
    (absent : s.access target c = none) :
    ¬(s.access.FallsShort actor c .admin ∨ s.access.Exceeds target actor c) := by
  rintro (low | ⟨level, found, -⟩)
  · exact absurd ((fallsShort_iff held).1 low) admin.not_gt
  · rw [absent] at found
    cases found

/-- The matrix decides what comes of revoking a grant. -/
lemma removeGrant_outcome (h : s.WellFormed) :
    (removeGrant actor c target).Meets clock s fun r _ =>
      Outcome.of r = s.access.revoking actor c target := by
  refine .authorize (fun own held admin => ?_)
    (fun absent => (if_pos (.inl (fallsShort_of_absent absent))).symm)
    (fun own held low => (if_pos (.inl ((fallsShort_iff held).2 low))).symm)
  refine meets_taken h.toIntegrity (fun g rest taken => ?_) (fun absent => ?_)
  · obtain ⟨here, -⟩ := h.remove_grantsIn taken
    obtain ⟨mem, -, -⟩ := mem_grants_of_grant? here
    have entry : s.access target c ≠ none := by simp [access_of_grant? here]
    refine .require (fun within => ?_) (fun above => ?_)
    · have authorized := authorized_of_grants held admin here (TrustLevel.allows_iff.1 within)
      refine .require (fun kept => ?_) (fun lost => ?_)
      · have shared : ¬s.access.SoleSysop target c := by
          simp [← hasSysop_rest_iff h taken, kept]
        rw [AccessMatrix.revoking, if_neg authorized, if_neg entry, if_neg shared]
        exact .call (.wrote deleteGrant_spares (fun _ _ _ => rfl)
          (fun cause refused => absurd refused (deleteGrant_ne_error (h.get?_of_mem mem) cause)))
      · rw [AccessMatrix.revoking, if_neg authorized, if_neg entry,
          if_pos ((hasSysop_rest_iff h taken).1 lost)]
        rfl
    · rw [AccessMatrix.revoking, if_pos]
      · rfl
      · exact .inr ⟨g.level, access_of_grant? here,
          (fallsShort_iff held).2 (TrustLevel.allows_eq_false.1 above)⟩
  · rw [AccessMatrix.revoking, if_neg (authorized_of_absent held admin absent), if_pos absent]
    rfl

/-- The matrix decides what comes of changing a level. -/
lemma changeLevel_outcome (h : s.WellFormed) :
    (changeLevel actor c target level).Meets clock s fun r _ =>
      Outcome.of r = s.access.relevelling actor c target level := by
  refine .authorize (fun own held admin => ?_)
    (fun absent => (if_pos (.inl (fallsShort_of_absent absent))).symm)
    (fun own held low => (if_pos (.inl ((fallsShort_iff held).2 low))).symm)
  refine meets_taken h.toIntegrity (fun g rest taken => ?_) (fun absent => ?_)
  · obtain ⟨here, -⟩ := h.remove_grantsIn taken
    obtain ⟨mem, -, -⟩ := mem_grants_of_grant? here
    have entry : s.access target c ≠ none := by simp [access_of_grant? here]
    refine .require (fun within => ?_) (fun above => ?_)
    · rw [Bool.and_eq_true, TrustLevel.allows_iff, TrustLevel.allows_iff] at within
      have authorized := authorized_of_grants held admin here within.1
      have grantable : ¬s.access.FallsShort actor c level :=
        (fallsShort_iff held).not.2 within.2.not_gt
      rw [AccessMatrix.relevelling, if_neg authorized, if_neg entry, if_neg grantable]
      have stays : hasSysop (g.withLevel level :: rest) = false ↔
          s.access.SoleSysop target c ∧ level ≠ .sysop := by
        rw [← hasSysop_rest_iff h taken, and_comm]
        simp [hasSysop, Grant.withLevel]
      refine .require (fun kept => ?_) (fun lost => ?_)
      · rw [if_neg (by simp [← stays, kept])]
        have stored : s.grants.get? (g.withLevel level).id = some g := h.get?_of_mem mem
        exact .call (.wrote updateGrant_spares (fun _ _ _ => rfl)
          (fun cause refused => absurd refused (updateGrant_ne_error stored ⟨rfl, rfl⟩ cause)))
      · rw [if_pos (stays.1 lost)]
        rfl
    · -- One check covers both bounds, but the matrix tells a target above the actor first.
      rw [Bool.and_eq_false_iff, TrustLevel.allows_eq_false, TrustLevel.allows_eq_false] at above
      by_cases within : g.level ≤ own.level
      · have short := (fallsShort_iff held).2 (above.resolve_left within.not_gt)
        rw [AccessMatrix.relevelling, if_neg (authorized_of_grants held admin here within),
          if_neg entry, if_pos short]
        rfl
      · rw [AccessMatrix.relevelling, if_pos]
        · rfl
        · exact .inr ⟨g.level, access_of_grant? here, (fallsShort_iff held).2 (not_le.1 within)⟩
  · rw [AccessMatrix.relevelling, if_neg (authorized_of_absent held admin absent), if_pos absent]
    rfl

end Decisions

/-! ## Entries that are new -/

/-- Nobody has an entry in a circle that is founded. -/
lemma Effect.createCircle_unentered (h : s.WellFormed) {founder : MemberId} {name : String}
    {founding : Founding.Draw} {granting : Grant.Draw} {made : Circle × Grant}
    (e : Effect sv s (.createCircle founder name founding granting) (.ok made) s')
    (m : MemberId) : s.access m made.1.id = none := by
  cases e with
  | answered query => cases query
  | founded present new granted wrote =>
      obtain ⟨fresh, -, -, -, -, -, rfl, -⟩ := createCircle_eq_ok.1 wrote
      refine Option.map_eq_none_iff.2 (grant?_eq_none.2 fun g mem _ here => ?_)
      have home := h.grant_circle g.id g (h.get?_of_mem mem)
      rw [here] at home
      exact home fresh

/-- A member who is granted access has no entry yet. -/
lemma Effect.addGrant_unentered (h : s.WellFormed) {actor target : MemberId} {passphrase : String}
    {c : CircleId} {level : TrustLevel} {drawn : Grant.Draw} {g : Grant}
    (e : Effect sv s (.addGrant actor passphrase c target level drawn) (.ok g) s') :
    s.access target c = none := by
  cases e with
  | answered query => cases query
  | granted held admin within present found opener opened made wrote =>
      obtain ⟨-, -, -, alone, -, -⟩ := insertGrant_eq_ok.1 wrote
      obtain ⟨-, -, _, -, rfl⟩ := Grant.make_eq_ok.1 made
      obtain rfl := h.key_of_grant? held found
      have own := h.member_id _ _ present
      exact Option.map_eq_none_iff.2
        (grant?_eq_none.2 fun o mem member => alone o mem (member.trans own.symm))

/-! ## Runs -/

/-- The stored grants are the entries of a matrix, and what the service decides at the store it
decides by the matrix. -/
structure Follows (sv : Service) (s : Store) (M : AccessMatrix) : Prop where
  /-- The levels of a member's grants in a circle are the entry, where there is one. -/
  stored : ∀ m c, (s.grants.values.filter fun g => g.member = m && g.circle = c).map Grant.level =
    (M m c).toList
  /-- A circle that is founded has no entry before. -/
  founded : ∀ founder name founding granting clock made,
    (sv.serve s ⟨.createCircle founder name founding granting, clock⟩).1 = .ok made →
      ∀ m, M m made.1.id = none
  /-- Access is granted only where there is no entry. -/
  granted : ∀ actor passphrase c target level drawn clock g,
    (sv.serve s ⟨.addGrant actor passphrase c target level drawn, clock⟩).1 = .ok g →
      M target c = none
  writing : ∀ actor passphrase c plaintext drawn clock,
    Outcome.of (sv.serve s ⟨.encrypt actor passphrase c plaintext drawn, clock⟩).1 =
      .authorizationWarning ↔ M.FallsShort actor c .write
  reading : ∀ actor passphrase c data clock,
    Outcome.of (sv.serve s ⟨.decrypt actor passphrase c data, clock⟩).1 =
      .authorizationWarning ↔ M.FallsShort actor c .read
  granting : ∀ actor passphrase c target level drawn clock,
    Outcome.of (sv.serve s ⟨.addGrant actor passphrase c target level drawn, clock⟩).1 =
      .authorizationWarning ↔ M.FallsShort actor c .admin ∨ M.FallsShort actor c level
  revoking : ∀ actor c target clock,
    Outcome.of (sv.serve s ⟨.removeGrant actor c target, clock⟩).1 = M.revoking actor c target
  relevelling : ∀ actor c target level clock,
    Outcome.of (sv.serve s ⟨.changeLevel actor c target level, clock⟩).1 =
      M.relevelling actor c target level

lemma follows_access (sv : Service) (h : s.WellFormed) : sv.Follows s s.access where
  stored := h.levels_eq_access
  founded founder name founding granting clock made ok := by
    have e := sv.serve_effect s ⟨.createCircle founder name founding granting, clock⟩
    rw [ok] at e
    exact e.createCircle_unentered h
  granted actor passphrase c target level drawn clock g ok := by
    have e := sv.serve_effect s ⟨.addGrant actor passphrase c target level drawn, clock⟩
    rw [ok] at e
    exact e.addGrant_unentered h
  writing _ passphrase _ plaintext drawn _ := encrypt_unauthorized_iff passphrase plaintext drawn
  reading _ passphrase _ data _ := decrypt_unauthorized_iff passphrase data
  granting _ passphrase _ _ _ drawn _ := addGrant_unauthorized_iff passphrase drawn
  revoking _ _ _ _ := removeGrant_outcome h
  relevelling _ _ _ _ _ := changeLevel_outcome h

lemma access_after (sv : Service) (run : List Turn) :
    (sv.after run).store.access = (sv.after run).ledger.access := by
  refine (after_invariant (P := fun p => p.store.WellFormed ∧ p.store.access = p.ledger.access)
    ⟨WellFormed.empty, rfl⟩ (fun p t h => ?_) run).2
  have e := sv.serve_effect p.store t
  exact ⟨h.1.effect e, e.access h.1 p.ledger h.2⟩

/-- **The service is an access matrix.**  After every run the stored grants are the matrix that the
successful operations of the run amount to, and the service decides by this matrix. -/
theorem follows_ledger (sv : Service) (run : List Turn) :
    sv.Follows (sv.after run).store (sv.after run).ledger.access :=
  access_after sv run ▸ follows_access sv (WellFormed.after sv run)

end Service

end CircleVault
