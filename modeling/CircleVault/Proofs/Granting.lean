import CircleVault.Proofs.Acceptance
import CircleVault.Proofs.Envelope
import CircleVault.Proofs.Listings

/-!
# Founding and granting go through

Elsewhere it is said what an operation that succeeds has done, and why one fails that does.  Here it
is said of founding a circle and of granting access that they succeed.  Founding takes a member, a
name that is neither blank nor taken, and new identifiers.  Granting takes an actor who may grant
the level and gives the own passphrase, and a member without a grant in the circle; with a grant,
the member is refused, and that alone is why.

The grant comes last in the circle's listing: `Store.InTurn` says that the listing goes by strictly
increasing times, none later than the store's clock, and a new grant gets a later one.
-/

namespace CircleVault

open Store

namespace Store

variable {s s' : Store} {c : CircleId} {g : Grant}

/-- A circle's grants are listed by strictly increasing times, none later than the clock. -/
structure InTurn (s : Store) (c : CircleId) : Prop where
  ordered : (s.grantsIn c).Pairwise fun a b => a.added < b.added
  bounded : ∀ a ∈ s.grantsIn c, a.added ≤ s.clock

lemma grantsIn_of_absent (h : s.Integrity) (absent : s.circles.get? c = none) :
    s.grantsIn c = [] := by
  refine List.eq_nil_iff_forall_not_mem.2 fun a listed => ?_
  obtain ⟨mem, circle⟩ := mem_grantsIn.1 listed
  exact h.grant_circle a.id a (h.get?_of_mem mem) (circle ▸ absent)

lemma inTurn_of_nil (empty : s.grantsIn c = []) : s.InTurn c where
  ordered := empty ▸ .nil
  bounded := empty ▸ List.forall_mem_nil _

/-- A new grant that is filed at the store's next moment comes last. -/
lemma InTurn.filed (h : s.InTurn c) (fresh : s.grants.get? g.id = none) (home : g.circle = c)
    (filed : s'.grants = s.grants.insert g.id g) (added : g.added = s'.clock)
    (on : s.clock < s'.clock) : s'.grantsIn c = s.grantsIn c ++ [g] ∧ s'.InTurn c := by
  have perm : (s'.grants.values.filter fun o => o.circle = c).Perm (s.grantsIn c ++ [g]) := by
    have here : [g].filter (fun o => o.circle = c) = [g] := by simp [home]
    rw [filed, Table.values_insert_of_fresh fresh, List.filter_append, here]
    exact (List.mergeSort_perm _ _).symm.append_right [g]
  have ordered : (s.grantsIn c ++ [g]).Pairwise fun a b => a.added < b.added := by
    refine List.pairwise_append.2 ⟨h.ordered, List.pairwise_singleton _ g, fun a ha b hb => ?_⟩
    rw [List.mem_singleton.1 hb, added]
    -- What is listed was filed at the clock's time at the latest, and it has gone on since.
    exact Int64.lt_of_le_of_lt (h.bounded a ha) on
  have listed : s'.grantsIn c = s.grantsIn c ++ [g] := oldestFirst_of_perm perm ordered
  refine ⟨listed, listed ▸ ordered, fun a ha => ?_⟩
  rw [listed] at ha
  obtain earlier | last := List.mem_append.1 ha
  · exact Int64.le_trans (h.bounded a earlier) (Int64.le_of_lt on)
  · rw [List.mem_singleton.1 last, added]
    exact Int64.le_refl _

variable {now : Timestamp}

lemma InTurn.insertGrant {stored : Grant} (h : s.InTurn g.circle) (below : s.clock < .greatest)
    (wrote : s.insertGrant now g = .ok stored s') :
    s'.grantsIn g.circle = s.grantsIn g.circle ++ [stored] ∧ s'.InTurn g.circle := by
  obtain ⟨-, -, fresh, -, rfl, rfl⟩ := insertGrant_eq_ok.1 wrote
  exact h.filed (g := { g with added := s.tick now, altered := s.tick now }) fresh rfl rfl rfl
    (lt_tick below now)

/-- The first grant of a circle is its owner's. -/
lemma grantsIn_createCircle {f stored : Founded} (h : s.Integrity) (below : s.clock < .greatest)
    (wrote : s.createCircle now f = .ok stored s') :
    s'.grantsIn f.circle.id = [stored.owner] ∧ s'.InTurn f.circle.id := by
  obtain ⟨absent, -, ⟨-, home, -⟩, -, -, fresh, rfl, filed⟩ := createCircle_eq_ok.1 wrote
  have unlisted := grantsIn_of_absent h absent
  have on : s.clock < s'.clock := by
    rw [filed]
    exact lt_tick below now
  have turn := (inTurn_of_nil unlisted).filed
    (g := { f.owner with added := s.tick now, altered := s.tick now }) fresh home
    (congrArg Store.grants filed) (congrArg Store.clock filed).symm on
  rwa [unlisted] at turn

end Store

/-- A member who holds a grant in the circle of an active key is given no second one. -/
lemma Grant.make_of_present {S : Suite} {secret : SecretKey} {k : CircleKey} {m : Member}
    {level : TrustLevel} {present : List Grant} {drawn : Draw} {o : Grant}
    (active : k.isActive = true) (mem : o ∈ present) (member : o.member = m.id)
    (circle : o.circle = k.circle) :
    make S secret k m level present drawn = .error .alreadyGranted := by
  have held : (present.any fun g => g.member = m.id && g.circle = k.circle) = true :=
    List.any_eq_true.2 ⟨o, mem, by simp [member, circle]⟩
  rw [make, CircleKey.ensureActive, if_pos active, held]
  rfl

namespace Service

open Program

variable {sv : Service} {s s' : Store} {c : CircleId} {name passphrase : String}

/-! ## What is done -/

/-- A founded circle is filed under its name, and its listing is the owner's grant. -/
lemma Effect.founds {founder : MemberId} {founding : Founding.Draw} {granting : Grant.Draw}
    {k : Circle} {g : Grant} (wf : s.WellFormed) (below : s.clock < .greatest)
    (e : Effect sv s (.createCircle founder name founding granting) (.ok (k, g)) s') :
    (k.id = .random founding.circle ∧ k.name = name ∧ s'.circle? k.id = some k) ∧
      (g.member = founder ∧ g.level = .sysop ∧ g.id = .random granting.id) ∧
      s'.grants = s.grants.insert g.id g ∧ s'.grantsIn k.id = [g] ∧ s'.InTurn k.id := by
  cases e with
  | answered query => cases query
  | founded present made granted wrote =>
      have listing := grantsIn_createCircle wf.toIntegrity below wrote
      have own := wf.member_id _ _ present
      obtain ⟨-, rfl⟩ := Founding.make_eq_ok.1 made
      obtain ⟨-, -, recipient, -, rfl⟩ := Grant.make_eq_ok.1 granted
      obtain ⟨-, -, -, -, -, -, rfl, rfl⟩ := createCircle_eq_ok.1 wrote
      exact ⟨⟨rfl, rfl, Table.get?_insert_self ..⟩, ⟨own, rfl, rfl⟩, rfl, listing⟩

/-- A grant is filed with what was asked for, and comes last in the circle's listing. -/
lemma Effect.grants {actor target : MemberId} {level : TrustLevel} {drawn : Grant.Draw} {g : Grant}
    (wf : s.WellFormed) (below : s.clock < .greatest) (turn : s.InTurn c)
    (e : Effect sv s (.addGrant actor passphrase c target level drawn) (.ok g) s') :
    (g.member = target ∧ g.level = level ∧ g.id = .random drawn.id) ∧
      s'.grants = s.grants.insert g.id g ∧ s'.grantsIn c = s.grantsIn c ++ [g] ∧ s'.InTurn c := by
  cases e with
  | answered query => cases query
  | granted held admin within present found opener opened made wrote =>
      obtain rfl := wf.key_of_grant? held found
      have own := wf.member_id _ _ present
      obtain ⟨-, -, recipient, -, rfl⟩ := Grant.make_eq_ok.1 made
      have listing := turn.insertGrant below wrote
      obtain ⟨-, -, -, -, rfl, rfl⟩ := insertGrant_eq_ok.1 wrote
      exact ⟨⟨own, rfl, rfl⟩, rfl, listing⟩

/-! ## Success -/

section Success

variable {p : Progress} {clock : Nat → Timestamp} {actor founder target : MemberId}
  {level : TrustLevel} {own : Grant} {owner recipient : Member}

/-- What fails at most because of the store, and not because of the store either, succeeds. -/
lemma succeeds_of_unrefused {α : Type} {r : Except Failure α}
    (only : (∃ a, r = .ok a) ∨ ∃ cause, r = .error (.store cause)) (unrefused : Unrefused r s) :
    ∃ a, r = .ok a := by
  obtain done | ⟨cause, failed⟩ := only
  · exact done
  · cases unrefused _ failed

/-- A member founds a circle under a name that is neither blank nor taken. -/
theorem createCircle_succeeds (h : p.Readable sv) (wf : p.store.WellFormed)
    (parses : sv.suite.ParsesKeys) {founding : Founding.Draw} {granting : Grant.Draw}
    (present : p.store.member? founder = some owner) (named : ¬Text.isBlank name = true)
    (free : p.store.circleNamed? name = none)
    (fresh : (Operation.createCircle founder name founding granting).DrawsFresh p.store) :
    (sv.createCircle founder name founding granting).Meets clock p.store fun r _ =>
      ∃ made, r = .ok made := by
  obtain ⟨new, made⟩ : ∃ new, Founding.make name founding = .ok new :=
    ⟨_, Founding.make_eq_ok.2 ⟨named, rfl⟩⟩
  have active : new.key.isActive = true := by
    obtain ⟨-, rfl⟩ := Founding.make_eq_ok.1 made
    rfl
  have readable := h.readPublicKey parses present
  obtain ⟨g, granted⟩ : ∃ g, Grant.make sv.suite new.secret new.key
      (owner.reread sv.settings.saltCharset) .sysop [] granting = .ok g :=
    Grant.exists_make_iff.2 ⟨active, List.forall_mem_nil _, readable⟩
  have walk : (sv.createCircle founder name founding granting).Meets clock p.store fun r _ =>
      (∃ made, r = .ok made) ∨ ∃ cause, r = .error (.store cause) := by
    refine .member_found present (.call (.require (fun _ => ?_) (fun taken => ?_)))
    · refine .of_ok made (.of_ok granted (.call ?_))
      exact .accepted Store.createCircle_spares (fun _ _ _ => .result (.inl ⟨_, rfl⟩))
        (fun cause _ => .inr ⟨cause, rfl⟩)
    · cases (Option.isNone_iff_eq_none.2 free).symm.trans taken
  exact succeeds_of_unrefused walk (createCircle_unrefused wf founder name founding granting fresh)

variable {drawn : Grant.Draw}

/-- An actor who may grant the level and gives the own passphrase gets as far as making the
grant. -/
lemma addGrant_makes (h : p.Readable sv) (wf : p.store.WellFormed) (trusted : sv.suite.RoundTrips)
    (held : p.store.grant? actor c = some own) (admin : .admin ≤ own.level)
    (within : level ≤ own.level) (current : p.ledger.passphrase actor = some passphrase)
    (present : p.store.member? target = some recipient)
    {Q : Except Failure Grant → Store → Prop}
    (makes : ∀ k secret clock', k.isActive = true → k.circle = c →
      (of (Grant.make sv.suite secret k (recipient.reread sv.settings.saltCharset) level
        (p.store.grantsIn c) drawn) >>= fun g => call (.insertGrant g) >>= accepted).Meets clock'
          p.store Q) :
    (sv.addGrant actor passphrase c target level drawn).Meets clock p.store Q := by
  obtain ⟨mem, -, circle⟩ := mem_grants_of_grant? held
  obtain ⟨k, found, home⟩ := wf.grant_key own.id own (wf.get?_of_mem mem)
  obtain ⟨holder, secret, opener, -, opened⟩ := h.unlock_held wf trusted held current
  have active := wf.key_active _ k found
  refine .authorize_held held admin (.require (fun _ => ?_) (fun above => ?_))
  · refine .member_found present (.keyOf_active found active (.call ?_))
    exact .secretOf_opened opener opened (makes k ⟨secret, none⟩ _ active (home.trans circle))
  · exact absurd within (TrustLevel.allows_eq_false.1 above).not_ge

/-- A member without a grant in the circle is granted access. -/
theorem addGrant_succeeds (h : p.Readable sv) (wf : p.store.WellFormed)
    (trusted : sv.suite.RoundTrips) (parses : sv.suite.ParsesKeys)
    (held : p.store.grant? actor c = some own) (admin : .admin ≤ own.level)
    (within : level ≤ own.level) (current : p.ledger.passphrase actor = some passphrase)
    (present : p.store.member? target = some recipient) (unheld : p.store.grant? target c = none)
    (fresh : p.store.grants.get? (.random drawn.id) = none) :
    (sv.addGrant actor passphrase c target level drawn).Meets clock p.store fun r _ =>
      ∃ g, r = .ok g := by
  have filed := wf.member_id target recipient present
  have readable := h.readPublicKey parses present
  have walk : (sv.addGrant actor passphrase c target level drawn).Meets clock p.store fun r _ =>
      (∃ g, r = .ok g) ∨ ∃ cause, r = .error (.store cause) := by
    refine addGrant_makes h wf trusted held admin within current present
      fun k secret clock' active home => ?_
    obtain ⟨g, made⟩ : ∃ g, Grant.make sv.suite secret k
        (recipient.reread sv.settings.saltCharset) level (p.store.grantsIn c) drawn = .ok g := by
      refine Grant.exists_make_iff.2 ⟨active, fun o listed => ?_, readable⟩
      rintro ⟨member, -⟩
      obtain ⟨mem, circle⟩ := mem_grantsIn.1 listed
      exact grant?_eq_none.1 unheld o mem (member.trans filed) circle
    exact .of_ok made (.call (.wrote Store.insertGrant_spares (fun _ _ _ => .inl ⟨_, rfl⟩)
      (fun cause _ => .inr ⟨cause, rfl⟩)))
  exact succeeds_of_unrefused walk
    (addGrant_unrefused wf actor passphrase c target level drawn fresh)

/-- A member with a grant in the circle is refused. -/
theorem addGrant_refused (h : p.Readable sv) (wf : p.store.WellFormed)
    (trusted : sv.suite.RoundTrips) (held : p.store.grant? actor c = some own)
    (admin : .admin ≤ own.level) (within : level ≤ own.level)
    (current : p.ledger.passphrase actor = some passphrase)
    (present : p.store.member? target = some recipient) {g : Grant}
    (theirs : p.store.grant? target c = some g) :
    (sv.addGrant actor passphrase c target level drawn).Meets clock p.store fun r s' =>
      r = .error .alreadyGranted ∧ s' = p.store := by
  refine addGrant_makes h wf trusted held admin within current present
    fun k secret clock' active home => ?_
  obtain ⟨mem, member, circle⟩ := mem_grants_of_grant? theirs
  have filed := wf.member_id target recipient present
  have refused : Grant.make sv.suite secret k (recipient.reread sv.settings.saltCharset) level
      (p.store.grantsIn c) drawn = .error .alreadyGranted :=
    Grant.make_of_present active (mem_grantsIn.2 ⟨mem, circle⟩) (member.trans filed.symm)
      (circle.trans home.symm)
  rw [refused]
  exact .done ⟨rfl, rfl⟩

end Success

end Service

end CircleVault
