import CircleVault.Proofs.AccessMatrix
import CircleVault.Proofs.Footprint
import CircleVault.Proofs.Granting
import CircleVault.Rehearsal

/-!
# Circles of a rehearsal

A rehearsal begins with the empty store, and nothing happens in it but that somebody is enrolled or
a circle is set up, in any order and whether it succeeds or not.  Those who were enrolled are the
cast, and `Staged` is what every act keeps: each of the cast is registered under the own passphrase.

When a circle of the cast is set up, its owner admits the others in turn.  `Seated` is what each
admission keeps: the listing is the owner and those who were admitted, in this order.  So an entry
fails exactly if it names somebody who is in the circle already, and the circle is left with the
entries before it (`circle_admits_in_turn`).  Either way everybody in the circle who may read
shares what the owner writes (`Convened`).

Of the suite it is assumed that opening undoes sealing and that drawn public keys can be read, of
what is drawn that it is new, and of the clock that it does not run out while the circle is set up.
-/

namespace CircleVault

open Store Program Service

namespace Rehearsal

/-! ## Acts -/

/-- What can be done in a rehearsal: enrol somebody, or set up a circle. -/
inductive Act where
  | enrol (name : String) (drawn : Member.Draw)
  | circle (name : String) (owner : Participant) (founding : Founding.Draw)
      (granting : Grant.Draw) (others : List Admission)

/-- How far a rehearsal has come: the store, and those who were enrolled in it. -/
structure State where
  store : Store
  cast : List Participant

/-- Nobody is enrolled yet. -/
def State.start : State := ⟨.empty, []⟩

/-- Do something, with its calls at the moments of a clock, whether it succeeds or not. -/
def perform (sv : Service) (R : State) : Act × (Nat → Timestamp) → State
  | (.enrol name drawn, clock) =>
      let enrolled := (enrol sv name drawn).run clock R.store
      ⟨enrolled.2, enrolled.1.toOption.toList ++ R.cast⟩
  | (.circle name owner founding granting others, clock) =>
      ⟨((circle sv name owner founding granting others).run clock R.store).2, R.cast⟩

/-- What a rehearsal comes to that begins with the empty store. -/
def after (sv : Service) (acts : List (Act × (Nat → Timestamp))) : State :=
  acts.foldl (perform sv) .start

variable {sv : Service} {cast : List Participant} {p : Progress} {s s' : Store}
  {clock : Nat → Timestamp}

/-- The store is in order, it opens as the ledger says, and each of the cast is registered, under
the passphrase that the ledger has. -/
structure Staged (sv : Service) (cast : List Participant) (p : Progress) : Prop where
  wellFormed : p.store.WellFormed
  readable : p.Readable sv
  registered : ∀ q ∈ cast, p.store.member? q.member.id = some q.member ∧
    p.ledger.passphrase q.member.id = some q.passphrase

namespace Staged

lemma start : Staged sv [] .start := ⟨.empty, .start, List.forall_mem_nil _⟩

/-- An operation that writes no member's record keeps the cast. -/
lemma effect (h : Staged sv cast p) (trusted : sv.suite.RoundTrips) {o : Operation}
    {r : Except Failure o.Result} (others : o.writesMember = false)
    (e : Effect sv p.store o r s') : Staged sv cast ⟨s', p.ledger.note o r⟩ where
  wellFormed := h.wellFormed.effect e
  readable := e.readable h.readable h.wellFormed trusted
  registered q mem := by
    simp only [p.ledger.passphrase_note others r, member?, e.frame.1 others]
    exact h.registered q mem

/-- Whoever is registered joins the cast. -/
lemma registers (h : Staged sv cast p) (trusted : sv.suite.RoundTrips) {name passphrase : String}
    {drawn : Member.Draw} {m : Member}
    (e : Effect sv p.store (.registerMember name passphrase drawn) (.ok m) s') :
    ∃ L, Staged sv (⟨m, passphrase⟩ :: cast) ⟨s', L⟩ := by
  have wellFormed := h.wellFormed.effect e
  have readable := e.readable h.readable h.wellFormed trusted
  obtain ⟨fresh, -, filed⟩ := e.touches h.wellFormed
  have members : s'.members = p.store.members.insert m.id m := congrArg Store.members filed
  refine ⟨_, wellFormed, readable, List.forall_mem_cons.2 ⟨⟨?_, ?_⟩, fun q mem => ⟨?_, ?_⟩⟩⟩
  · rw [member?, members, Table.get?_insert_self]
  · exact Function.update_self ..
  · rw [member?, members]
    exact Table.get?_insert_of_fresh fresh (h.registered q mem).1
  · have other : q.member.id ≠ m.id := by
      intro same
      have found := (h.registered q mem).1
      rw [same, member?, fresh] at found
      cases found
    exact (Function.update_of_ne other _ _).trans (h.registered q mem).2

lemma enrols (h : Staged sv cast p) (trusted : sv.suite.RoundTrips) (name : String)
    (drawn : Member.Draw) :
    (enrol sv name drawn).Meets clock p.store fun r s' =>
      ∃ L, Staged sv (r.toOption.toList ++ cast) ⟨s', L⟩ := by
  refine .bind (registerMember_effect name (passphraseOf name) drawn) ?_ ?_
  · intro m s' clock' e
    exact .result (h.registers trusted e)
  · intro e s' failed
    cases failed
    exact ⟨p.ledger, h⟩

lemma admitsAny (h : Staged sv cast p) (trusted : sv.suite.RoundTrips) (owner : Participant)
    (c : CircleId) (others : List Admission) :
    (admitAll sv owner c others).Meets clock p.store fun _ s' => ∃ L, Staged sv cast ⟨s', L⟩ := by
  induction others generalizing p clock with
  | nil => exact .result ⟨p.ledger, h⟩
  | cons a rest ih =>
      refine .bind (addGrant_effect _ _ c _ a.level a.drawn) ?_ ?_
      · intro g s' clock' e
        exact ih (h.effect trusted rfl e)
      · intro e s' failed
        exact ⟨_, h.effect trusted rfl failed⟩

lemma setsUp (h : Staged sv cast p) (trusted : sv.suite.RoundTrips) (name : String)
    (owner : Participant) (founding : Founding.Draw) (granting : Grant.Draw)
    (others : List Admission) :
    (circle sv name owner founding granting others).Meets clock p.store fun _ s' =>
      ∃ L, Staged sv cast ⟨s', L⟩ := by
  refine .bind (createCircle_effect owner.member.id name founding granting) ?_ ?_
  · rintro ⟨k, g⟩ s' clock' e
    have founded := h.effect trusted rfl e
    refine .bind (founded.admitsAny trusted owner k.id others) ?_ ?_
    · intro _ s'' clock'' kept
      exact .result kept
    · intro _ s'' kept
      exact kept
  · intro e s' failed
    exact ⟨_, h.effect trusted rfl failed⟩

/-- Every act keeps the cast ready. -/
lemma perform (trusted : sv.suite.RoundTrips) {R : State} (h : ∃ L, Staged sv R.cast ⟨R.store, L⟩)
    (act : Act × (Nat → Timestamp)) :
    ∃ L, Staged sv (perform sv R act).cast ⟨(perform sv R act).store, L⟩ := by
  obtain ⟨L, h⟩ := h
  obtain ⟨enrol | circle, clock⟩ := act
  · exact h.enrols trusted _ _
  · exact h.setsUp trusted _ _ _ _ _

theorem after (trusted : sv.suite.RoundTrips) (acts : List (Act × (Nat → Timestamp))) :
    ∃ L, Staged sv (after sv acts).cast ⟨(after sv acts).store, L⟩ := by
  induction acts using List.reverseRecOn with
  | nil => exact ⟨_, start⟩
  | append_singleton early act ih =>
      rw [Rehearsal.after, List.foldl_append]
      exact perform trusted ih act

end Staged

/-! ## Who is in a circle -/

/-- Who is in a circle: its owner, and those who were admitted, in this order. -/
def company (owner : Participant) (admitted : List Admission) : List (Participant × TrustLevel) :=
  (owner, .sysop) :: admitted.map fun a => (a.participant, a.level)

/-- The members in a circle, in this order. -/
def names (owner : Participant) (admitted : List Admission) : List MemberId :=
  (company owner admitted).map fun q => q.1.member.id

lemma company_append (owner : Participant) (admitted more : List Admission) :
    company owner (admitted ++ more) =
      company owner admitted ++ more.map fun a => (a.participant, a.level) := by
  rw [company, company, List.map_append, List.cons_append]

lemma names_append (owner : Participant) (admitted more : List Admission) :
    names owner (admitted ++ more) =
      names owner admitted ++ more.map fun a => a.participant.member.id := by
  rw [names, company_append, List.map_append, List.map_map]
  rfl

/-- What a circle comes to: its listing is its owner and those who were admitted, in this order and
at their levels; and what the owner encrypts is decrypted by each of them whose level allows
reading, while those at the lowest level are told that they are not authorized. -/
structure Convened (sv : Service) (s : Store) (c : CircleId) (owner : Participant)
    (admitted : List Admission) : Prop where
  listed : ∀ clock, ∃ grants, (listGrants c).run clock s = (.ok grants, s) ∧
    grants.map (fun g => (g.member, g.level)) =
      (company owner admitted).map fun q => (q.1.member.id, q.2)
  shared : ∀ plaintext drawn clock, ∃ d,
    (sv.encrypt owner.member.id owner.passphrase c plaintext drawn).run clock s = (.ok d, s) ∧
      ∀ q level, (q, level) ∈ company owner admitted → ∀ clock', ∃ r,
        (sv.decrypt q.member.id q.passphrase c d).run clock' s = (r, s) ∧
          (.read ≤ level → r = .ok plaintext) ∧
          (level = .all → Outcome.of r = .authorizationWarning)

/-- A circle of some of the cast, whose grants are listed in the order in which they were
granted. -/
structure Seated (sv : Service) (cast : List Participant) (k : Circle) (owner : Participant)
    (admitted : List Admission) (p : Progress) : Prop extends Staged sv cast p where
  ofCast : ∀ q ∈ company owner admitted, q.1 ∈ cast
  filed : p.store.circle? k.id = some k
  listed : (p.store.grantsIn k.id).map (fun g => (g.member, g.level)) =
    (company owner admitted).map fun q => (q.1.member.id, q.2)
  inTurn : p.store.InTurn k.id

/-- How admitting others ends, by who is left over: with a result and nobody left, or with the
first of the rest, who is refused. -/
inductive Ends {α : Type} (result : α) (owner : Participant) (admitted : List Admission) :
    List Admission → Except Failure α → Prop
  | all : Ends result owner admitted [] (.ok result)
  | refused {a : Admission} {rest : List Admission}
      (old : a.participant.member.id ∈ names owner admitted) :
      Ends result owner admitted (a :: rest) (.error .alreadyGranted)

/-- Identifiers of grants that are still to come: none is taken, and all are different. -/
structure Unused (s : Store) (ids : List GrantId) : Prop where
  free : ∀ id ∈ ids, s.grants.get? id = none
  apart : ids.Nodup

lemma Unused.filed {g : Grant} {ids : List GrantId} (h : Unused s (g.id :: ids))
    (filed : s'.grants = s.grants.insert g.id g) : Unused s' ids where
  free id mem := by
    have other : id ≠ g.id := fun same => (List.nodup_cons.1 h.apart).1 (same ▸ mem)
    rw [filed, Table.get?_insert, if_neg other]
    exact h.free id (List.mem_cons_of_mem _ mem)
  apart := (List.nodup_cons.1 h.apart).2

namespace Seated

variable {k : Circle} {owner q : Participant} {admitted others : List Admission} {a : Admission}
  {level : TrustLevel} {secret : Block 32}

/-- Everybody in the circle holds a grant at the own level. -/
lemma held (h : Seated sv cast k owner admitted p) (mem : (q, level) ∈ company owner admitted) :
    ∃ g, p.store.grant? q.member.id k.id = some g ∧ g.level = level ∧
      p.ledger.passphrase q.member.id = some q.passphrase := by
  have entry : (q.member.id, level) ∈
      (p.store.grantsIn k.id).map fun g => (g.member, g.level) := by
    rw [h.listed]
    exact List.mem_map.2 ⟨_, mem, rfl⟩
  obtain ⟨g, listed, same⟩ := List.mem_map.1 entry
  obtain ⟨member, rfl⟩ := Prod.mk.inj same
  obtain ⟨stored, circle⟩ := mem_grantsIn.1 listed
  exact ⟨g, h.wellFormed.grant?_eq_some.2 ⟨stored, member, circle⟩, rfl,
    (h.registered q (h.ofCast _ mem)).2⟩

/-- The owner's grant allows everything. -/
lemma chair (h : Seated sv cast k owner admitted p) :
    ∃ own, p.store.grant? owner.member.id k.id = some own ∧
      (∀ level : TrustLevel, level ≤ own.level) ∧
      p.ledger.passphrase owner.member.id = some owner.passphrase := by
  obtain ⟨own, held, sysop, current⟩ := h.held List.mem_cons_self
  exact ⟨own, held, fun level => sysop ▸ level.le_sysop, current⟩

lemma names_eq (h : Seated sv cast k owner admitted p) :
    names owner admitted = (p.store.grantsIn k.id).map Grant.member := by
  have same := congrArg (List.map Prod.fst) h.listed
  simp only [List.map_map] at same
  exact same.symm

/-- Nobody else holds one. -/
lemma grant?_eq_none_iff (h : Seated sv cast k owner admitted p) {m : MemberId} :
    p.store.grant? m k.id = none ↔ m ∉ names owner admitted := by
  rw [h.names_eq, List.mem_map, grant?_eq_none]
  constructor
  · rintro unheld ⟨g, listed, member⟩
    obtain ⟨mem, circle⟩ := mem_grantsIn.1 listed
    exact unheld g mem member circle
  · intro absent g mem member circle
    exact absent ⟨g, mem_grantsIn.2 ⟨mem, circle⟩, member⟩

lemma nodup (h : Seated sv cast k owner admitted p) : (names owner admitted).Nodup := by
  rw [h.names_eq]
  exact h.wellFormed.nodup_grantsIn k.id

/-! ## Admitting others -/

/-- Who is not in the circle yet is admitted by its owner, and comes last. -/
lemma admits (h : Seated sv cast k owner admitted p) (trusted : sv.suite.RoundTrips)
    (parses : sv.suite.ParsesKeys) (below : p.store.clock < .greatest)
    (there : a.participant ∈ cast) (new : a.participant.member.id ∉ names owner admitted)
    (fresh : p.store.grants.get? (.random a.drawn.id) = none) :
    (sv.addGrant owner.member.id owner.passphrase k.id a.participant.member.id a.level
      a.drawn).Meets clock p.store fun r s' =>
      ∃ g L, r = .ok g ∧ g.id = .random a.drawn.id ∧ s'.grants = p.store.grants.insert g.id g ∧
        Seated sv cast k owner (admitted ++ [a]) ⟨s', L⟩ := by
  obtain ⟨own, held, any, current⟩ := h.chair
  obtain ⟨found, -⟩ := h.registered a.participant there
  refine ((addGrant_succeeds h.readable h.wellFormed trusted parses held (any _) (any _) current
    found (h.grant?_eq_none_iff.2 new) fresh).and (addGrant_effect _ _ _ _ _ _)).imp ?_
  rintro r s' ⟨⟨g, rfl⟩, e⟩
  obtain ⟨⟨member, level, id⟩, filed, listed, turn⟩ := e.grants h.wellFormed below h.inTurn
  refine ⟨g, _, rfl, id, filed, h.effect trusted rfl e, ?_, e.circle_stays h.filed, ?_, turn⟩
  · rw [company_append]
    exact List.forall_mem_append.2 ⟨h.ofCast, List.forall_mem_singleton.2 there⟩
  · rw [listed, List.map_append, h.listed, company_append, List.map_append, List.map_singleton,
      member, level]
    rfl

/-- Who is in the circle already is refused. -/
lemma refuses (h : Seated sv cast k owner admitted p) (trusted : sv.suite.RoundTrips)
    (there : a.participant ∈ cast) (old : a.participant.member.id ∈ names owner admitted) :
    (sv.addGrant owner.member.id owner.passphrase k.id a.participant.member.id a.level
      a.drawn).Meets clock p.store fun r s' => r = .error .alreadyGranted ∧ s' = p.store := by
  obtain ⟨own, held, any, current⟩ := h.chair
  obtain ⟨found, -⟩ := h.registered a.participant there
  obtain ⟨g, theirs⟩ := Option.ne_none_iff_exists'.1 (h.grant?_eq_none_iff.not_left.2 old)
  exact addGrant_refused h.readable h.wellFormed trusted held (any _) (any _) current found theirs

/-- The owner admits others in turn, to the last or up to the first who is there already. -/
lemma admitsAll (h : Seated sv cast k owner admitted p) (trusted : sv.suite.RoundTrips)
    (parses : sv.suite.ParsesKeys) (there : ∀ a ∈ others, a.participant ∈ cast)
    (unused : Unused p.store (others.map fun a => .random a.drawn.id))
    (below : (admitAll sv owner k.id others).Throughout (fun s => s.clock < .greatest) clock
      p.store) :
    (admitAll sv owner k.id others).Meets clock p.store fun r s' =>
      ∃ L joined rest, others = joined ++ rest ∧
        Seated sv cast k owner (admitted ++ joined) ⟨s', L⟩ ∧
        Ends () owner (admitted ++ joined) rest r := by
  -- An admission leaves a circle in which the rest can be admitted, with one more who is in it.
  induction others generalizing admitted p clock with
  | nil =>
      refine .result ⟨p.ledger, [], [], rfl, ?_, .all⟩
      rwa [List.append_nil]
  | cons a rest ih =>
      obtain ⟨first, there⟩ := List.forall_mem_cons.1 there
      by_cases old : a.participant.member.id ∈ names owner admitted
      · refine .bind (h.refuses trusted first old) ?_ ?_
        · rintro g s' clock' ⟨⟨⟩, -⟩
        · rintro e s' ⟨refused, rfl⟩
          cases refused
          rw [← List.append_nil admitted] at h old
          exact ⟨p.ledger, [], a :: rest, rfl, h, .refused old⟩
      · -- The clock is known to go on at every write, because it does so all along.
        refine .bind_along below (h.admits trusted parses below.start first old
          (unused.free _ List.mem_cons_self)) ?_ ?_
        · rintro g s' clock' below ⟨_, L, same, id, filed, seated⟩
          obtain rfl := Except.ok.inj same
          refine (ih seated there (Unused.filed (id ▸ unused) filed) below).imp ?_
          rintro r s'' ⟨L', joined, later, rfl, seated, ends⟩
          rw [← List.append_cons] at seated ends
          exact ⟨L', a :: joined, later, rfl, seated, ends⟩
        · rintro e s' ⟨_, L, failed, -⟩
          cases failed

/-! ## Sharing data -/

lemma encrypts (h : Seated sv cast k owner admitted p) (trusted : sv.suite.RoundTrips)
    (known : p.ledger.secret k.id = some secret) (plaintext : Bytes) (drawn : Block 16)
    (clock : Nat → Timestamp) :
    (sv.encrypt owner.member.id owner.passphrase k.id plaintext drawn).Meets clock p.store
      fun r s' => r = .ok (Ciphertext.encrypt sv.suite ⟨secret, none⟩ (.ofBytes drawn) plaintext) ∧
        s' = p.store := by
  obtain ⟨own, held, any, current⟩ := h.chair
  refine (encrypt_held h.readable h.wellFormed trusted held (any _) current known).and ?_
  exact (encrypt_effect _ _ _ _ _).imp fun _ _ e => e.unchanged rfl

lemma decrypts (h : Seated sv cast k owner admitted p) (trusted : sv.suite.RoundTrips)
    (known : p.ledger.secret k.id = some secret) (mem : (q, level) ∈ company owner admitted)
    (plaintext : Bytes) (drawn : Block 16) (clock : Nat → Timestamp) :
    (sv.decrypt q.member.id q.passphrase k.id (Ciphertext.encrypt sv.suite ⟨secret, none⟩
      (.ofBytes drawn) plaintext)).Meets clock p.store fun r s' =>
        s' = p.store ∧ (.read ≤ level → r = .ok plaintext) ∧
          (level = .all → Outcome.of r = .authorizationWarning) := by
  obtain ⟨g, held, rfl, current⟩ := h.held mem
  refine .and ?_ (.and ?_ ?_)
  · exact (decrypt_effect _ _ _ _).imp fun _ _ e => e.unchanged rfl
  · exact fun reads => decrypt_meets h.readable h.wellFormed trusted held reads current known
  · intro lowest
    have short : g.level < .read := lowest ▸ by decide
    exact (decrypt_unauthorized_iff _ _).2 ((fallsShort_iff held).2 short)

/-- The circle comes to what it should. -/
lemma convened (h : Seated sv cast k owner admitted p) (trusted : sv.suite.RoundTrips) :
    Convened sv p.store k.id owner admitted where
  listed _ := ⟨_, rfl, h.listed⟩
  shared plaintext drawn clock := by
    obtain ⟨own, held, -, current⟩ := h.chair
    obtain ⟨_, secret, -, known, -⟩ := h.readable.unlock_held h.wellFormed trusted held current
    obtain ⟨encrypted, unchanged⟩ := h.encrypts trusted known plaintext drawn clock
    refine ⟨_, Prod.ext encrypted unchanged, fun q level mem clock' => ?_⟩
    obtain ⟨unchanged, read⟩ := h.decrypts trusted known mem plaintext drawn clock'
    exact ⟨_, Prod.ext rfl unchanged, read⟩

end Seated

/-! ## Setting up a circle -/

/-- What is drawn for a circle is not taken, and the identifiers of its grants are all different. -/
structure DrawsFresh (s : Store) (founding : Founding.Draw) (granting : Grant.Draw)
    (others : List Admission) : Prop where
  circle : s.circles.get? (.random founding.circle) = none
  key : s.keys.get? (.random founding.key) = none
  grants : Unused s (.random granting.id :: others.map fun a => .random a.drawn.id)

section

variable {owner : Participant} {name : String} {founding : Founding.Draw} {granting : Grant.Draw}
  {others : List Admission}

/-- One of the cast founds a circle, and is alone in it. -/
lemma Staged.founds (h : Staged sv cast p) (trusted : sv.suite.RoundTrips)
    (parses : sv.suite.ParsesKeys) (present : owner ∈ cast) (named : ¬Text.isBlank name = true)
    (free : p.store.circleNamed? name = none) (fresh : DrawsFresh p.store founding granting others)
    (below : p.store.clock < .greatest) :
    (sv.createCircle owner.member.id name founding granting).Meets clock p.store fun r s' =>
      ∃ k g L, r = .ok (k, g) ∧ (k.id = .random founding.circle ∧ k.name = name) ∧
        g.id = .random granting.id ∧ s'.grants = p.store.grants.insert g.id g ∧
        Seated sv cast k owner [] ⟨s', L⟩ := by
  obtain ⟨found, -⟩ := h.registered owner present
  have drawn : (Operation.createCircle owner.member.id name founding granting).DrawsFresh p.store :=
    ⟨fresh.circle, fresh.key, fresh.grants.free _ List.mem_cons_self⟩
  refine ((createCircle_succeeds h.readable h.wellFormed parses found named free drawn).and
    (createCircle_effect _ _ _ _)).imp ?_
  rintro r s' ⟨⟨⟨k, g⟩, rfl⟩, e⟩
  obtain ⟨⟨id, named, there⟩, ⟨member, level, own⟩, filed, listed, turn⟩ :=
    e.founds h.wellFormed below
  refine ⟨k, g, _, rfl, ⟨id, named⟩, own, filed, h.effect trusted rfl e, ?_, there, ?_, turn⟩
  · exact List.forall_mem_singleton.2 present
  · rw [listed, List.map_singleton, member, level]
    rfl

lemma Staged.convenes (h : Staged sv cast p) (trusted : sv.suite.RoundTrips)
    (parses : sv.suite.ParsesKeys) (present : owner ∈ cast)
    (there : ∀ a ∈ others, a.participant ∈ cast) (named : ¬Text.isBlank name = true)
    (free : p.store.circleNamed? name = none) (fresh : DrawsFresh p.store founding granting others)
    (below : (circle sv name owner founding granting others).Throughout
      (fun s => s.clock < .greatest) clock p.store) :
    (circle sv name owner founding granting others).Meets clock p.store fun r s' =>
      ∃ k admitted rest L, (k.id = .random founding.circle ∧ k.name = name) ∧
        others = admitted ++ rest ∧ Seated sv cast k owner admitted ⟨s', L⟩ ∧
        Ends k owner admitted rest r := by
  refine .bind_along below (h.founds trusted parses present named free fresh below.start) ?_ ?_
  · rintro made s' clock' below ⟨k, g, L, same, own, id, filed, seated⟩
    obtain rfl := Except.ok.inj same
    have unused := Unused.filed (id ▸ fresh.grants) filed
    refine .bind (seated.admitsAll trusted parses there unused below.first) ?_ ?_
    · rintro _ s'' clock'' ⟨L', admitted, rest, split, seated, ends⟩
      cases ends with
      | all => exact .result ⟨k, admitted, [], L', own, split, seated, .all⟩
    · rintro e s'' ⟨L', admitted, rest, split, seated, ends⟩
      cases ends with
      | refused old => exact ⟨k, admitted, _, L', own, split, seated, .refused old⟩
  · rintro e s' ⟨k, g, L, failed, -⟩
    cases failed

end

/-- **A circle admits others in turn.**  After every rehearsal, one of the cast sets up a circle of
others of the cast, under a name that is neither blank nor taken.  If they are all different, and
the owner is not among them, this succeeds, and the circle consists of the owner and all of them.
Otherwise it fails with an illegal action at the first entry that is the owner or repeats an earlier
one, and the circle consists of the owner and exactly the entries before it. -/
theorem circle_admits_in_turn (sv : Service) (trusted : sv.suite.RoundTrips)
    (parses : sv.suite.ParsesKeys) (acts : List (Act × (Nat → Timestamp))) (name : String)
    (owner : Participant) (founding : Founding.Draw) (granting : Grant.Draw)
    (others : List Admission) (clock : Nat → Timestamp) (present : owner ∈ (after sv acts).cast)
    (there : ∀ a ∈ others, a.participant ∈ (after sv acts).cast)
    (named : ¬Text.isBlank name = true) (free : (after sv acts).store.circleNamed? name = none)
    (fresh : DrawsFresh (after sv acts).store founding granting others)
    (below : (circle sv name owner founding granting others).Throughout
      (fun s => s.clock < .greatest) clock (after sv acts).store) :
    let came := (circle sv name owner founding granting others).run clock (after sv acts).store
    ∃ k : Circle, (k.id = .random founding.circle ∧ k.name = name) ∧
      came.2.circle? k.id = some k ∧
      ((names owner others).Nodup → came.1 = .ok k ∧ Convened sv came.2 k.id owner others) ∧
      (¬(names owner others).Nodup → ∃ admitted refused rest,
        others = admitted ++ refused :: rest ∧ (names owner admitted).Nodup ∧
          refused.participant.member.id ∈ names owner admitted ∧
          came.1 = .error .alreadyGranted ∧ Outcome.of came.1 = .illegalAction ∧
          Convened sv came.2 k.id owner admitted) := by
  intro came
  obtain ⟨L, staged⟩ := Staged.after trusted acts
  obtain ⟨k, admitted, rest, L', own, rfl, seated, ends⟩ :=
    staged.convenes trusted parses present there named free fresh below
  have convened := seated.convened trusted
  refine ⟨k, own, seated.filed, ?_⟩
  -- How it ended decides which of the two cases it is.
  change Ends k owner admitted rest came.1 at ends
  generalize came.1 = r at ends ⊢
  cases ends with
  | all =>
      rw [List.append_nil]
      exact ⟨fun _ => ⟨rfl, convened⟩, fun repeated => absurd seated.nodup repeated⟩
  | @refused a rest old =>
      constructor
      · intro distinct
        rw [names_append] at distinct
        exact absurd List.mem_cons_self (List.disjoint_of_nodup_append distinct old)
      · exact fun _ => ⟨admitted, a, rest, rfl, seated.nodup, old, rfl, rfl, convened⟩

/-! ## A season -/

open SmallCircle

deriving instance DecidableEq for Participant

/-- Somebody who is enrolled at a moment, with draws that are told apart by a byte. -/
def player (name : String) (n : UInt8) (moment : Timestamp) : Participant :=
  let passphrase := passphraseOf name
  ⟨{ Member.registered .transparent service.kdf name passphrase
      ⟨drawn 32 n, protection n, drawn 16 n⟩ with added := moment, altered := moment }, passphrase⟩

def entry (q : Participant) (level : TrustLevel) (n : UInt8) : Admission := ⟨q, level, granting n⟩

/-- Three members are enrolled, and the first sets up a circle with the second. -/
def season : List (Act × (Nat → Timestamp)) :=
  [(.enrol "alice" ⟨drawn 32 1, protection 1, drawn 16 1⟩, fun _ => 10),
    (.enrol "bob" ⟨drawn 32 2, protection 2, drawn 16 2⟩, fun _ => 20),
    (.enrol "carol" ⟨drawn 32 3, protection 3, drawn 16 3⟩, fun _ => 30),
    (.circle "board" (player "alice" 1 10) ⟨drawn 16 4, drawn 32 5, drawn 16 6, drawn 16 7⟩
      (granting 8) [entry (player "bob" 2 20) .write 9], fun _ => 40)]

/-- What is drawn for a circle that Bob sets up. -/
def clubDraw : Founding.Draw := ⟨drawn 16 14, drawn 32 15, drawn 16 16, drawn 16 17⟩

/-- Bob sets up a circle with Carol, and one for which he names himself before her, both by a wall
clock that was put back. -/
theorem circle_admits_in_turn_season :
    let bob := player "bob" 2 20
    let carol := player "carol" 3 30
    let club := fun others => (circle service "club" bob clubDraw (granting 10) others).run
      (fun _ => 5) (after service season).store
    (∃ k, (club [entry carol .read 11]).1 = .ok k ∧
      Convened service (club [entry carol .read 11]).2 k.id bob [entry carol .read 11]) ∧
    ∃ k : Circle,
      (club [entry bob .all 11, entry carol .read 12]).1 = .error .alreadyGranted ∧
        Convened service (club [entry bob .all 11, entry carol .read 12]).2 k.id bob [] := by
  intro bob carol club
  obtain ⟨present, there, free, circle, key⟩ : bob ∈ (after service season).cast ∧
      carol ∈ (after service season).cast ∧
      (after service season).store.circleNamed? "club" = none ∧
      (after service season).store.circles.get? (.random clubDraw.circle) = none ∧
      (after service season).store.keys.get? (.random clubDraw.key) = none := by
    decide +kernel
  constructor
  · obtain ⟨k, -, -, goes, -⟩ := circle_admits_in_turn service transparent_roundTrips
      (fun _ => rfl) season "club" bob clubDraw (granting 10) [entry carol .read 11] (fun _ => 5)
      present (List.forall_mem_singleton.2 there) (by decide) free
      ⟨circle, key, by decide +kernel, by decide +kernel⟩ (by decide +kernel)
    exact ⟨k, goes (by decide +kernel)⟩
  · obtain ⟨k, -, -, -, stops⟩ := circle_admits_in_turn service transparent_roundTrips
      (fun _ => rfl) season "club" bob clubDraw (granting 10)
      [entry bob .all 11, entry carol .read 12] (fun _ => 5) present
      (List.forall_mem_cons.2 ⟨present, List.forall_mem_singleton.2 there⟩) (by decide) free
      ⟨circle, key, by decide +kernel, by decide +kernel⟩ (by decide +kernel)
    obtain ⟨admitted, refused, rest, split, distinct, -, failed, -, convened⟩ :=
      stops (by decide +kernel)
    cases admitted with
    | nil => exact ⟨k, failed, convened⟩
    | cons a more =>
        obtain ⟨rfl, -⟩ := List.cons.inj split
        exact absurd List.mem_cons_self (List.nodup_cons.1 distinct).1

end Rehearsal

end CircleVault
