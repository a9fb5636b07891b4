import CircleVault.Proofs.Sealing
import CircleVault.Proofs.Signatures
import CircleVault.Proofs.SingleWrite
import CircleVault.Proofs.Transparent
import CircleVault.Proofs.WellFormed

/-!
# The store accepts what the service writes

The service checks for itself what the store will check again: that a name is free, that a member
holds no grant in a circle, that content is unsigned, that what a record refers to is there.  The
two check in different ways.  The service looks a name up, goes through a listing of the circle of
the actor's own key, and finds a signature under the public key text of the member; the store goes
through its tables under the identifiers in the record that it is given.

In a store that the service has filled the two agree.  Where the identifiers drawn for new records
are not taken (`Operation.DrawsFresh`), the store refuses no call of any operation, so no operation
that is served alone ever answers with a violated constraint (`Service.writes_accepted_after`).
The store refuses only what others wrote in between.
-/

namespace CircleVault

/-! ## What the store accepts -/

namespace Store

variable {s s' : Store} {now : Timestamp}

lemma memberNamed?_eq_none {name : String} :
    s.memberNamed? name = none ↔ ∀ m ∈ s.members.values, m.name ≠ name := by
  simp [memberNamed?]

lemma circleNamed?_eq_none {name : String} :
    s.circleNamed? name = none ↔ ∀ c ∈ s.circles.values, c.name ≠ name := by
  simp [circleNamed?]

/-- A member is inserted under a new identifier, if the name is not found. -/
lemma insertMember_ne_error {m : Member} (fresh : s.members.get? m.id = none)
    (unnamed : s.memberNamed? m.name = none) (e : StoreFailure) :
    s.insertMember now m ≠ .error e s' := by
  have accepted : s.insertMember now m = .ok _ _ :=
    insertMember_eq_ok.2 ⟨fresh, memberNamed?_eq_none.1 unnamed, rfl, rfl⟩
  simp [accepted]

/-- A stored member is replaced by one with the same identifier and name. -/
lemma Integrity.updateMember_ne_error (h : s.Integrity) {m present : Member}
    (found : s.members.get? m.id = some present) (name : m.name = present.name)
    (e : StoreFailure) : s.updateMember now m ≠ .error e s' := by
  have unnamed : ∀ o ∈ s.members.values, o.id ≠ m.id → o.name ≠ m.name := by
    intro o mem other same
    obtain ⟨id, there⟩ := Table.mem_values.1 mem
    have own := h.member_id id o there
    have one := h.member_name id m.id o present there found (same.trans name)
    exact other (own.trans one)
  have accepted : s.updateMember now m = .ok _ _ :=
    updateMember_eq_ok.2 ⟨present, found, unnamed, rfl, rfl⟩
  simp [accepted]

/-- A founding is filed under new identifiers, if its parts belong together, the name is not found
and the owner is there. -/
lemma createCircle_ne_error {f : Founded} (fresh : s.circles.get? f.circle.id = none)
    (unnamed : s.circleNamed? f.circle.name = none)
    (related : f.key.circle = f.circle.id ∧ f.owner.circle = f.circle.id ∧ f.owner.key = f.key.id)
    (freshKey : s.keys.get? f.key.id = none) (owner : s.members.get? f.owner.member ≠ none)
    (freshGrant : s.grants.get? f.owner.id = none) (e : StoreFailure) :
    s.createCircle now f ≠ .error e s' := by
  have accepted : s.createCircle now f = .ok _ _ :=
    createCircle_eq_ok.2 ⟨fresh, circleNamed?_eq_none.1 unnamed, related, freshKey, owner,
      freshGrant, rfl, rfl⟩
  simp [accepted]

/-- A grant is inserted under a new identifier, if its member and circle are there and the circle's
listing has no grant of that member. -/
lemma insertGrant_ne_error {g : Grant} (holder : s.members.get? g.member ≠ none)
    (home : s.circles.get? g.circle ≠ none) (fresh : s.grants.get? g.id = none)
    (alone : ∀ o ∈ s.grantsIn g.circle, o.member ≠ g.member) (e : StoreFailure) :
    s.insertGrant now g ≠ .error e s' := by
  have unshared : ∀ o ∈ s.grants.values, o.member = g.member → o.circle ≠ g.circle := by
    intro o mem member circle
    exact alone o (mem_grantsIn.2 ⟨mem, circle⟩) member
  have accepted : s.insertGrant now g = .ok _ _ :=
    insertGrant_eq_ok.2 ⟨holder, home, fresh, unshared, rfl, rfl⟩
  simp [accepted]

/-- A signature record is stored, if there is none of its content and signer. -/
lemma upsertSignature_ne_error {r : SignedRecord}
    (unsigned : s.signature? r.checksum r.publicKey = none) (e : StoreFailure) :
    s.upsertSignature now r ≠ .error e s' := by
  have added : s.signatureAdded r = .ok r.added := by
    rw [signature?] at unsigned
    rw [signatureAdded, unsigned]
  have accepted : s.upsertSignature now r = .ok _ _ :=
    upsertSignature_eq_ok.2 ⟨r.added, added, rfl, rfl⟩
  simp [accepted]

end Store

/-! ## Failures of the service's own -/

/-- Whether a failure is one that the service passes on from the store. -/
def Failure.isStore : Failure → Bool
  | .store _ => true
  | _ => false

/-- The service has no word of its own for a violated constraint. -/
lemma Failure.outcome_ne_constraintError {e : Failure} (own : e.isStore = false) :
    e.outcome ≠ .constraintError := by
  cases e with
  | store cause => cases own
  | _ => nofun

lemma Failure.IsOpening.isStore {e : Failure} (h : e.IsOpening) : e.isStore = false := by
  cases h <;> rfl

section

variable {S : Suite} {settings : Settings} {kdf : KeyStretching} {m : Member} {e : Failure}

lemma Settings.isStore_of_checkPassphrase {passphrase : String}
    (h : settings.checkPassphrase passphrase = .error e) : e.isStore = false := by
  unfold checkPassphrase at h
  split at h <;> cases h
  rfl

lemma Member.isStore_of_register {name passphrase : String} {drawn : Draw}
    (h : register S settings kdf name passphrase drawn = .error e) : e.isStore = false := by
  simp only [register, throw_bind, refuse_if_eq_error, bind_eq_error] at h
  obtain ⟨-, rfl⟩ | ⟨-, short | ⟨-, -, made⟩⟩ := h
  · rfl
  · exact Settings.isStore_of_checkPassphrase short
  · cases made

lemma Member.isStore_of_changePassphrase {current next : String} {drawn : Protection}
    (h : m.changePassphrase S settings kdf current next drawn = .error e) : e.isStore = false := by
  obtain short | ⟨-, shut⟩ := changePassphrase_eq_error.1 h
  · exact Settings.isStore_of_checkPassphrase short
  · exact (isOpening_of_unlock shut).isStore

lemma Founding.isStore_of_make {name : String} {drawn : Draw} (h : make name drawn = .error e) :
    e.isStore = false := by
  simp only [make, throw_bind, refuse_if_eq_error] at h
  obtain ⟨-, rfl⟩ | ⟨-, made⟩ := h
  · rfl
  · cases made

lemma Grant.isStore_of_make {secret : SecretKey} {key : CircleKey} {level : TrustLevel}
    {present : List Grant} {drawn : Draw}
    (h : make S secret key m level present drawn = .error e) : e.isStore = false := by
  cases active : key.isActive with
  | true => obtain rfl | rfl := make_eq_error active h <;> rfl
  | false =>
      have retired : key.ensureActive = .error .keyRetired := by
        simp [CircleKey.ensureActive, active]
      rw [make, retired] at h
      cases h
      rfl

end

/-! ## Operations -/

/-- What an operation draws to name new records by is not taken. -/
def Operation.DrawsFresh (s : Store) : Operation → Prop
  | registerMember _ _ drawn => s.members.get? (.random drawn.id) = none
  | createCircle _ _ founding granting =>
      s.circles.get? (.random founding.circle) = none ∧
        s.keys.get? (.random founding.key) = none ∧ s.grants.get? (.random granting.id) = none
  | addGrant _ _ _ _ _ drawn => s.grants.get? (.random drawn.id) = none
  | _ => True

/-- A result that is no failure of the store. -/
def Unrefused {α : Type} (r : Except Failure α) (_ : Store) : Prop :=
  ∀ e, r = .error e → e.isStore = false

section

variable {α : Type} {s : Store}

lemma unrefused_ok (a : α) : Unrefused (.ok a) s := nofun

lemma unrefused_error {e : Failure} (own : e.isStore = false) :
    Unrefused (.error e : Except Failure α) s :=
  fun _ h => Except.error.inj h ▸ own

end

namespace Service

open Program

variable {sv : Service} {clock : Nat → Timestamp} {s : Store}

lemma registerMember_unrefused (name passphrase : String) (drawn : Member.Draw)
    (fresh : s.members.get? (.random drawn.id) = none) :
    (sv.registerMember name passphrase drawn).Meets clock s Unrefused := by
  refine .call (.require (fun free => ?_) (fun _ => unrefused_error rfl))
  refine .of (fun m made => ?_)
    (fun e failed => unrefused_error (Member.isStore_of_register failed))
  refine .call (.wrote Store.insertMember_spares (fun stored _ _ => unrefused_ok stored)
    (fun e refused => absurd refused ?_))
  obtain ⟨-, -, rfl⟩ := Member.register_eq_ok.1 made
  have unnamed : s.memberNamed? name = none := Option.isNone_iff_eq_none.1 free
  exact Store.insertMember_ne_error fresh unnamed e

lemma changePassphrase_unrefused (h : s.WellFormed) (id : MemberId) (current next : String)
    (drawn : Member.Protection) :
    (sv.changePassphrase id current next drawn).Meets clock s Unrefused := by
  refine .member (fun m present => ?_) (fun _ => unrefused_error rfl)
  refine .of (fun changed made => ?_)
    (fun e failed => unrefused_error (Member.isStore_of_changePassphrase failed))
  refine .call (.wrote Store.updateMember_spares (fun stored _ _ => unrefused_ok stored)
    (fun e refused => absurd refused ?_))
  obtain ⟨-, key, -, rfl⟩ := Member.changePassphrase_eq_ok.1 made
  have found : s.members.get? m.id = some m := by
    rw [h.member_id id m present]
    exact present
  apply h.updateMember_ne_error
  · exact found
  · rfl

lemma createCircle_unrefused (h : s.WellFormed) (founder : MemberId) (name : String)
    (founding : Founding.Draw) (granting : Grant.Draw)
    (fresh : (Operation.createCircle founder name founding granting).DrawsFresh s) :
    (sv.createCircle founder name founding granting).Meets clock s Unrefused := by
  refine .member (fun owner present => ?_) (fun _ => unrefused_error rfl)
  refine .call (.require (fun free => ?_) (fun _ => unrefused_error rfl))
  refine .of (fun new made => ?_)
    (fun e failed => unrefused_error (Founding.isStore_of_make failed))
  refine .of (fun g granted => ?_) (fun e failed => unrefused_error (Grant.isStore_of_make failed))
  refine .call (.accepted Store.createCircle_spares (fun stored _ _ => .result (unrefused_ok _))
    (fun e refused => absurd refused ?_))
  obtain ⟨freshCircle, freshKey, freshGrant⟩ := fresh
  obtain ⟨-, rfl⟩ := Founding.make_eq_ok.1 made
  obtain ⟨-, -, recipient, -, rfl⟩ := Grant.make_eq_ok.1 granted
  have there : s.members.get? owner.id ≠ none := by
    rw [h.member_id founder owner present]
    exact Option.ne_none_iff_exists'.2 ⟨owner, present⟩
  have unnamed : s.circleNamed? name = none := Option.isNone_iff_eq_none.1 free
  exact Store.createCircle_ne_error freshCircle unnamed ⟨rfl, rfl, rfl⟩ freshKey there freshGrant e

lemma addGrant_unrefused (h : s.WellFormed) (actor : MemberId) (passphrase : String)
    (circle : CircleId) (target : MemberId) (level : TrustLevel) (drawn : Grant.Draw)
    (fresh : s.grants.get? (.random drawn.id) = none) :
    (sv.addGrant actor passphrase circle target level drawn).Meets clock s Unrefused := by
  refine .authorize (fun own held _ => ?_) (fun _ => unrefused_error rfl)
    (fun _ _ _ => unrefused_error rfl)
  refine .require (fun _ => ?_) (fun _ => unrefused_error rfl)
  refine .member (fun recipient present => ?_) (fun _ => unrefused_error rfl)
  refine .keyOf (fun key found _ => ?_) (fun _ => unrefused_error rfl)
    (fun _ _ _ => unrefused_error rfl)
  refine .call (.secretOf (fun _ secret _ _ => ?_) (fun _ => unrefused_error rfl)
    (fun _ e _ shut => unrefused_error (Grant.isOpening_of_unlock shut).isStore))
  refine .of (fun g made => ?_) (fun e failed => unrefused_error (Grant.isStore_of_make failed))
  refine .call (.wrote Store.insertGrant_spares (fun stored _ _ => unrefused_ok stored)
    (fun e refused => absurd refused ?_))
  -- The new grant lands in the circle of the key, which is the one whose listing was searched.
  have home : key.circle = circle := h.key_of_grant? held found
  obtain ⟨-, alone, publicKey, -, rfl⟩ := Grant.make_eq_ok.1 made
  have there : s.members.get? recipient.id ≠ none := by
    rw [h.member_id target recipient present]
    exact Option.ne_none_iff_exists'.2 ⟨recipient, present⟩
  refine Store.insertGrant_ne_error there (h.key_circle _ key found) fresh ?_ e
  intro o listed member
  change o ∈ s.grantsIn key.circle at listed
  have shared : o.circle = key.circle := (Store.mem_grantsIn.1 listed).2
  exact alone o (home ▸ listed) member shared

lemma removeGrant_unrefused (h : s.WellFormed) (actor : MemberId) (circle : CircleId)
    (target : MemberId) : (removeGrant actor circle target).Meets clock s Unrefused := by
  refine .authorize (fun own _ _ => ?_) (fun _ => unrefused_error rfl)
    (fun _ _ _ => unrefused_error rfl)
  refine .call (.of (fun taken htaken => ?_) (fun e absent => ?_))
  · refine .require (fun _ => ?_) (fun _ => unrefused_error rfl)
    refine .require (fun _ => ?_) (fun _ => unrefused_error rfl)
    refine .call (.wrote Store.deleteGrant_spares (fun u _ _ => unrefused_ok u)
      (fun e refused => absurd refused ?_))
    obtain ⟨here, -⟩ := h.remove_grantsIn htaken
    obtain ⟨mem, -, -⟩ := Store.mem_grants_of_grant? here
    exact Store.deleteGrant_ne_error (h.get?_of_mem mem) e
  · obtain ⟨rfl, -⟩ := Grant.remove_eq_error absent
    exact unrefused_error rfl

lemma changeLevel_unrefused (h : s.WellFormed) (actor : MemberId) (circle : CircleId)
    (target : MemberId) (level : TrustLevel) :
    (changeLevel actor circle target level).Meets clock s Unrefused := by
  refine .authorize (fun own _ _ => ?_) (fun _ => unrefused_error rfl)
    (fun _ _ _ => unrefused_error rfl)
  refine .call (.of (fun taken htaken => ?_) (fun e absent => ?_))
  · refine .require (fun _ => ?_) (fun _ => unrefused_error rfl)
    refine .require (fun _ => ?_) (fun _ => unrefused_error rfl)
    refine .call (.wrote Store.updateGrant_spares (fun stored _ _ => unrefused_ok stored)
      (fun e refused => absurd refused ?_))
    obtain ⟨here, -⟩ := h.remove_grantsIn htaken
    obtain ⟨mem, -, -⟩ := Store.mem_grants_of_grant? here
    have found : s.grants.get? (taken.1.withLevel level).id = some taken.1 := h.get?_of_mem mem
    exact Store.updateGrant_ne_error found ⟨rfl, rfl⟩ e
  · obtain ⟨rfl, -⟩ := Grant.remove_eq_error absent
    exact unrefused_error rfl

lemma sign_unrefused (actor : MemberId) (passphrase : String) (content : Bytes)
    (expires : Option Timestamp) :
    (sv.sign actor passphrase content expires).Meets clock s Unrefused := by
  refine .member (fun signer _ => ?_) (fun _ => unrefused_error rfl)
  refine .call (.require (fun unsigned => ?_) (fun _ => unrefused_error rfl))
  refine .of (fun key opened => ?_)
    (fun e shut => unrefused_error (Member.isOpening_of_unlock shut).isStore)
  refine .call (.call (.wrote Store.upsertSignature_spares (fun stored _ _ => unrefused_ok stored)
    (fun e refused => absurd refused ?_)))
  -- The key that was opened has the public key under which the service looked.
  have own : (key.publicKey sv.suite).toText = (signer.reread sv.settings.saltCharset).publicKey :=
    Member.publicKey_of_unlock opened
  refine Store.upsertSignature_ne_error ?_ e
  show s.signature? (sv.suite.checksum content) (key.publicKey sv.suite).toText = none
  rw [own]
  exact Option.isNone_iff_eq_none.1 unsigned

lemma verify_unrefused (h : s.WellFormed) (signer : MemberId) (checksum : Checksum)
    (content : Bytes) : (sv.verify signer checksum content).Meets clock s Unrefused := by
  refine .member (fun m _ => ?_) (fun _ => unrefused_error rfl)
  refine .of (fun key _ => ?_) (fun e unreadable => ?_)
  · refine .call (.found (fun r found => ?_) (fun _ => unrefused_error rfl))
    refine .call ?_
    dsimp only
    split
    next success =>
      refine .call (.accepted Store.upsertSignature_spares
        (fun stored _ _ => .result (unrefused_ok _)) (fun e refused => absurd refused ?_))
      obtain ⟨_, _, accepted, -, -⟩ := Store.upsertSignature_follows
        (later (later (later clock)) 0) (later (later clock) 0) (h.signature?_own found)
      intro refused
      rw [SignedRecord.verify_succeeded success] at refused
      cases refused.symm.trans accepted
    next => exact .result (unrefused_ok _)
  · have cause : e = .publicKeyUnreadable := Member.readPublicKey_eq_error unreadable
    exact unrefused_error (cause ▸ rfl)

lemma encrypt_unrefused (actor : MemberId) (passphrase : String) (circle : CircleId)
    (plaintext : Bytes) (drawn : Block 16) :
    (sv.encrypt actor passphrase circle plaintext drawn).Meets clock s Unrefused := by
  refine .authorize (fun own _ _ => ?_) (fun _ => unrefused_error rfl)
    (fun _ _ _ => unrefused_error rfl)
  exact .secretOf (fun _ _ _ _ => .result (unrefused_ok _)) (fun _ => unrefused_error rfl)
    (fun _ e _ shut => unrefused_error (Grant.isOpening_of_unlock shut).isStore)

lemma decrypt_unrefused (actor : MemberId) (passphrase : String) (circle : CircleId)
    (data : Ciphertext) :
    (sv.decrypt actor passphrase circle data).Meets clock s Unrefused := by
  refine .authorize (fun own _ _ => ?_) (fun _ => unrefused_error rfl)
    (fun _ _ _ => unrefused_error rfl)
  refine .secretOf (fun _ secret _ _ => .done fun e unopened => ?_)
    (fun _ => unrefused_error rfl)
    (fun _ e _ shut => unrefused_error (Grant.isOpening_of_unlock shut).isStore)
  have cause : e = .dataUnopened := Ciphertext.decrypt_eq_error unopened
  exact cause ▸ rfl

lemma circle_unrefused (id : CircleId) (clock : Nat → Timestamp) :
    (circle id).Meets clock s Unrefused := by
  refine .call ?_
  rw [← bind_pure (found _ _)]
  exact .found (fun c _ => .result (unrefused_ok c)) (fun _ => unrefused_error rfl)

lemma circlesOf_unrefused (grants : List Grant) (clock : Nat → Timestamp) :
    (circlesOf grants).Meets clock s Unrefused := by
  induction grants generalizing s clock with
  | nil => exact .result (unrefused_ok _)
  | cons g rest ih =>
      refine .bind (circle_unrefused g.circle clock) (fun c s' clock' _ => ?_) (fun _ _ h => ?_)
      · refine .bind (ih clock') (fun cs _ _ _ => .result (unrefused_ok _)) (fun _ _ h => ?_)
        exact unrefused_error (h _ rfl)
      · exact unrefused_error (h _ rfl)

/-- Serving an operation whose draws are fresh does not fail with a failure of the store. -/
theorem serve_unrefused (h : s.WellFormed) (t : Turn) (fresh : t.operation.DrawsFresh s) :
    Unrefused (sv.serve s t).1 (sv.serve s t).2 := by
  obtain ⟨o, clock⟩ := t
  cases o with
  | registerMember name passphrase drawn =>
      exact registerMember_unrefused name passphrase drawn fresh
  | changePassphrase id current next drawn =>
      exact changePassphrase_unrefused h id current next drawn
  | createCircle founder name founding granting =>
      exact createCircle_unrefused h founder name founding granting fresh
  | addGrant actor passphrase circle target level drawn =>
      exact addGrant_unrefused h actor passphrase circle target level drawn fresh
  | removeGrant actor circle target => exact removeGrant_unrefused h actor circle target
  | changeLevel actor circle target level =>
      exact changeLevel_unrefused h actor circle target level
  | sign actor passphrase content expires => exact sign_unrefused actor passphrase content expires
  | verify signer signed content => exact verify_unrefused h signer signed content
  | encrypt actor passphrase circle plaintext drawn =>
      exact encrypt_unrefused actor passphrase circle plaintext drawn
  | decrypt actor passphrase circle data => exact decrypt_unrefused actor passphrase circle data
  | member id =>
      show (sv.member id).Meets clock s Unrefused
      rw [← bind_pure (sv.member id)]
      exact .member (fun m _ => .result (unrefused_ok _)) (fun _ => unrefused_error rfl)
  | circle id => exact circle_unrefused id clock
  | listCircles holder => exact circlesOf_unrefused (s.grantsOf holder) (later clock)
  | listGrants id => exact unrefused_ok (s.grantsIn id)

/-- **The store refuses nothing that the service writes.**  After every run, an operation that
draws new identifiers for its new records has all its calls accepted.  So it never fails with a
failure of the store, and in particular never answers with a violated constraint: what would
violate one, the service has refused by itself. -/
theorem writes_accepted_after (sv : Service) (run : List Turn) (t : Turn)
    (fresh : t.operation.DrawsFresh (sv.after run).store) :
    (∀ x ∈ (t.operation.program sv).exchanges t.clock (sv.after run).store,
      x.1.refusal? x.2 = none) ∧
    (∀ cause, (sv.serve (sv.after run).store t).1 ≠ .error (.store cause)) ∧
    Outcome.of (sv.serve (sv.after run).store t).1 ≠ .constraintError := by
  have own : Unrefused (sv.serve (sv.after run).store t).1 (sv.serve (sv.after run).store t).2 :=
    serve_unrefused (Store.WellFormed.after sv run) t fresh
  have unrefused : ∀ cause, (sv.serve (sv.after run).store t).1 ≠ .error (.store cause) :=
    fun cause failed => Bool.noConfusion (own _ failed)
  refine ⟨(t.operation.program_writesLast sv).accepted unrefused, unrefused, ?_⟩
  cases answered : (sv.serve (sv.after run).store t).1 with
  | ok result => nofun
  | error e => exact Failure.outcome_ne_constraintError (own e answered)

open SmallCircle in
/-- Alice grants Bob access to the circle. -/
def firstGrant : Turn := turn 40 (.addGrant alice "correct horse" club bob .write (granting 5))

open SmallCircle in
/-- Alice grants herself access to the circle in which she holds a grant. -/
def secondGrant : Turn := turn 50 (.addGrant alice "correct horse" club alice .read (granting 6))

open SmallCircle in
/-- The store accepts Bob's first grant, and a second one for Alice is refused by the service. -/
theorem writes_accepted_after_smallCircle :
    let s := (service.after (founded.take 3)).store
    let calls := (firstGrant.operation.program service).exchanges firstGrant.clock s
    (firstGrant.operation.DrawsFresh s ∧
      calls.map (fun x => x.1.isWrite) = [false, false, false, false, false, true] ∧
      (∀ x ∈ calls, x.1.refusal? x.2 = none) ∧
      (service.serve s firstGrant).1.toOption.isSome = true) ∧
    secondGrant.operation.DrawsFresh s ∧
      (service.serve s secondGrant).1 = .error .alreadyGranted ∧
      (∀ cause, (service.serve s secondGrant).1 ≠ .error (.store cause)) ∧
      Outcome.of (service.serve s secondGrant).1 ≠ .constraintError := by
  intro s calls
  have free : s.grants.get? (.random (drawn 16 5)) = none ∧
      s.grants.get? (.random (drawn 16 6)) = none := by
    decide +kernel
  have served : calls.map (fun x => x.1.isWrite) = [false, false, false, false, false, true] ∧
      (service.serve s firstGrant).1.toOption.isSome = true := by
    decide +kernel
  have refused : (service.serve s secondGrant).1 = .error .alreadyGranted := by
    show ((service.addGrant alice "correct horse" club alice .read (granting 6)).run (fun _ => 50)
      s).1 = .error .alreadyGranted
    decide +kernel
  obtain ⟨accepted, -, -⟩ := writes_accepted_after service (founded.take 3) firstGrant free.1
  obtain ⟨-, own⟩ := writes_accepted_after service (founded.take 3) secondGrant free.2
  exact ⟨⟨free.1, served.1, accepted, served.2⟩, free.2, refused, own⟩

end Service

end CircleVault
