import CircleVault.Proofs.Readability
import CircleVault.Proofs.Verifications
import Mathlib.Data.List.Induction

/-!
# The life of a signature

A member signs content once.  From then on the record is there, whatever happens: signing the
content again is refused, and the content is verified against the record until the signature
expires.  The count of the record tells how many verifications have succeeded, over the whole run.

The record is looked for under the public key that the member's record holds, and filed under the
key that the passphrase recovers.  These are the same, because a private key is opened only if it is
the member's (`Member.publicKey_of_unlock`), and stay the same, because changing the passphrase
keeps the key pair.

`Service.answers` lists what the operations of a run were answered.  Against this list the counts
are stated: every stored count is the number of verified outcomes on its record so far
(`Service.count_after`).  Of the cipher suite only `Suite.Signs` is assumed.
-/

namespace CircleVault

/-- The count stored for a checksum and a public key, which is 0 where there is no record. -/
def Store.countOf (s : Store) (k : Checksum × String) : Nat :=
  match s.signatures.get? k with
  | some r => r.verifications.toNat
  | none => 0

/-! ## Answers -/

/-- An operation and the answer to it. -/
abbrev Answered := (o : Operation) × Except Failure o.Result

/-- Whether an answer tells that the record with a checksum and a public key was verified. -/
def Answered.isVerified (k : Checksum × String) : Answered → Bool
  | ⟨.verify _ _ _, .ok v⟩ => v.succeeded && (v.record.checksum, v.record.publicKey) = k
  | _ => false

namespace Answered

variable {k : Checksum × String} {o : Operation}

lemma isVerified_error {e : Failure} : isVerified k ⟨o, .error e⟩ = false := by
  cases o <;> rfl

lemma isVerified_query {r : Except Failure o.Result} (query : o.isQuery = true) :
    isVerified k ⟨o, r⟩ = false := by
  cases o <;> cases query <;> rfl

end Answered

namespace Service

variable {sv : Service}

/-- The answers to turns taken one after another. -/
def answersFrom (sv : Service) : Store → List Turn → List Answered
  | _, [] => []
  | s, t :: rest => ⟨t.operation, (sv.serve s t).1⟩ :: sv.answersFrom (sv.serve s t).2 rest

/-- The answers in a run that begins with the empty store. -/
def answers (sv : Service) (run : List Turn) : List Answered := sv.answersFrom .empty run

lemma answersFrom_append (p : Progress) (run more : List Turn) :
    sv.answersFrom p.store (run ++ more) =
      sv.answersFrom p.store run ++ sv.answersFrom (sv.proceedAll p run).store more := by
  induction run generalizing p with
  | nil => rfl
  | cons t rest ih =>
      rw [List.cons_append, answersFrom, answersFrom, List.cons_append, proceedAll_cons]
      exact congrArg _ (ih (sv.proceed p t))

lemma answers_concat (run : List Turn) (t : Turn) :
    sv.answers (run ++ [t]) =
      sv.answers run ++ [⟨t.operation, (sv.serve (sv.after run).store t).1⟩] :=
  answersFrom_append .start run [t]

/-! ## One operation -/

/-- What an operation does to the signature records: it leaves them, it adds one that was not there,
or it verifies one; and its answer tells which record it verified. -/
inductive Recording (s s' : Store) (answer : Answered) : Prop where
  | unchanged (same : s'.signatures = s.signatures) (told : ∀ k, answer.isVerified k = false)
  | signed {r : SignedRecord} (fresh : s.signatures.get? (r.checksum, r.publicKey) = none)
      (unverified : r.verifications = 0)
      (signatures : s'.signatures = s.signatures.insert (r.checksum, r.publicKey) r)
      (told : ∀ k, answer.isVerified k = false)
  | verified {r r' : SignedRecord} (there : s.signatures.get? (r.checksum, r.publicKey) = some r)
      (follows : r'.Follows r)
      (signatures : s'.signatures = s.signatures.insert (r.checksum, r.publicKey) r')
      (told : ∀ k, answer.isVerified k = true ↔ k = (r.checksum, r.publicKey))

variable {s s' : Store} {o : Operation} {result : Except Failure o.Result}

/-- A verification that the store accepted was of the record that it holds. -/
lemma upsertSignature_verified {S : Suite} {key : PublicKey} {content : Bytes}
    {checksum : Checksum} {publicKey : String} {r stored : SignedRecord} {moment now : Timestamp}
    (integrity : s.Integrity) (found : s.signature? checksum publicKey = some r)
    (success : (r.verify S key content moment).succeeded = true)
    (wrote : s.upsertSignature now (r.verify S key content moment).record = .ok stored s') :
    r.checksum = checksum ∧ r.publicKey = publicKey ∧ stored.Follows r ∧
      s'.signatures = s.signatures.insert (r.checksum, r.publicKey) stored := by
  obtain ⟨rfl, rfl⟩ := Prod.mk.inj (integrity.signature_key _ r found)
  obtain ⟨r', s'', wrote', follows, signatures⟩ := Store.upsertSignature_follows now moment found
  rw [SignedRecord.verify_succeeded success, wrote'] at wrote
  obtain ⟨rfl, rfl⟩ := EStateM.Result.ok.inj wrote
  exact ⟨rfl, rfl, follows, signatures⟩

lemma Effect.recording (e : Effect sv s o result s') (integrity : s.Integrity) :
    Recording s s' ⟨o, result⟩ := by
  have frame := e.frame.2.2
  cases e with
  | refused => exact .unchanged rfl fun k => Answered.isVerified_error
  | answered query => exact .unchanged rfl fun k => Answered.isVerified_query query
  | @signed _ _ content _ signer _ stored _ _ _ _ unsigned opened wrote =>
      obtain ⟨added, -, made, rfl⟩ := Store.upsertSignature_eq_ok.1 wrote
      have own := Member.publicKey_of_unlock opened
      have filed : (stored.checksum, stored.publicKey) =
          (sv.suite.checksum content, signer.publicKey) := by
        rw [made]
        exact Prod.ext rfl own
      refine .signed (r := stored) ?_ ?_ ?_ fun k => rfl
      · rw [filed]
        exact unsigned
      · rw [made]
        rfl
      · rw [made]
  | @verified _ _ _ _ _ _ stored _ _ _ _ _ found success wrote =>
      obtain ⟨rfl, own, follows, signatures⟩ :=
        upsertSignature_verified integrity found success wrote
      rw [← own] at found
      refine .verified found follows signatures fun k => ?_
      show (_ && decide ((stored.checksum, stored.publicKey) = k)) = true ↔ _
      rw [follows.same.checksum, follows.same.publicKey, Bool.and_eq_true, decide_eq_true_eq]
      exact ⟨fun told => told.2.symm, fun same => ⟨success, same.symm⟩⟩
  | unverified _ _ _ failure =>
      refine .unchanged rfl fun k => ?_
      rw [Answered.isVerified, failure, Bool.false_and]
  | _ => exact .unchanged (frame rfl) fun k => rfl

namespace Recording

variable {answer : Answered} {k : Checksum × String}

/-- Signature records stay, but for the account of verifications. -/
lemma stays (e : Recording s s' answer) {r : SignedRecord} (there : s.signatures.get? k = some r) :
    ∃ r', s'.signatures.get? k = some r' ∧ r'.SameSigning r := by
  cases e with
  | unchanged same =>
      rw [same]
      exact ⟨r, there, .refl r⟩
  | signed fresh _ signatures =>
      rw [signatures]
      exact ⟨r, Table.get?_insert_of_fresh fresh there, .refl r⟩
  | @verified o o' found follows signatures =>
      rw [signatures, Table.get?_insert]
      by_cases own : k = (o.checksum, o.publicKey)
      · rw [own, found] at there
        obtain rfl := Option.some.inj there
        exact ⟨o', if_pos own, follows.same⟩
      · exact ⟨r, (if_neg own).trans there, .refl r⟩

/-- A count grows by one where an answer tells of a verification, and nowhere else. -/
lemma count (e : Recording s s' answer)
    (below : ∀ r ∈ s.signatures.values, r.verifications.toNat + 1 < 2 ^ 64) :
    s'.countOf k = s.countOf k + if answer.isVerified k then 1 else 0 := by
  cases e with
  | unchanged same told =>
      rw [Store.countOf, Store.countOf, same, told k]
      rfl
  | @signed o fresh unverified signatures told =>
      rw [Store.countOf, Store.countOf, signatures, Table.get?_insert, told k]
      by_cases own : k = (o.checksum, o.publicKey)
      · rw [if_pos own, own, fresh]
        exact congrArg UInt64.toNat unverified
      · rw [if_neg own]
        rfl
  | @verified o o' found follows signatures told =>
      rw [Store.countOf, Store.countOf, signatures, Table.get?_insert]
      by_cases own : k = (o.checksum, o.publicKey)
      · rw [if_pos own, if_pos ((told k).2 own), own, found]
        exact follows.toNat_verifications (below o (Table.mem_values_of_get? found))
      · rw [if_neg own, if_neg fun verified => own ((told k).1 verified)]
        rfl

end Recording

/-- Members stay, with their public keys. -/
lemma Effect.publicKey_stays (e : Effect sv s o result s') (integrity : s.Integrity)
    {id : MemberId} {m : Member} (there : s.member? id = some m) :
    ∃ m', s'.member? id = some m' ∧ m'.publicKey = m.publicKey := by
  have frame := e.frame.1
  cases e with
  | registered _ wrote =>
      obtain ⟨fresh, -, rfl, rfl⟩ := Store.insertMember_eq_ok.1 wrote
      exact ⟨m, Table.get?_insert_of_fresh fresh there, rfl⟩
  | @reprotected other _ _ _ o _ _ _ _ present made wrote =>
      obtain ⟨_, -, -, rfl, rfl⟩ := Store.updateMember_eq_ok.1 wrote
      obtain ⟨same, publicKey, -⟩ := Member.changePassphrase_protected made
      have id_eq := same.trans (integrity.member_id other o present)
      rw [Store.member?, Table.get?_insert, id_eq]
      by_cases own : id = other
      · subst own
        obtain rfl := Option.some.inj (present.symm.trans there)
        exact ⟨_, if_pos rfl, publicKey⟩
      · exact ⟨m, (if_neg own).trans there, rfl⟩
  | refused => exact ⟨m, there, rfl⟩
  | answered => exact ⟨m, there, rfl⟩
  | _ =>
      rw [Store.member?, frame rfl]
      exact ⟨m, there, rfl⟩

/-! ## Runs -/

/-- Every count that is stored is the number of verified outcomes so far. -/
theorem count_after (run : List Turn)
    (below : ∀ early, early <+: run → ∀ r ∈ (sv.after early).store.signatures.values,
      r.verifications.toNat + 1 < 2 ^ 64) (k : Checksum × String) :
    (sv.after run).store.countOf k = (sv.answers run).countP (Answered.isVerified k) := by
  -- The run is taken apart from its end, where the last answer adds to the list and to the count.
  induction run using List.reverseRecOn with
  | nil => rfl
  | append_singleton early t ih =>
      have part := List.prefix_append early [t]
      have counted := ih fun earlier part' => below earlier (part'.trans part)
      have integrity := (Store.WellFormed.after sv early).toIntegrity
      have recorded := (serve_effect sv (sv.after early).store t).recording integrity
      rw [answers_concat, List.countP_append, List.countP_singleton, after_append, ← counted]
      exact recorded.count (below early part)

/-- A member has signed some content: the record is filed under the member's public key, and was
signed with a key of which this is the public side. -/
structure HasSigned (S : Suite) (s : Store) (actor : MemberId) (content : Bytes)
    (expires : Option Timestamp) (publicKey : String) : Prop where
  member : ∃ m, s.member? actor = some m ∧ m.publicKey = publicKey
  record : ∃ key r, (PrivateKey.publicKey S key).toText = publicKey ∧
    s.signature? (S.checksum content) publicKey = some r ∧ r.expires = expires ∧
    r.signature = key.sign S (SignedRecord.message (S.checksum content))

variable {actor : MemberId} {content : Bytes} {expires : Option Timestamp}
  {publicKey passphrase : String} {signed : SignedRecord} {clock : Nat → Timestamp}

lemma Effect.hasSigned (e : Effect sv s (.sign actor passphrase content expires) (.ok signed) s') :
    HasSigned sv.suite s' actor content expires signed.publicKey := by
  cases e with
  | answered query => cases query
  | @signed _ _ _ _ m key stored _ _ _ present _ opened wrote =>
      obtain ⟨added, -, rfl, rfl⟩ := Store.upsertSignature_eq_ok.1 wrote
      have own := Member.publicKey_of_unlock opened
      exact ⟨⟨m, present, own.symm⟩, key, _, rfl, Table.get?_insert_self .., rfl, rfl⟩

lemma HasSigned.effect {o : Operation} {result : Except Failure o.Result}
    (h : HasSigned sv.suite s actor content expires publicKey) (integrity : s.Integrity)
    (e : Effect sv s o result s') : HasSigned sv.suite s' actor content expires publicKey := by
  obtain ⟨⟨m, present, own⟩, key, r, side, there, lasts, genuine⟩ := h
  obtain ⟨m', present', same⟩ := e.publicKey_stays integrity present
  obtain ⟨r', there', stays⟩ := (e.recording integrity).stays there
  refine ⟨⟨m', present', same.trans own⟩, key, r', side, there', ?_, ?_⟩
  · rw [stays.expires, lasts]
  · rw [stays.signature, genuine]

lemma HasSigned.proceedAll {p : Progress}
    (h : HasSigned sv.suite p.store actor content expires publicKey) (integrity : p.store.Integrity)
    (run : List Turn) :
    HasSigned sv.suite (sv.proceedAll p run).store actor content expires publicKey := by
  have kept : (sv.proceedAll p run).store.Integrity ∧
      HasSigned sv.suite (sv.proceedAll p run).store actor content expires publicKey := by
    refine proceedAll_invariant
      (P := fun p => p.store.Integrity ∧ HasSigned sv.suite p.store actor content expires publicKey)
      run (fun p t _ h => ?_) ⟨integrity, h⟩
    exact ⟨h.1.run _ t.clock, h.2.effect h.1 (serve_effect sv p.store t)⟩
  exact kept.2

open Program

lemma sign_meets (h : HasSigned sv.suite s actor content expires publicKey) (passphrase : String)
    (expires' : Option Timestamp) (clock : Nat → Timestamp) :
    (sv.sign actor passphrase content expires').Meets clock s fun result s' =>
      Outcome.of result = .illegalAction ∧ s' = s := by
  obtain ⟨⟨m, present, rfl⟩, key, r, -, there, -⟩ := h
  rw [sign_eq]
  refine .member_found present (.call (.require (fun unsigned => ?_) fun _ => ⟨rfl, rfl⟩))
  cases there.symm.trans (Option.isNone_iff_eq_none.1 unsigned)

lemma storeVerified_meets {r : SignedRecord} (there : s.signature? r.checksum r.publicKey = some r)
    (moment : Timestamp) (clock : Nat → Timestamp) :
    (storeVerified ⟨r.counted moment, none⟩).Meets clock s fun result s' =>
      ∃ r', result = .ok ⟨r', none⟩ ∧ r'.Follows r ∧
        s'.signature? r.checksum r.publicKey = some r' := by
  obtain ⟨r', s', wrote, follows, signatures⟩ :=
    Store.upsertSignature_follows (clock 0) moment there
  refine .call (.accepted Store.upsertSignature_spares (fun stored s'' wrote' => ?_)
    fun e refused => ?_)
  · obtain ⟨rfl, rfl⟩ := EStateM.Result.ok.inj (wrote.symm.trans wrote')
    refine .result ⟨r', rfl, follows, ?_⟩
    rw [Store.signature?, signatures, Table.get?_insert_self]
  · cases wrote.symm.trans refused

/-- Verifying signed content finds the record, which has expired, or counts one verification
more. -/
lemma verify_meets (trusted : sv.suite.Signs)
    (h : HasSigned sv.suite s actor content expires publicKey) (integrity : s.Integrity)
    (clock : Nat → Timestamp) :
    ∃ r, s.signature? (sv.suite.checksum content) publicKey = some r ∧ r.expires = expires ∧
      (sv.verify actor (sv.suite.checksum content) content).Meets clock s fun result s' =>
        (r.isExpired (clock 2) = true ∧ result = .ok ⟨r, some .expired⟩ ∧ s' = s) ∨
          (r.isExpired (clock 2) = false ∧ ∃ r', result = .ok ⟨r', none⟩ ∧ r'.Follows r ∧
            s'.signature? (sv.suite.checksum content) publicKey = some r') := by
  obtain ⟨⟨m, present, rfl⟩, key, r, side, there, till, genuine⟩ := h
  have readable : m.readPublicKey sv.suite = .ok (key.publicKey sv.suite) := by
    rw [Member.readPublicKey, ← side, PublicKey.ofText_publicKey trusted]
  obtain ⟨checksum, publicKey⟩ := Prod.mk.inj (integrity.signature_key _ r there)
  refine ⟨r, there, till, ?_⟩
  rw [verify_eq]
  refine .member_found present (.of_ok readable (.call ?_))
  refine .found (fun r' found => ?_) fun absent => by cases there.symm.trans absent
  obtain rfl := Option.some.inj (there.symm.trans found)
  refine .call ?_
  show (storeVerified (r.verify sv.suite (key.publicKey sv.suite) content (clock 2))).Meets
    (later (later (later clock))) s _
  rw [SignedRecord.verify_genuine trusted.verify_sign genuine]
  cases late : r.isExpired (clock 2) with
  | true => exact .result (.inl ⟨rfl, rfl, rfl⟩)
  | false =>
      rw [← checksum, ← publicKey] at there ⊢
      obtain ⟨r', told, follows, stored⟩ :=
        storeVerified_meets there (clock 2) (later (later (later clock)))
      exact .inr ⟨rfl, r', told, follows, stored⟩

/-- A verification that does not succeed leaves the store as it is. -/
lemma Effect.eq_of_failed_verify {signer : MemberId} {checksum : Checksum}
    {result : Except Failure Verification}
    (e : Effect sv s (.verify signer checksum content) result s')
    (failed : ∀ v, result = .ok v → v.succeeded = false) : s' = s := by
  cases e with
  | verified _ _ _ success _ =>
      have fails := failed _ rfl
      have clash : true = false := success.symm.trans fails
      cases clash
  | _ => rfl

/-- What is found, at some point of a run, of content that a member signed, if its record was
verified a number of times.  Verifying looks at the clock with its third call. -/
structure StaysSigned (sv : Service) (s : Store) (actor : MemberId) (content : Bytes)
    (expires : Option Timestamp) (publicKey : String) (count : Nat) : Prop where
  /-- Signing again is refused, whatever the passphrase. -/
  again : ∀ passphrase expires' clock,
    let served := sv.serve s ⟨.sign actor passphrase content expires', clock⟩
    Outcome.of served.1 = .illegalAction ∧ served.2 = s
  /-- The record is there, and cannot be verified any more. -/
  expired : ∀ clock t, expires = some t → t < clock 2 →
    ∃ r, s.signature? (sv.suite.checksum content) publicKey = some r ∧
      sv.serve s ⟨.verify actor (sv.suite.checksum content) content, clock⟩ =
        (.ok ⟨r, some .expired⟩, s)
  /-- The record is there, and is verified once more. -/
  verified : ∀ clock, (∀ t, expires = some t → ¬t < clock 2) →
    ∃ r s', sv.serve s ⟨.verify actor (sv.suite.checksum content) content, clock⟩ =
        (.ok ⟨r, none⟩, s') ∧
      s'.signature? (sv.suite.checksum content) publicKey = some r ∧
      r.verifications.toNat = 1 + count

lemma HasSigned.staysSigned (h : HasSigned sv.suite s actor content expires publicKey)
    (trusted : sv.suite.Signs) (integrity : s.Integrity)
    (below : ∀ r ∈ s.signatures.values, r.verifications.toNat + 1 < 2 ^ 64) :
    StaysSigned sv s actor content expires publicKey
      (s.countOf (sv.suite.checksum content, publicKey)) where
  again passphrase expires' clock := sign_meets h passphrase expires' clock
  expired clock t till late := by
    obtain ⟨r, there, own, met⟩ := verify_meets trusted h integrity clock
    have gone := SignedRecord.isExpired_iff.2 ⟨t, own.trans till, late⟩
    obtain ⟨-, told, same⟩ | ⟨lasts, -⟩ := met
    · exact ⟨r, there, Prod.ext told same⟩
    · rw [gone] at lasts
      cases lasts
  verified clock lasts := by
    obtain ⟨r, there, own, met⟩ := verify_meets trusted h integrity clock
    obtain ⟨gone, -⟩ | ⟨-, r', told, follows, stored⟩ := met
    · obtain ⟨t, till, late⟩ := SignedRecord.isExpired_iff.1 gone
      exact absurd late (lasts t (own.symm.trans till))
    · refine ⟨r', _, Prod.ext told rfl, stored, ?_⟩
      have there' : s.signatures.get? (sv.suite.checksum content, publicKey) = some r := there
      rw [follows.toNat_verifications (below r (Table.mem_values_of_get? there)), Store.countOf,
        there', Nat.add_comm]

/-- **The life of a signature.**  At any point of a run after a member signed some content, signing
it again is refused, and the content is verified until the signature expires, the count being that
of the verified outcomes before.  A verification that does not succeed changes nothing. -/
theorem signature_life (sv : Service) (trusted : sv.suite.Signs) (run : List Turn)
    (below : ∀ early, early <+: run → ∀ r ∈ (sv.after early).store.signatures.values,
      r.verifications.toNat + 1 < 2 ^ 64) :
    (∀ before actor passphrase content expires clock later signed,
      run = before ++ ⟨.sign actor passphrase content expires, clock⟩ :: later →
      (sv.serve (sv.after before).store ⟨.sign actor passphrase content expires, clock⟩).1 =
        .ok signed →
      StaysSigned sv (sv.after run).store actor content expires signed.publicKey
        ((sv.answers run).countP
          (Answered.isVerified (sv.suite.checksum content, signed.publicKey)))) ∧
    ∀ signer checksum content clock,
      let served := sv.serve (sv.after run).store ⟨.verify signer checksum content, clock⟩
      (∀ v, served.1 = .ok v → v.succeeded = false) → served.2 = (sv.after run).store := by
  constructor
  · rintro before actor passphrase content expires clock later signed rfl told
    have start := Store.WellFormed.after sv before
    have integrity := (Store.WellFormed.after sv
      (before ++ ⟨.sign actor passphrase content expires, clock⟩ :: later)).toIntegrity
    rw [← count_after _ below]
    refine HasSigned.staysSigned ?_ trusted integrity (below _ (List.prefix_refl _))
    rw [after_append, proceedAll_cons]
    have served := serve_effect sv (sv.after before).store
      ⟨.sign actor passphrase content expires, clock⟩
    rw [told] at served
    exact served.hasSigned.proceedAll (start.toIntegrity.run _ clock) later
  · intro signer checksum content clock
    exact (serve_effect sv _ ⟨.verify signer checksum content, clock⟩).eq_of_failed_verify

section SmallCircle

open SmallCircle

/-- Alice signs two bytes. -/
def signing : Turn := turn 50 (.sign alice "correct horse" [104, 105] (some 100))

/-- What Alice signed is verified, she changes her passphrase, and other bytes are not verified. -/
def afterSigning : List Turn :=
  [turn 60 (.verify alice (service.suite.checksum [104, 105]) [104, 105]),
    turn 70 (.changePassphrase alice "correct horse" "tr0ub4dor&3" (protection 9)),
    turn 80 (.verify alice (service.suite.checksum [104, 105]) [104])]

theorem signature_life_smallCircle :
    ∃ signed, (service.serve (service.after founded).store signing).1 = .ok signed ∧
      StaysSigned service (service.after (founded ++ signing :: afterSigning)).store alice
        [104, 105] (some 100) signed.publicKey 1 := by
  let publicKey := (PrivateKey.publicKey service.suite ⟨drawn 32 1⟩).toText
  have key : (service.serve (service.after founded).store signing).1.toOption.map
      SignedRecord.publicKey = some publicKey := by
    decide +kernel
  have below : ∀ early ∈ (founded ++ signing :: afterSigning).inits,
      ∀ r ∈ (service.after early).store.signatures.values,
        r.verifications.toNat + 1 < 2 ^ 64 := by
    decide +kernel
  have once : (service.answers (founded ++ signing :: afterSigning)).countP
      (Answered.isVerified (service.suite.checksum [104, 105], publicKey)) = 1 := by
    decide +kernel
  cases told : (service.serve (service.after founded).store signing).1 with
  | error e =>
      rw [told] at key
      cases key
  | ok signed =>
      rw [told] at key
      have own : signed.publicKey = publicKey := Option.some.inj key
      have life := signature_life service Suite.transparent_sound.signs
        (founded ++ signing :: afterSigning)
        fun early part => below early ((List.mem_inits _ _).2 part)
      refine ⟨signed, rfl, ?_⟩
      rw [← once, ← own]
      exact life.1 founded alice "correct horse" [104, 105] (some 100) _ afterSigning signed rfl
        told

end SmallCircle

end Service

end CircleVault
