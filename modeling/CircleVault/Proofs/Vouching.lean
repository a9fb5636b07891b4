import CircleVault.Proofs.Armor
import CircleVault.Proofs.SignatureLife
import CircleVault.Suite.Standard

/-!
# What a verification vouches for

Verifying looks at the signature of a record, and neither at the checksum nor at the public key that
stand beside it: the checksum is made afresh from the content, and the key is handed in.  A record
that belongs to other content, or to another key, is verified all the same if its signature is good
(`SignedRecord.mislabelled_verified`).

So what a verified outcome says of these two fields depends on how they got there.  Where the
signature is good for what the record says (`SignedRecord.Agrees`), the record says what was
verified, or the one signature is good for two things at once (`Signature.Ambiguous`).  The second
happens: under the public key that is the neutral point of the curve, one signature is good for
every message (`SignedRecord.unbound`).

Every record in the service's store was made by signing, with the private key of its public key
(`Service.SignedIn`), and is looked up by the checksum asked for and the public key of the member.
There a verified outcome vouches for the content, unless the signature that a private key makes of
one checksum is accepted for another (`PrivateKey.Confuses`).  Of the suite nothing is assumed.
-/

namespace CircleVault

open SignedRecord

/-! ## What signatures are good for -/

/-- A signature is accepted for two checksums, or by two keys. -/
structure Signature.Ambiguous (S : Suite) (s : Signature) (one other : PublicKey × Checksum) :
    Prop where
  different : one ≠ other
  accepted : one.1.verifies S (message one.2) s = true
  accepted_other : other.1.verifies S (message other.2) s = true

/-- What a private key signs for one checksum is accepted for another. -/
structure PrivateKey.Confuses (S : Suite) (key : PrivateKey) (signed other : Checksum) : Prop where
  different : signed ≠ other
  accepted : (key.publicKey S).verifies S (message other) (key.sign S (message signed)) = true

namespace SignedRecord

/-- The signature is accepted for the checksum of the record, by a key that is its public key. -/
structure Agrees (S : Suite) (r : SignedRecord) (signer : PublicKey) : Prop where
  publicKey : r.publicKey = signer.toText
  accepted : signer.verifies S (message r.checksum) r.signature = true

/-- The signature was made for the checksum of the record, by a key whose public side is its public
key. -/
structure Genuine (S : Suite) (r : SignedRecord) (key : PrivateKey) : Prop where
  publicKey : r.publicKey = (key.publicKey S).toText
  signature : r.signature = key.sign S (message r.checksum)

variable {S : Suite} {key signer : PublicKey} {content : Bytes} {r r' : SignedRecord}
  {now : Timestamp}

lemma verify_succeeded_iff :
    (r.verify S key content now).succeeded = true ↔
      r.isExpired now = false ∧
        key.verifies S (message (S.checksum content)) r.signature = true := by
  rw [verify]
  split
  · next late =>
      refine ⟨fun success => (by cases success), fun lasts => ?_⟩
      rw [late] at lasts
      cases lasts.1
  · next lasts =>
      rw [Bool.not_eq_true] at lasts
      split
      · next accepted => exact ⟨fun _ => ⟨lasts, accepted⟩, fun _ => rfl⟩
      · next refused => exact ⟨fun success => (by cases success), fun h => absurd h.2 refused⟩

lemma verify_follows (success : (r.verify S key content now).succeeded = true) :
    (r.verify S key content now).record.Follows r := by
  rw [verify_succeeded success]
  exact ⟨⟨rfl, rfl, rfl, rfl, rfl⟩, rfl, r.verifiedAt now, rfl, fun _ => lt_verifiedAt⟩

/-- What is verified of a record whose signature agrees with it is what the record says, unless the
signature is ambiguous. -/
lemma Agrees.vouches (h : r.Agrees S signer)
    (success : (r.verify S key content now).succeeded = true) :
    (r.checksum = S.checksum content ∧ r.publicKey = key.toText) ∨
      r.signature.Ambiguous S (signer, r.checksum) (key, S.checksum content) := by
  by_cases same : (signer, r.checksum) = (key, S.checksum content)
  · obtain ⟨rfl, checksum⟩ := Prod.mk.inj same
    exact .inl ⟨checksum, h.publicKey⟩
  · exact .inr ⟨same, h.accepted, (verify_succeeded_iff.1 success).2⟩

lemma Genuine.of_sameSigning {key : PrivateKey} (h : r.Genuine S key) (same : r'.SameSigning r) :
    r'.Genuine S key := by
  refine ⟨same.publicKey.trans h.publicKey, ?_⟩
  rw [same.signature, same.checksum]
  exact h.signature

/-! ### Records that do not say what is verified -/

/-- An ordinary public key. -/
def honestKey : PublicKey :=
  ⟨.ofNatLE 32 0x12db8198060e969700d35e6a7bfacfb76cab2e5fe1423245241d799bd1f85221⟩

/-- The public key that is the neutral point of the curve. -/
def neutralKey : PublicKey := ⟨.ofNatLE 32 1⟩

/-- A signature of no bytes at all under the ordinary key, in a record of other content and another
key. -/
def mislabelled : SignedRecord where
  checksum := Suite.standard.checksum (Text.utf8 "hello world")
  publicKey := neutralKey.toText
  signature := ⟨.ofNatLE 64
    (0xb994a332f7d29a1c6a414d7b577cd36a23b1b1c029cc72b7be433b21744a4679 +
      2 ^ 256 * 0x0fe944ca686d9ccc768e3ecbb17f844914a4c6001b86ff8999b7ebe7f0a1a58d)⟩
  expires := none
  verifications := 0
  lastVerification := none
  added := 0
  altered := 0

/-- The record with a signature that the neutral point accepts for every message: the base point
and the scalar one. -/
def unbound : SignedRecord :=
  { mislabelled with
    signature := ⟨.ofNatLE 64
      (0x6666666666666666666666666666666666666666666666666666666666666658 + 2 ^ 256 * 1)⟩ }

/-- A verified record need not say what was verified, even if its own signature agrees with it. -/
theorem mislabelled_verified :
    ((mislabelled.verify .standard honestKey [] 0).succeeded = true ∧
      mislabelled.checksum ≠ Suite.standard.checksum [] ∧
      mislabelled.publicKey ≠ honestKey.toText) ∧
    (Suite.standard.isPublic neutralKey.bytes = true ∧ unbound.publicKey = neutralKey.toText ∧
      neutralKey.verifies .standard (message unbound.checksum) unbound.signature = true) ∧
    (unbound.verify .standard neutralKey [] 0).succeeded = true ∧
      unbound.checksum ≠ Suite.standard.checksum [] := by
  decide +kernel

end SignedRecord

namespace Service

variable {sv : Service} {s s' : Store} {run : List Turn} {r r' : SignedRecord} {key : PrivateKey}

/-! ## Where stored records come from -/

/-- A record stems from signing some content of its checksum, in a run, with a private key. -/
structure SignedIn (sv : Service) (run : List Turn) (r : SignedRecord) (key : PrivateKey) :
    Prop where
  genuine : r.Genuine sv.suite key
  signing : ∃ actor passphrase content expires signed,
    (⟨.sign actor passphrase content expires, .ok signed⟩ : Answered) ∈ sv.answers run ∧
      r.SameSigning signed ∧ r.checksum = sv.suite.checksum content

namespace SignedIn

lemma of_sameSigning (h : sv.SignedIn run r key) (same : r'.SameSigning r) :
    sv.SignedIn run r' key := by
  obtain ⟨actor, passphrase, content, expires, signed, told, made, checksum⟩ := h.signing
  exact ⟨h.genuine.of_sameSigning same, actor, passphrase, content, expires, signed, told,
    same.trans made, same.checksum.trans checksum⟩

lemma concat (h : sv.SignedIn run r key) (t : Turn) : sv.SignedIn (run ++ [t]) r key := by
  obtain ⟨actor, passphrase, content, expires, signed, told, made⟩ := h.signing
  refine ⟨h.genuine, actor, passphrase, content, expires, signed, ?_, made⟩
  rw [answers_concat]
  exact List.mem_append_left _ told

end SignedIn

/-- A record after an operation was there before, or the operation signed it. -/
lemma Effect.traced {o : Operation} {result : Except Failure o.Result} (e : Effect sv s o result s')
    (integrity : s.Integrity) {k : Checksum × String} (there : s'.signatures.get? k = some r') :
    (∃ r, s.signatures.get? k = some r ∧ r'.SameSigning r) ∨
      ∃ key, r'.Genuine sv.suite key ∧ ∃ actor passphrase content expires,
        (⟨o, result⟩ : Answered) = ⟨.sign actor passphrase content expires, .ok r'⟩ ∧
          r'.checksum = sv.suite.checksum content := by
  have frame := e.frame.2.2
  cases e with
  | refused => exact .inl ⟨r', there, .refl r'⟩
  | answered => exact .inl ⟨r', there, .refl r'⟩
  | unverified => exact .inl ⟨r', there, .refl r'⟩
  | @signed actor passphrase content expires signer key stored _ _ _ _ _ _ wrote =>
      obtain ⟨added, -, made, rfl⟩ := Store.upsertSignature_eq_ok.1 wrote
      rw [Table.get?_insert] at there
      split at there
      · obtain rfl := Option.some.inj there
        refine .inr ⟨key, ?_, actor, passphrase, content, expires, rfl, ?_⟩
        · rw [made]
          exact ⟨rfl, rfl⟩
        · rw [made]
          rfl
      · exact .inl ⟨r', there, .refl r'⟩
  | @verified _ _ _ _ _ o stored moment now _ _ _ found success wrote =>
      obtain ⟨rfl, owner, follows, signatures⟩ :=
        upsertSignature_verified integrity found success wrote
      rw [← owner] at found
      rw [signatures, Table.get?_insert] at there
      split at there
      · next own =>
          obtain rfl := Option.some.inj there
          rw [own]
          exact .inl ⟨o, found, follows.same⟩
      · exact .inl ⟨r', there, .refl r'⟩
  | _ =>
      rw [frame rfl] at there
      exact .inl ⟨r', there, .refl r'⟩

/-- **Every stored record was signed.** -/
theorem stored_signedIn (sv : Service) (run : List Turn) {k : Checksum × String}
    (there : (sv.after run).store.signatures.get? k = some r) : ∃ key, sv.SignedIn run r key := by
  -- The run is taken apart from its end, where the last answer may be the one that signed.
  induction run using List.reverseRecOn generalizing r with
  | nil => cases there
  | append_singleton early t ih =>
      have effect := serve_effect sv (sv.after early).store t
      rw [after_append] at there
      obtain ⟨before, found, same⟩ | ⟨key, genuine, actor, passphrase, content, expires, told,
          checksum⟩ :=
        effect.traced (Store.WellFormed.after sv early).toIntegrity there
      · obtain ⟨key, signed⟩ := ih found
        exact ⟨key, (signed.of_sameSigning same).concat t⟩
      · refine ⟨key, genuine, actor, passphrase, content, expires, r, ?_, .refl r, checksum⟩
        rw [answers_concat, told]
        exact List.mem_append_right _ (List.mem_singleton_self _)

/-! ## Verifying through the service -/

/-- What was found and checked where the service answers that a record is verified. -/
lemma Effect.verified_found {signer : MemberId} {signed : Checksum} {content : Bytes}
    {v : Verification} (e : Effect sv s (.verify signer signed content) (.ok v) s')
    (integrity : s.Integrity) (success : v.succeeded = true) :
    ∃ m key r, s.member? signer = some m ∧ m.readPublicKey sv.suite = .ok key ∧
      s.signature? signed m.publicKey = some r ∧ v.record.SameSigning r ∧
        key.verifies sv.suite (SignedRecord.message (sv.suite.checksum content)) r.signature =
          true := by
  cases e with
  | answered query => cases query
  | unverified _ _ _ failure =>
      rw [failure] at success
      cases success
  | @verified _ _ _ m key r _ _ _ _ present parsed found success' wrote =>
      obtain ⟨-, -, follows, -⟩ := upsertSignature_verified integrity found success' wrote
      exact ⟨m, key, r, present, parsed, found, follows.same, (verify_succeeded_iff.1 success').2⟩

/-- **What a verification vouches for.**  Whether a record is verified depends on its expiry and its
signature alone.  If the signature agrees with the record, then what was verified is what the record
says, or the signature is ambiguous.  And at any point of a run of the service every record was
signed with the private key of its public key, so that a verified outcome tells whose signature of
which checksum was found, and that the content has this checksum unless that key confuses the
two. -/
theorem verification_vouches (sv : Service) (run : List Turn) :
    (∀ (r : SignedRecord) (key : PublicKey) (content : Bytes) (now : Timestamp),
      let v := r.verify sv.suite key content now
      (v.succeeded = true ↔
        r.isExpired now = false ∧
          key.verifies sv.suite (SignedRecord.message (sv.suite.checksum content)) r.signature =
            true) ∧
      (v.succeeded = true → v.record.Follows r ∧
        ∀ signer, r.Agrees sv.suite signer →
          (r.checksum = sv.suite.checksum content ∧ r.publicKey = key.toText) ∨
            r.signature.Ambiguous sv.suite (signer, r.checksum)
              (key, sv.suite.checksum content))) ∧
    (∀ r ∈ (sv.after run).store.signatures.values, ∃ key, sv.SignedIn run r key) ∧
    ∀ signer signed content clock v,
      (sv.serve (sv.after run).store ⟨.verify signer signed content, clock⟩).1 = .ok v →
      v.succeeded = true →
      v.record.checksum = signed ∧
      ∃ m key, (sv.after run).store.member? signer = some m ∧ v.record.publicKey = m.publicKey ∧
        sv.SignedIn run v.record key ∧
        (signed = sv.suite.checksum content ∨
          key.Confuses sv.suite signed (sv.suite.checksum content)) := by
  refine ⟨fun r key content now => ⟨verify_succeeded_iff, fun success => ?_⟩, fun r mem => ?_, ?_⟩
  · exact ⟨verify_follows success, fun signer agrees => agrees.vouches success⟩
  · obtain ⟨k, there⟩ := Table.mem_values.1 mem
    exact stored_signedIn sv run there
  · intro signer signed content clock v told success
    have integrity := (Store.WellFormed.after sv run).toIntegrity
    have served := serve_effect sv (sv.after run).store ⟨.verify signer signed content, clock⟩
    rw [told] at served
    obtain ⟨m, theirs, r, present, parsed, found, same, accepted⟩ :=
      served.verified_found integrity success
    obtain ⟨key, made⟩ := stored_signedIn sv run found
    obtain ⟨rfl, own⟩ := Prod.mk.inj (integrity.signature_key _ r found)
    -- The member's public key is the one that the record was signed with.
    obtain rfl : theirs = key.publicKey sv.suite := by
      rw [← PublicKey.toText_inj, ← (PublicKey.ofText_eq_ok_iff.1 parsed).1, ← own]
      exact made.genuine.publicKey
    refine ⟨same.checksum, m, key, present, same.publicKey.trans own, made.of_sameSigning same, ?_⟩
    rw [made.genuine.signature] at accepted
    by_cases right : r.checksum = sv.suite.checksum content
    · exact .inl right
    · exact .inr ⟨right, accepted⟩

end Service

end CircleVault
