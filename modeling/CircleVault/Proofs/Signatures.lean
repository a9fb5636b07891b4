import CircleVault.Proofs.Armor
import CircleVault.Proofs.Writes
import Mathlib.Algebra.Group.Nat.Defs

/-!
# The account of a signature

Everything of a signature record stays as it was signed, except for the account of its
verifications (`SignedRecord.SameSigning`).  `SignedRecord.Follows` is one entry in this account:
one verification more, at a moment after the last.  A verification that succeeds yields a record
that the store accepts as such an entry, provided that the one verified is still the one stored
(`Store.upsertSignature_follows`); whatever is not exactly one verification ahead is refused
(`Store.upsertSignature_refused`).
-/

namespace CircleVault

/-! ## Moments -/

lemma Timestamp.toInt_greatest : greatest.toInt = 2 ^ 63 - 1 := by decide

/-- The next moment, as long as there is one. -/
lemma Timestamp.toInt_following (t : Timestamp) :
    t.following.toInt = min greatest.toInt (t.toInt + 1) := by
  have bottom : Int64.minValue.toInt = -2 ^ 63 := by decide
  have once : (1 : Timestamp).toInt = 1 := by decide
  have low := Int64.minValue_le_toInt t
  have high : t.toInt ≤ greatest.toInt := Int64.toInt_le t
  have top := toInt_greatest
  rw [following]
  split
  · next last =>
      rw [last]
      omega
  · next before =>
      have below : t.toInt ≠ greatest.toInt := fun same => before (Int64.toInt_inj.1 same)
      rw [Int64.toInt_add, once, Int.bmod_eq_of_le (by omega) (by omega)]
      omega

lemma Timestamp.toInt_later (a b : Timestamp) : (later a b).toInt = max a.toInt b.toInt := by
  rw [later]
  split
  · next before =>
      rw [Int64.lt_iff_toInt_lt] at before
      omega
  · next other =>
      rw [Int64.lt_iff_toInt_lt] at other
      omega

/-! ## What signing relies on -/

/-- What signing relies on: a key's own signature is accepted, and its public side is read back. -/
structure Suite.Signs (S : Suite) : Prop where
  isPublic_publicOf (seed : Block 32) : S.isPublic (S.publicOf seed) = true
  verify_sign (seed : Block 32) (message : Bytes) :
    S.verify (S.publicOf seed) message (S.sign seed message) = true

lemma Suite.Sound.signs {S : Suite} (sound : S.Sound) : S.Signs :=
  ⟨sound.isPublic_publicOf, sound.verify_sign⟩

/-- A key's own signature is accepted. -/
def Suite.AcceptsOwn (S : Suite) : Prop :=
  ∀ (seed : Block 32) (message : Bytes),
    S.verify (S.publicOf seed) message (S.sign seed message) = true

lemma PublicKey.ofText_publicKey {S : Suite} (trusted : S.Signs) (key : PrivateKey) :
    ofText S (key.publicKey S).toText = .ok (key.publicKey S) :=
  ofText_eq_ok_iff.2 ⟨rfl, trusted.isPublic_publicOf key.seed⟩

namespace SignedRecord

variable {S : Suite} {key : PublicKey} {content : Bytes} {r r' r'' : SignedRecord}
  {now : Timestamp}

lemma lt_verifiedAt {t : Timestamp} (last : r.lastVerification = some t) (low : t < .greatest) :
    t < r.verifiedAt now := by
  have following := t.toInt_following
  rw [Int64.lt_iff_toInt_lt] at low
  rw [verifiedAt, last, Int64.lt_iff_toInt_lt, Timestamp.toInt_later]
  omega

lemma isExpired_iff : r.isExpired now = true ↔ ∃ t, r.expires = some t ∧ t < now := by
  rw [isExpired]
  cases r.expires with
  | none => simp
  | some t => simp

/-! ## What a verification comes to -/

/-- A verification finds a fault and leaves the record, or counts. -/
lemma verify_cases (S : Suite) (key : PublicKey) (content : Bytes) (r : SignedRecord)
    (now : Timestamp) :
    (∃ fault, r.verify S key content now = ⟨r, some fault⟩) ∨
      r.verify S key content now = ⟨r.counted now, none⟩ := by
  rw [verify]
  split
  · exact .inl ⟨_, rfl⟩
  · split
    · exact .inr rfl
    · exact .inl ⟨_, rfl⟩

lemma verify_succeeded (h : (r.verify S key content now).succeeded = true) :
    r.verify S key content now = ⟨r.counted now, none⟩ := by
  obtain ⟨fault, failed⟩ | counted := verify_cases S key content r now
  · rw [failed] at h
    cases h
  · exact counted

/-- What a key signed is verified by it, unless it has expired. -/
lemma verify_genuine (accepts : S.AcceptsOwn) {key : PrivateKey}
    (genuine : r.signature = key.sign S (message (S.checksum content))) :
    r.verify S (key.publicKey S) content now =
      if r.isExpired now then ⟨r, some .expired⟩ else ⟨r.counted now, none⟩ := by
  have accepted : PublicKey.verifies S (key.publicKey S) (message (S.checksum content))
      (key.sign S (message (S.checksum content))) = true :=
    accepts key.seed _
  rw [verify, genuine, if_pos accepted]

/-! ## One record after another -/

/-- A count of 0 follows none but the greatest. -/
lemma zero_ne_next (below : r.verifications.toNat + 1 < 2 ^ 64) : 0 ≠ r.verifications + 1 := by
  intro next
  have wraps : (0 : UInt64).toNat = (r.verifications + 1).toNat := congrArg UInt64.toNat next
  rw [UInt64.toNat_add, UInt64.toNat_one, Nat.mod_eq_of_lt below] at wraps
  exact Nat.succ_ne_zero _ wraps.symm

/-- Two records say the same, but for the account of verifications. -/
structure SameSigning (r r' : SignedRecord) : Prop where
  checksum : r.checksum = r'.checksum
  publicKey : r.publicKey = r'.publicKey
  signature : r.signature = r'.signature
  expires : r.expires = r'.expires
  added : r.added = r'.added

@[refl] lemma SameSigning.refl (r : SignedRecord) : r.SameSigning r := ⟨rfl, rfl, rfl, rfl, rfl⟩

lemma SameSigning.symm (h : r.SameSigning r') : r'.SameSigning r :=
  ⟨h.checksum.symm, h.publicKey.symm, h.signature.symm, h.expires.symm, h.added.symm⟩

lemma SameSigning.trans (h : r.SameSigning r') (h' : r'.SameSigning r'') : r.SameSigning r'' where
  checksum := h.checksum.trans h'.checksum
  publicKey := h.publicKey.trans h'.publicKey
  signature := h.signature.trans h'.signature
  expires := h.expires.trans h'.expires
  added := h.added.trans h'.added

/-- A record accounts for one verification more than another, and the moment of the last is later
unless there is no later one. -/
structure Follows (r' r : SignedRecord) : Prop where
  same : r'.SameSigning r
  verifications : r'.verifications = r.verifications + 1
  lastVerification : ∃ t', r'.lastVerification = some t' ∧
    ∀ t, r.lastVerification = some t → t < .greatest → t < t'

lemma Follows.toNat_verifications (h : r'.Follows r) (below : r.verifications.toNat + 1 < 2 ^ 64) :
    r'.verifications.toNat = r.verifications.toNat + 1 := by
  rw [h.verifications, UInt64.toNat_add, UInt64.toNat_one, Nat.mod_eq_of_lt below]

end SignedRecord

/-! ## Storing one record over another -/

namespace Store

open SignedRecord

variable {s : Store} {r w : SignedRecord}

/-- What is exactly one verification ahead of the stored record takes its place. -/
lemma upsertSignature_next (now : Timestamp)
    (there : s.signature? w.checksum w.publicKey = some r)
    (next : w.verifications = r.verifications + 1) :
    s.upsertSignature now w =
      .ok { w with added := r.added, altered := s.tick now }
        { s with
          signatures := s.signatures.insert (w.checksum, w.publicKey)
            { w with added := r.added, altered := s.tick now }
          clock := s.tick now } := by
  rw [signature?] at there
  have added : s.signatureAdded w = .ok r.added := by
    rw [signatureAdded, there]
    exact if_pos next
  exact upsertSignature_eq_ok.2 ⟨r.added, added, rfl, rfl⟩

lemma signatureAdded_refused (there : s.signature? w.checksum w.publicKey = some r)
    (other : w.verifications ≠ r.verifications + 1) :
    ∃ violation, s.signatureAdded w = .error (.constraint violation) := by
  rw [signature?] at there
  rw [signatureAdded, there]
  simp only [if_neg other]
  split
  · exact ⟨_, rfl⟩
  · exact ⟨_, rfl⟩

/-- What is not exactly one verification ahead of the stored record is refused. -/
lemma upsertSignature_refused (now : Timestamp)
    (there : s.signature? w.checksum w.publicKey = some r)
    (other : w.verifications ≠ r.verifications + 1) :
    ∃ violation, s.upsertSignature now w = .error (.constraint violation) s := by
  obtain ⟨violation, refused⟩ := signatureAdded_refused there other
  exact ⟨violation, upsertSignature_of_refused refused⟩

/-- A verification of the stored record is stored in its place. -/
lemma upsertSignature_follows (now moment : Timestamp)
    (there : s.signature? r.checksum r.publicKey = some r) :
    ∃ r' s', s.upsertSignature now (r.counted moment) = .ok r' s' ∧ r'.Follows r ∧
      s'.signatures = s.signatures.insert (r.checksum, r.publicKey) r' := by
  refine ⟨_, _, upsertSignature_next (w := r.counted moment) now there rfl, ?_, rfl⟩
  exact ⟨⟨rfl, rfl, rfl, rfl, rfl⟩, rfl, r.verifiedAt moment, rfl, fun t => lt_verifiedAt⟩

end Store

end CircleVault
