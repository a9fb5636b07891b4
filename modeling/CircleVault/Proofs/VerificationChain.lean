import CircleVault.Proofs.Signatures
import CircleVault.Proofs.Transparent
import Mathlib.Data.Set.Basic
import Mathlib.Order.Bounds.Basic

/-!
# Chains of verifications

A record that was signed is verified time after time, each time as the verification before has left
it.  A `Tally` is the record somewhere in such a chain, together with the moments at which it was
verified so far, and `Tally.Accounts` is what it amounts to: the count is the number of these
moments, the time of the last verification is given in closed form by all of them (`LastOf`), and
nothing else of the record has changed.

A verification is recorded at its own moment, or right after the last one where the clock has not
moved on.  So a moment still shows in the time of the last verification, later by one for each
verification since, if no other moment does so further up; and the greatest timestamp is never
passed (`mem_recordable_concat`, `SignedRecord.lastOf_verifiedAt`).
-/

namespace CircleVault

/-- Content that is to be verified, at some moment. -/
structure Check where
  content : Bytes
  now : Timestamp

/-- A record in a chain of verifications, and the moments at which it was verified, oldest first. -/
structure Tally where
  record : SignedRecord
  moments : List Timestamp

namespace Tally

def check (S : Suite) (key : PublicKey) (a : Tally) (c : Check) : Tally :=
  let v := a.record.verify S key c.content c.now
  ⟨v.record, if v.succeeded then a.moments ++ [c.now] else a.moments⟩

/-- The record after one check after another. -/
def chain (S : Suite) (key : PublicKey) (r : SignedRecord) (checks : List Check) : Tally :=
  checks.foldl (check S key) ⟨r, []⟩

end Tally

/-! ## The time of the last verification -/

/-- Each of some moments, later by one for each moment after it. -/
def recordable (moments : List Timestamp) : Set ℤ :=
  {x | ∃ early now later, moments = early ++ now :: later ∧ x = now.toInt + later.length}

/-- The time of the last of the verifications at some moments: there is none without a verification,
and otherwise it is the greatest of the recordable times, short of the greatest timestamp. -/
def LastOf (moments : List Timestamp) : Option Timestamp → Prop
  | none => moments = []
  | some t => ∃ m, IsGreatest (recordable moments) m ∧ t.toInt = min Timestamp.greatest.toInt m

lemma mem_recordable_concat {moments : List Timestamp} {now : Timestamp} {x : ℤ} :
    x ∈ recordable (moments ++ [now]) ↔ x = now.toInt ∨ x - 1 ∈ recordable moments := by
  constructor
  · rintro ⟨early, moment, later, split, rfl⟩
    obtain rfl | ⟨later, last, rfl⟩ := later.eq_nil_or_concat
    · obtain ⟨-, same⟩ := List.append_inj' split rfl
      obtain rfl : now = moment := List.head_eq_of_cons_eq same
      exact .inl (by simp)
    · rw [List.concat_eq_append, ← List.cons_append, ← List.append_assoc] at split
      obtain ⟨same, -⟩ := List.append_inj' split rfl
      refine .inr ⟨early, moment, later, same, ?_⟩
      simp only [List.concat_eq_append, List.length_append, List.length_singleton]
      omega
  · rintro (rfl | ⟨early, moment, later, rfl, shifted⟩)
    · exact ⟨moments, now, [], rfl, by simp⟩
    · refine ⟨early, moment, later ++ [now], by simp, ?_⟩
      simp only [List.length_append, List.length_singleton]
      omega

lemma isGreatest_recordable_concat {moments : List Timestamp} {m : ℤ}
    (h : IsGreatest (recordable moments) m) (now : Timestamp) :
    IsGreatest (recordable (moments ++ [now])) (max now.toInt (m + 1)) := by
  constructor
  · rw [mem_recordable_concat]
    obtain later | later := le_total (m + 1) now.toInt
    · exact .inl (max_eq_left later)
    · rw [max_eq_right later, Int.add_sub_cancel]
      exact .inr h.1
  · intro x mem
    obtain rfl | before := mem_recordable_concat.1 mem
    · exact le_max_left _ _
    · have bound := h.2 before
      omega

namespace SignedRecord

/-- One verification more. -/
lemma lastOf_verifiedAt {r : SignedRecord} {moments : List Timestamp}
    (h : LastOf moments r.lastVerification) (now : Timestamp) :
    LastOf (moments ++ [now]) (some (r.verifiedAt now)) := by
  have high : now.toInt ≤ Timestamp.greatest.toInt := Int64.toInt_le now
  rw [verifiedAt]
  cases last : r.lastVerification with
  | none =>
      rw [last] at h
      obtain rfl : moments = [] := h
      refine ⟨now.toInt, ⟨⟨[], now, [], rfl, by simp⟩, fun x mem => ?_⟩, (min_eq_right high).symm⟩
      obtain rfl | ⟨early, moment, later, split, -⟩ := mem_recordable_concat.1 mem
      · exact le_rfl
      · cases (List.append_eq_nil_iff.1 split.symm).2
  | some previous =>
      rw [last] at h
      obtain ⟨m, greatest, closed⟩ := h
      refine ⟨_, isGreatest_recordable_concat greatest now, ?_⟩
      show (Timestamp.later now previous.following).toInt = _
      rw [Timestamp.toInt_later, Timestamp.toInt_following, closed]
      omega

end SignedRecord

/-! ## Whole chains -/

namespace Tally

open SignedRecord

variable {S : Suite} {key : PublicKey} {r : SignedRecord} {a : Tally}

/-- What a chain of verifications of a record that was never verified amounts to. -/
structure Accounts (r : SignedRecord) (a : Tally) : Prop where
  /-- Nothing but the count and the time of the last verification has changed. -/
  record : a.record =
    { r with
      verifications := a.record.verifications
      lastVerification := a.record.lastVerification }
  count : a.record.verifications = UInt64.ofNat a.moments.length
  last : LastOf a.moments a.record.lastVerification

lemma Accounts.start (count : r.verifications = 0) (last : r.lastVerification = none) :
    Accounts r ⟨r, []⟩ := by
  refine ⟨rfl, count, ?_⟩
  rw [last]
  rfl

/-- One check more. -/
lemma Accounts.check (h : Accounts r a) (S : Suite) (key : PublicKey) (c : Check) :
    Accounts r (a.check S key c) := by
  obtain ⟨fault, failed⟩ | counted := verify_cases S key c.content a.record c.now
  · have same : a.check S key c = a := by
      rw [Tally.check, failed]
      rfl
    rw [same]
    exact h
  · have next : a.check S key c = ⟨a.record.counted c.now, a.moments ++ [c.now]⟩ := by
      rw [Tally.check, counted]
      rfl
    rw [next]
    refine ⟨?_, ?_, lastOf_verifiedAt h.last c.now⟩
    · exact congrArg
        (fun o : SignedRecord =>
          { o with
            verifications := a.record.verifications + 1
            lastVerification := some (a.record.verifiedAt c.now) })
        h.record
    · show a.record.verifications + 1 = _
      rw [h.count, List.length_append, List.length_singleton, UInt64.ofNat_add]
      rfl

lemma Accounts.chain (h : Accounts r a) (checks : List Check) :
    Accounts r (checks.foldl (Tally.check S key) a) := by
  induction checks generalizing a with
  | nil => exact h
  | cons c rest ih => exact ih (h.check S key c)

end Tally

namespace SignedRecord

variable {S : Suite} {key : PublicKey} {content : Bytes} {r : SignedRecord} {now : Timestamp}

/-- Expiry is looked at before anything else. -/
lemma fault_eq_expired_iff :
    (r.verify S key content now).fault = some .expired ↔ r.isExpired now = true := by
  rw [verify]
  split
  · next late => exact ⟨fun _ => late, fun _ => rfl⟩
  · next lasts =>
      refine ⟨fun expired => ?_, fun late => absurd late lasts⟩
      split at expired <;> cases expired

lemma record_of_failed (failed : (r.verify S key content now).succeeded = false) :
    (r.verify S key content now).record = r := by
  obtain ⟨fault, same⟩ | counted := verify_cases S key content r now
  · rw [same]
  · rw [counted] at failed
    cases failed

end SignedRecord

/-- **The account of a chain of verifications.**  However often a signed record has been checked,
for whatever content and at whatever moments, the count is the number of checks that succeeded, the
time of the last of them is the closed form of their moments, and nothing else has changed.  The
next check finds it expired exactly after its expiry, succeeds for the signed content before, leaves
the record unless it succeeds, and if it does, moves the time of the last verification on. -/
theorem Tally.chain_accounts (S : Suite) (accepts : S.AcceptsOwn) (key : PrivateKey)
    (content : Bytes) (expires : Option Timestamp) (signed : Timestamp) (checks : List Check) :
    let r := SignedRecord.sign S key content expires signed
    let a := chain S (key.publicKey S) r checks
    (a.record =
      { r with
        verifications := a.record.verifications
        lastVerification := a.record.lastVerification }) ∧
    (a.moments.length < 2 ^ 64 → a.record.verifications.toNat = a.moments.length) ∧
    LastOf a.moments a.record.lastVerification ∧
    ∀ c : Check,
      let v := a.record.verify S (key.publicKey S) c.content c.now
      (v.fault = some .expired ↔ ∃ t, expires = some t ∧ t < c.now) ∧
      (c.content = content → (∀ t, expires = some t → ¬t < c.now) → v.succeeded = true) ∧
      (v.succeeded = false → v.record = a.record) ∧
      (v.succeeded = true → ∃ t', v.record.lastVerification = some t' ∧
        ∀ t, a.record.lastVerification = some t → t < .greatest → t < t') := by
  intro r a
  have accounts : Accounts r a := (Accounts.start rfl rfl).chain checks
  have till : a.record.expires = expires := congrArg SignedRecord.expires accounts.record
  refine ⟨accounts.record, fun fits => ?_, accounts.last, fun c => ⟨?_, ?_, ?_, ?_⟩⟩
  · rw [accounts.count, UInt64.toNat_ofNat_of_lt' fits]
  · rw [SignedRecord.fault_eq_expired_iff, SignedRecord.isExpired_iff, till]
  · rintro same lasts
    have genuine : a.record.signature =
        key.sign S (SignedRecord.message (S.checksum c.content)) := by
      rw [congrArg SignedRecord.signature accounts.record, same]
      rfl
    have valid : a.record.isExpired c.now = false := by
      rw [← Bool.not_eq_true, SignedRecord.isExpired_iff, till]
      rintro ⟨t, expiry, late⟩
      exact lasts t expiry late
    rw [SignedRecord.verify_genuine accepts genuine, valid]
    rfl
  · exact SignedRecord.record_of_failed
  · intro success
    rw [SignedRecord.verify_succeeded success]
    exact ⟨_, rfl, fun t => SignedRecord.lt_verifiedAt⟩

section SmallCircle

open SmallCircle

/-- Alice's record of one byte, which expires just before the greatest timestamp. -/
def lasting : SignedRecord := .sign .transparent ⟨drawn 32 1⟩ [104] (some (.greatest - 1)) 5

/-- A check just in time, one by a clock that is far behind, another byte, one too late, and one
more: the time of the last verification reaches the greatest timestamp and stays there. -/
def saturating : List Check :=
  [⟨[104], .greatest - 1⟩, ⟨[104], 0⟩, ⟨[105], 0⟩, ⟨[104], .greatest⟩, ⟨[104], 7⟩]

theorem Tally.chain_accounts_saturating :
    Suite.transparent.AcceptsOwn ∧
      let a :=
        chain .transparent (PrivateKey.publicKey .transparent ⟨drawn 32 1⟩) lasting saturating
      a.moments = [.greatest - 1, 0, 7] ∧ a.moments.length < 2 ^ 64 ∧
        a.record.verifications.toNat = 3 ∧
        LastOf [.greatest - 1, 0, 7] (some .greatest) ∧
        (a.record.verify .transparent (PrivateKey.publicKey .transparent ⟨drawn 32 1⟩) [104]
          3).succeeded = true := by
  have accepts : Suite.transparent.AcceptsOwn := Suite.transparent_sound.verify_sign
  obtain ⟨-, count, last, next⟩ := chain_accounts .transparent accepts ⟨drawn 32 1⟩ [104]
    (some (.greatest - 1)) 5 saturating
  have moments : (chain .transparent (PrivateKey.publicKey .transparent ⟨drawn 32 1⟩) lasting
      saturating).moments = [.greatest - 1, 0, 7] := by
    decide +kernel
  have recorded : (chain .transparent (PrivateKey.publicKey .transparent ⟨drawn 32 1⟩) lasting
      saturating).record.lastVerification = some .greatest := by
    decide +kernel
  have few : (chain .transparent (PrivateKey.publicKey .transparent ⟨drawn 32 1⟩) lasting
      saturating).moments.length < 2 ^ 64 := by
    rw [moments]
    decide
  have lasts : ∀ t, some (Timestamp.greatest - 1) = some t → ¬t < 3 := by
    rintro t ⟨⟩
    decide
  refine ⟨accepts, moments, few, (count few).trans ?_, ?_, (next ⟨[104], 3⟩).2.1 rfl lasts⟩
  · exact congrArg List.length moments
  · rw [← moments, ← recorded]
    exact last

end SmallCircle

end CircleVault
