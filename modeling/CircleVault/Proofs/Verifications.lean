import CircleVault.Proofs.Interleaving
import CircleVault.Proofs.Signatures
import CircleVault.Proofs.Transparent
import Mathlib.Data.List.Infix

/-!
# Verifications that race each other

Verifying reads a signature record, checks it, and writes it back with one verification more.
Others may do the same in between, or sign the same content afresh with the same key.  An `Attempt`
is one such endeavour, from the moment at which the signer's key is at hand: the end of the
service's verifying or signing (`Service.verify_eq`, `Service.sign_eq`), with any key and any
content.

Any number of attempts run in a `Scene`, their calls in any order.  `Attempt.Move` says what the
next call of an attempt comes to, given what the attempt read and the record that is stored: a write
is accepted exactly if the count that was read is still the stored one.  A count stands for one
version of the record, so a write that is accepted takes the place of the very record that was
verified.  Hence no verification is lost and none is counted twice: the count grows by the number of
writes accepted, and of all attempts that read the same count one at most has its write accepted
(`Attempt.verifications_tallied`).
-/

namespace CircleVault

open Program

/-! ## Attempts -/

/-- Store the record that a verification yielded, if it succeeded. -/
def storeVerified (v : Verification) : Program Verification := do
  if v.succeeded then
    let stored ← accepted (← call (.upsertSignature v.record))
    return { v with record := stored }
  else
    return v

/-- Verify content against a record that was read. -/
def verifyRead (S : Suite) (key : PublicKey) (content : Bytes) (r : SignedRecord) :
    Program Verification := do
  let now ← call .now
  storeVerified (r.verify S key content now)

/-- Verify content against the record stored for a checksum and a public key. -/
def verifyStored (S : Suite) (key : PublicKey) (content : Bytes) (signed : Checksum)
    (publicKey : String) : Program Verification := do
  let r ← found .noSignatureRecord (← call (.signature signed publicKey))
  verifyRead S key content r

/-- Sign content afresh, and store the signature. -/
def signAfresh (S : Suite) (key : PrivateKey) (content : Bytes) (expires : Option Timestamp) :
    Program SignedRecord := do
  let now ← call .now
  accepted (← call (.upsertSignature (SignedRecord.sign S key content expires now)))

lemma Service.verify_eq (sv : Service) (signer : MemberId) (signed : Checksum) (content : Bytes) :
    sv.verify signer signed content = (do
      let m ← sv.member signer
      let key ← of (m.readPublicKey sv.suite)
      verifyStored sv.suite key content signed m.publicKey) := rfl

lemma Service.sign_eq (sv : Service) (actor : MemberId) (passphrase : String) (content : Bytes)
    (expires : Option Timestamp) :
    sv.sign actor passphrase content expires = (do
      let signer ← sv.member actor
      let present ← call (.signature (sv.suite.checksum content) signer.publicKey)
      require present.isNone .alreadySigned
      let key ← of (signer.unlock sv.suite sv.kdf passphrase)
      signAfresh sv.suite key content expires) := rfl

/-- An attempt on a signature record: to verify some content against it, or to sign its content
afresh with its key. -/
inductive Attempt (S : Suite) (r₀ : SignedRecord) where
  | verify (key : PublicKey) (content : Bytes)
  | sign (key : PrivateKey) (content : Bytes) (expires : Option Timestamp)
      (checksum : S.checksum content = r₀.checksum)
      (publicKey : (key.publicKey S).toText = r₀.publicKey)

namespace Attempt

variable {S : Suite} {r₀ : SignedRecord}

abbrev Result : Attempt S r₀ → Type
  | verify .. => Verification
  | sign .. => SignedRecord

def program : (a : Attempt S r₀) → Program a.Result
  | verify key content => verifyStored S key content r₀.checksum r₀.publicKey
  | sign key content expires _ _ => signAfresh S key content expires

/-- Attempts that are about to begin. -/
def scene {ι : Type} (pool : ι → Attempt S r₀) (s : Store) : Scene fun i => (pool i).Result :=
  ⟨s, fun i => (pool i).program, []⟩

end Attempt

/-! ## What the log tells -/

/-- The signature record that a call found, if it looked for one. -/
def Call.signatureFound : (c : Call) → c.Answer → Option SignedRecord
  | .signature _ _, found => found
  | _, _ => none

/-- Whether a call stored a signature record. -/
def Call.storedSignature : (c : Call) → c.Answer → Bool
  | .upsertSignature _, .ok _ => true
  | _, _ => false

namespace Scene

variable {ι : Type} [DecidableEq ι] {α : ι → Type}

/-- The signature record that a participant read first. -/
def readBy (sc : Scene α) (i : ι) : Option SignedRecord :=
  sc.log.findSome? fun e => if e.participant = i then e.call.signatureFound e.answer else none

/-- Those whose signature writes were accepted, in order. -/
def accepted (sc : Scene α) : List ι :=
  (sc.log.filter fun e => e.call.storedSignature e.answer).map Exchange.participant

variable {sc : Scene α} {i : ι} {now : Timestamp} {c : Call} {next : c.Answer → Program (α i)}

lemma readBy_step (asks : sc.programs i = .ask c next) (j : ι) :
    (sc.step i now).readBy j = (sc.readBy j).or
      (if i = j then c.signatureFound (sc.store.answer now c).1 else none) := by
  rw [step_of_ask asks, readBy, readBy, List.findSome?_append, List.findSome?_singleton]

lemma accepted_step (asks : sc.programs i = .ask c next) :
    (sc.step i now).accepted =
      sc.accepted ++ if c.storedSignature (sc.store.answer now c).1 then [i] else [] := by
  rw [step_of_ask asks, accepted, accepted, List.filter_append, List.map_append,
    List.filter_cons, List.filter_nil]
  split <;> rfl

end Scene

/-! ## One call of an attempt -/

/-- A record is another, or an earlier version of it. -/
def SignedRecord.UpTo (v r : SignedRecord) : Prop :=
  v = r ∨ v.SameSigning r ∧ v.verifications.toNat < r.verifications.toNat

namespace SignedRecord.UpTo

variable {v r r' : SignedRecord}

lemma same (h : v.UpTo r) : v.SameSigning r := by
  obtain rfl | ⟨same, -⟩ := h
  · rfl
  · exact same

/-- A count stands for one version of a record. -/
lemma eq_of_count (h : v.UpTo r) (count : v.verifications = r.verifications) : v = r := by
  obtain rfl | ⟨-, less⟩ := h
  · rfl
  · exact absurd less (by simp [count])

lemma lt_of_follows (h : v.UpTo r) (follows : r'.Follows r)
    (below : r.verifications.toNat + 1 < 2 ^ 64) :
    v.SameSigning r' ∧ v.verifications.toNat < r'.verifications.toNat := by
  refine ⟨h.same.trans follows.same.symm, ?_⟩
  rw [follows.toNat_verifications below]
  obtain rfl | ⟨-, less⟩ := h
  · exact Nat.lt_succ_self _
  · exact Nat.lt_succ_of_lt less

end SignedRecord.UpTo

namespace Attempt

variable {S : Suite} {r₀ r : SignedRecord} {s : Store} {now : Timestamp}

/-- How far an attempt has come: the record that it read, and the rest of its program. -/
inductive Stage : (a : Attempt S r₀) → Option SignedRecord → Program a.Result → Prop where
  | start (a : Attempt S r₀) : Stage a none a.program
  | reading {key : PublicKey} {content : Bytes} (v : SignedRecord) :
      Stage (.verify key content) (some v) (verifyRead S key content v)
  | storing {key : PublicKey} {content : Bytes} {v w : SignedRecord} {moment : Timestamp}
      (verified : v.verify S key content moment = ⟨w, none⟩) :
      Stage (.verify key content) (some v) (storeVerified ⟨w, none⟩)
  | signing {key : PrivateKey} {content : Bytes} {expires : Option Timestamp}
      {checksum : S.checksum content = r₀.checksum}
      {publicKey : (key.publicKey S).toText = r₀.publicKey} (moment : Timestamp) :
      Stage (.sign key content expires checksum publicKey) none
        (.ask (.upsertSignature (SignedRecord.sign S key content expires moment)) accepted)
  | finished {a : Attempt S r₀} {read : Option SignedRecord} (result : Except Failure a.Result) :
      Stage a read (.done result)

/-- What the next call of an attempt comes to, from the record that it read and the rest of its
program, if `r` is the record stored. -/
inductive Move (r : SignedRecord) (s : Store) (now : Timestamp) (a : Attempt S r₀)
    (read : Option SignedRecord) (p : Program a.Result) : Prop where
  | idle (result : Except Failure a.Result) (finished : p = .done result)
  | asked {c : Call} {next : c.Answer → Program a.Result} (asks : p = .ask c next)
      (only : c = .now ∨ c = .signature r₀.checksum r₀.publicKey)
      (same : (s.answer now c).2 = s)
  /-- The count that was read is the stored one. -/
  | counted {key : PublicKey} {content : Bytes} {v w r' : SignedRecord} {moment : Timestamp}
      {s' : Store} {next : Except StoreFailure SignedRecord → Program a.Result}
      (own : a = .verify key content) (had : read = some v)
      (verified : v.verify S key content moment = ⟨w, none⟩)
      (asks : p = .ask (.upsertSignature w) next)
      (current : v.verifications = r.verifications)
      (accepted : s.answer now (.upsertSignature w) = (.ok r', s'))
      (stored : s'.signature? r₀.checksum r₀.publicKey = some r') (follows : r'.Follows r)
  /-- Somebody else's verification was counted in between. -/
  | stale {key : PublicKey} {content : Bytes} {v w : SignedRecord} {moment : Timestamp}
      {next : Except StoreFailure SignedRecord → Program a.Result} {violation : Violation}
      (own : a = .verify key content) (had : read = some v)
      (verified : v.verify S key content moment = ⟨w, none⟩)
      (asks : p = .ask (.upsertSignature w) next)
      (other : v.verifications ≠ r.verifications)
      (refused : s.answer now (.upsertSignature w) = (.error (.constraint violation), s))
  | signed {key : PrivateKey} {content : Bytes} {expires : Option Timestamp}
      {checksum : S.checksum content = r₀.checksum}
      {publicKey : (key.publicKey S).toText = r₀.publicKey} {moment : Timestamp} {w : SignedRecord}
      {next : Except StoreFailure SignedRecord → Program a.Result} {violation : Violation}
      (own : a = .sign key content expires checksum publicKey)
      (fresh : w = SignedRecord.sign S key content expires moment)
      (asks : p = .ask (.upsertSignature w) next)
      (refused : s.answer now (.upsertSignature w) = (.error (.constraint violation), s))

variable {a : Attempt S r₀} {read : Option SignedRecord} {p : Program a.Result}

/-- An attempt goes on with what it is answered. -/
lemma Stage.next (h : Stage a read p) {c : Call} {next : c.Answer → Program a.Result}
    (asks : p = .ask c next) (answer : c.Answer) :
    Stage a (read.or (c.signatureFound answer)) (next answer) := by
  cases h with
  | start =>
      cases a with
      | verify key content =>
          cases asks
          cases answer with
          | none => exact .finished _
          | some v => exact .reading v
      | sign key content expires checksum publicKey =>
          cases asks
          exact .signing answer
  | @reading key content v =>
      cases asks
      show Stage (.verify key content) (some v) (storeVerified (v.verify S key content answer))
      obtain ⟨fault, failed⟩ | counted := SignedRecord.verify_cases S key content v answer
      · rw [failed]
        exact .finished _
      · rw [counted]
        exact .storing counted
  | storing =>
      cases asks
      cases answer with
      | error e => exact .finished _
      | ok stored => exact .finished _
  | signing =>
      cases asks
      cases answer with
      | error e => exact .finished _
      | ok stored => exact .finished _
  | finished => cases asks

/-- The next call of an attempt, wherever the attempt stands. -/
theorem Stage.move (h : Stage a read p) (now : Timestamp)
    (there : s.signature? r₀.checksum r₀.publicKey = some r) (same : r.SameSigning r₀)
    (below : r.verifications.toNat + 1 < 2 ^ 64) (earlier : ∀ v, read = some v → v.UpTo r) :
    Move r s now a read p := by
  cases h with
  | start =>
      cases a with
      | verify key content => exact .asked rfl (.inr rfl) rfl
      | sign key content expires checksum publicKey => exact .asked rfl (.inl rfl) rfl
  | reading v => exact .asked rfl (.inl rfl) rfl
  | @storing key content v w moment verified =>
      have success := SignedRecord.verify_succeeded (congrArg Verification.succeeded verified)
      obtain rfl : w = v.counted moment :=
        congrArg Verification.record (verified.symm.trans success)
      have version := earlier v rfl
      by_cases current : v.verifications = r.verifications
      -- The very record that was verified is still the one stored.
      · obtain rfl := version.eq_of_count current
        rw [← same.checksum, ← same.publicKey] at there
        obtain ⟨r', s', wrote, follows, signatures⟩ :=
          Store.upsertSignature_follows now moment there
        refine .counted rfl rfl verified rfl rfl (congrArg Store.settle wrote) ?_ follows
        rw [Store.signature?, signatures, same.checksum, same.publicKey, Table.get?_insert_self]
      · have own := version.same.trans same
        rw [← own.checksum, ← own.publicKey] at there
        obtain ⟨violation, refused⟩ := Store.upsertSignature_refused
          (w := v.counted moment) now there fun next => current ((UInt64.add_left_inj 1).1 next)
        exact .stale rfl rfl verified rfl current (congrArg Store.settle refused)
  | @signing key content expires checksum publicKey moment =>
      rw [← checksum, ← publicKey] at there
      -- A fresh signature has a count of 0, and the stored one is not the greatest.
      obtain ⟨violation, refused⟩ := Store.upsertSignature_refused
        (w := SignedRecord.sign S key content expires moment) now there
        (SignedRecord.zero_ne_next below)
      exact .signed rfl rfl rfl (congrArg Store.settle refused)
  | finished result => exact .idle result rfl

/-! ## Any order of calls -/

section Runs

variable {ι : Type} [DecidableEq ι] {pool : ι → Attempt S r₀}

/-- The record that is stored, against what the log tells. -/
structure Tallies (sc : Scene fun i => (pool i).Result) (r : SignedRecord) : Prop where
  stored : sc.store.signature? r₀.checksum r₀.publicKey = some r
  /-- Nothing but the account of verifications changes. -/
  same : r.SameSigning r₀
  /-- Every write that is accepted counts once. -/
  count : r.verifications.toNat = r₀.verifications.toNat + sc.accepted.length
  /-- Of those who read the same count, one at most has its write accepted. -/
  once : (sc.accepted.map fun i => (sc.readBy i).map SignedRecord.verifications).Nodup

/-- Attempts under way. -/
structure Contest (sc : Scene fun i => (pool i).Result) (r : SignedRecord) : Prop
    extends Tallies sc r where
  stages : ∀ i, (pool i).Stage (sc.readBy i) (sc.programs i)
  /-- What was read is the stored record or an earlier version. -/
  earlier : ∀ i v, sc.readBy i = some v → v.UpTo r
  /-- The count of those whose writes were accepted has passed. -/
  passed : ∀ i ∈ sc.accepted, ∃ v, sc.readBy i = some v ∧
    v.verifications.toNat < r.verifications.toNat

variable {sc : Scene fun i => (pool i).Result}

lemma Contest.start (there : s.signature? r₀.checksum r₀.publicKey = some r₀) :
    Contest (scene pool s) r₀ where
  stored := there
  same := .refl r₀
  count := rfl
  once := .nil
  stages i := .start (pool i)
  earlier := nofun
  passed := nofun

lemma Contest.stages_step (h : Contest sc r) {i : ι} {c : Call}
    {next : c.Answer → Program (pool i).Result} (asks : sc.programs i = .ask c next)
    (now : Timestamp) (j : ι) :
    (pool j).Stage ((sc.step i now).readBy j) ((sc.step i now).programs j) := by
  rw [Scene.readBy_step asks, Scene.step_of_ask asks]
  by_cases own : i = j
  · subst own
    simp only [if_true, Function.update_self]
    exact (h.stages i).next asks _
  · simp only [if_neg own, Function.update_of_ne (Ne.symm own), Option.or_none]
    exact h.stages j

/-- A call that stores nothing, and finds the stored record if any. -/
lemma Contest.step_quiet (h : Contest sc r) {i : ι} {c : Call}
    {next : c.Answer → Program (pool i).Result} (asks : sc.programs i = .ask c next)
    (same : (sc.store.answer now c).2 = sc.store)
    (stores : c.storedSignature (sc.store.answer now c).1 = false)
    (finds : ∀ v, c.signatureFound (sc.store.answer now c).1 = some v → v = r) :
    Contest (sc.step i now) r := by
  have accepted : (sc.step i now).accepted = sc.accepted := by
    rw [Scene.accepted_step asks, stores]
    exact List.append_nil _
  have stays : ∀ j v, sc.readBy j = some v → (sc.step i now).readBy j = some v := by
    intro j v had
    rw [Scene.readBy_step asks, had, Option.some_or]
  have unmoved : (sc.step i now).accepted.map
      (fun j => ((sc.step i now).readBy j).map SignedRecord.verifications) =
        sc.accepted.map fun j => (sc.readBy j).map SignedRecord.verifications := by
    rw [accepted]
    refine List.map_congr_left fun j mem => ?_
    obtain ⟨v, had, -⟩ := h.passed j mem
    rw [stays j v had, had]
  exact
    { stored := by
        rw [Scene.step_of_ask asks, same]
        exact h.stored
      same := h.same
      count := by
        rw [accepted]
        exact h.count
      once := unmoved ▸ h.once
      stages := h.stages_step asks now
      earlier := by
        intro j v had
        rw [Scene.readBy_step asks, Option.or_eq_some_iff] at had
        obtain had | ⟨-, new⟩ := had
        · exact h.earlier j v had
        · split at new
          · exact .inl (finds v new)
          · cases new
      passed := by
        rw [accepted]
        intro j mem
        obtain ⟨v, had, less⟩ := h.passed j mem
        exact ⟨v, stays j v had, less⟩ }

lemma Contest.step_refused (h : Contest sc r) {i : ι} {w : SignedRecord} {e : StoreFailure}
    {next : Except StoreFailure SignedRecord → Program (pool i).Result}
    (asks : sc.programs i = .ask (.upsertSignature w) next)
    (refused : sc.store.answer now (.upsertSignature w) = (.error e, sc.store)) :
    Contest (sc.step i now) r := by
  refine h.step_quiet asks (by rw [refused]) ?_ nofun
  rw [refused]
  rfl

lemma Contest.step_counted (h : Contest sc r) (below : r.verifications.toNat + 1 < 2 ^ 64)
    {i : ι} {v w r' : SignedRecord} {s' : Store}
    {next : Except StoreFailure SignedRecord → Program (pool i).Result}
    (asks : sc.programs i = .ask (.upsertSignature w) next) (had : sc.readBy i = some v)
    (current : v.verifications = r.verifications)
    (wrote : sc.store.answer now (.upsertSignature w) = (.ok r', s'))
    (stored : s'.signature? r₀.checksum r₀.publicKey = some r') (follows : r'.Follows r) :
    Contest (sc.step i now) r' := by
  have grown := follows.toNat_verifications below
  have accepted : (sc.step i now).accepted = sc.accepted ++ [i] := by
    rw [Scene.accepted_step asks, wrote]
    rfl
  have reads : ∀ j, (sc.step i now).readBy j = sc.readBy j := by
    intro j
    rw [Scene.readBy_step asks]
    show (sc.readBy j).or (if i = j then none else none) = sc.readBy j
    rw [ite_self, Option.or_none]
  have unread : some r.verifications ∉
      sc.accepted.map fun j => (sc.readBy j).map SignedRecord.verifications := by
    -- Whoever was accepted before had read a count that has passed since.
    intro mem
    obtain ⟨j, mem, same⟩ := List.mem_map.1 mem
    obtain ⟨o, read, less⟩ := h.passed j mem
    rw [read, Option.map_some, Option.some.injEq] at same
    rw [same] at less
    exact Nat.lt_irrefl _ less
  exact
    { stored := by
        rw [Scene.step_of_ask asks, wrote]
        exact stored
      same := follows.same.trans h.same
      count := by
        rw [accepted, grown, h.count, List.length_append, List.length_singleton, Nat.add_assoc]
      once := by
        simp only [accepted, reads, List.map_append, List.map_singleton, had, Option.map_some,
          current]
        exact List.nodup_append.2 ⟨h.once, List.pairwise_singleton .., by
          rintro count mem new now rfl
          exact unread (List.mem_singleton.1 now ▸ mem)⟩
      stages := h.stages_step asks now
      earlier := by
        intro j o read
        rw [reads] at read
        exact .inr ((h.earlier j o read).lt_of_follows follows below)
      passed := by
        intro j mem
        rw [accepted, List.mem_append, List.mem_singleton] at mem
        rw [reads, grown]
        obtain mem | rfl := mem
        · obtain ⟨o, read, less⟩ := h.passed j mem
          exact ⟨o, read, Nat.lt_succ_of_lt less⟩
        · exact ⟨v, had, current ▸ Nat.lt_succ_self _⟩ }

/-- Every step of an attempt under way is a move, and leaves the attempts under way. -/
theorem Contest.step (h : Contest sc r) (below : r.verifications.toNat + 1 < 2 ^ 64) (i : ι)
    (now : Timestamp) : ∃ r', Contest (sc.step i now) r' := by
  cases (h.stages i).move now h.stored h.same below (h.earlier i) with
  | idle result finished =>
      rw [Scene.step_of_done finished]
      exact ⟨r, h⟩
  | asked asks only same =>
      refine ⟨r, h.step_quiet asks same ?_ ?_⟩
      · obtain rfl | rfl := only <;> rfl
      · obtain rfl | rfl := only
        · nofun
        · intro v found
          exact Option.some.inj (found.symm.trans h.stored)
  | counted _ had _ asks current accepted stored follows =>
      exact ⟨_, h.step_counted below asks had current accepted stored follows⟩
  | stale _ _ _ asks _ refused => exact ⟨r, h.step_refused asks refused⟩
  | signed _ _ asks refused => exact ⟨r, h.step_refused asks refused⟩

/-- **No verification is lost, and none is counted twice.**  Attempts on a stored signature record
run against a store, their calls in any order, while the count stays below the greatest.  Then the
count has grown by the writes that were accepted, and nothing else of the record has changed; and
whatever happens next, a write is accepted exactly if the count that its attempt read is the stored
one. -/
theorem verifications_tallied (pool : ι → Attempt S r₀) (s : Store)
    (stored : s.signature? r₀.checksum r₀.publicKey = some r₀) (schedule : List (ι × Timestamp))
    (below : ∀ early r, early <+: schedule →
      ((scene pool s).play early).store.signature? r₀.checksum r₀.publicKey = some r →
      r.verifications.toNat + 1 < 2 ^ 64) :
    ∃ r, Tallies ((scene pool s).play schedule) r ∧
      ∀ i now, Move r ((scene pool s).play schedule).store now (pool i)
        (((scene pool s).play schedule).readBy i) (((scene pool s).play schedule).programs i) := by
  have run : ∃ r, Contest ((scene pool s).play schedule) r := by
    refine Scene.play_invariant (P := fun sc => ∃ r, Contest sc r) schedule ?_ ⟨r₀, .start stored⟩
    rintro early i now part ⟨r, h⟩
    have before := (List.prefix_append early [(i, now)]).trans part
    exact h.step (below early r before h.stored) i now
  obtain ⟨r, h⟩ := run
  refine ⟨r, h.toTallies, fun i now => ?_⟩
  exact (h.stages i).move now h.stored h.same (below schedule r (List.prefix_refl _) h.stored)
    (h.earlier i)

end Runs

/-! ## Two who read the same count -/

section Race

open SmallCircle

/-- A key of Alice's. -/
def aliceKey : PrivateKey := ⟨drawn 32 1⟩

/-- What Alice signed. -/
def signedOnce : SignedRecord := .sign .transparent aliceKey [104, 105] none 5

/-- A store that holds what Alice signed. -/
def signedStore : Store :=
  { Store.empty with
    signatures := Store.empty.signatures.insert (signedOnce.checksum, signedOnce.publicKey)
      signedOnce }

/-- Two verify what Alice signed, while she signs it again. -/
def racers : Fin 3 → Attempt .transparent signedOnce
  | 0 | 1 => .verify (aliceKey.publicKey .transparent) [104, 105]
  | 2 => .sign aliceKey [104, 105] none rfl rfl

/-- Both read the record before either of them writes. -/
def race : List (Fin 3 × Timestamp) :=
  [(0, 10), (1, 11), (0, 12), (1, 13), (0, 14), (1, 15), (2, 16), (2, 17)]

theorem verifications_tallied_race :
    ((scene racers signedStore).play race).accepted = [0] ∧
      ∃ r, Tallies ((scene racers signedStore).play race) r ∧ r.verifications.toNat = 1 := by
  have stored :
      signedStore.signature? signedOnce.checksum signedOnce.publicKey = some signedOnce := by
    decide +kernel
  have below : ∀ early ∈ race.inits,
      (((scene racers signedStore).play early).store.signature? signedOnce.checksum
        signedOnce.publicKey).all (fun r => r.verifications.toNat + 1 < 2 ^ 64) = true := by
    decide +kernel
  have accepted : ((scene racers signedStore).play race).accepted = [0] := by decide +kernel
  obtain ⟨r, tallies, -⟩ := verifications_tallied racers signedStore stored race
    fun early r part found => by simpa [found] using below early ((List.mem_inits _ _).2 part)
  refine ⟨accepted, r, tallies, ?_⟩
  rw [tallies.count, accepted]
  rfl

end Race

end Attempt

end CircleVault
