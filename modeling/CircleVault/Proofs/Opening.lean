import CircleVault.Grant
import CircleVault.Proofs.Armor
import CircleVault.Proofs.Cbor.Stopping

/-!
# How opening a circle fails

A circle's secret is recovered from a grant, a member's record and a passphrase, and any part of the
records may be damaged, several parts at once.  `Grant.Answers` says what the caller is told in each
case.  Whose grant it is comes first, then whether its envelope can be read at all, then whether the
passphrase opens the private key; only behind the passphrase is damage looked for.  So a wrong
passphrase is told apart from a corrupted record, and both from an envelope that does not open.

Each stage has its successes in one lemma and its failures in another, and `Grant.opening_answers`
puts them together.  Nothing is assumed of the cipher suite.
-/

namespace CircleVault

variable {S : Suite} {kdf : KeyStretching}

lemma Block.ofBytes?_eq_none_iff {n : Nat} {b : Bytes} : ofBytes? n b = none ↔ b.length ≠ n := by
  rw [ofBytes?]
  split
  · next size => simp only [reduceCtorEq, size, ne_eq, not_true_eq_false]
  · next other => exact ⟨fun _ => other, fun _ => rfl⟩

lemma PrivateKey.ofBytes_eq_ok_iff {b : Bytes} {key : PrivateKey} :
    ofBytes b = .ok key ↔ b = key.seed.toBytes := by
  rw [ofBytes, ← Block.ofBytes?_eq_some_iff]
  cases Block.ofBytes? 32 b with
  | none => simp only [reduceCtorEq]
  | some seed =>
      obtain ⟨seed'⟩ := key
      simp only [Except.ok.injEq, PrivateKey.mk.injEq, Option.some.injEq]

lemma PrivateKey.ofBytes_eq_error_iff {b : Bytes} {e : Failure} :
    ofBytes b = .error e ↔ b.length ≠ 32 ∧ e = .privateKeySize := by
  rw [ofBytes, ← Block.ofBytes?_eq_none_iff]
  cases Block.ofBytes? 32 b with
  | none => simp only [Except.error.injEq, true_and, eq_comm]
  | some seed => simp only [reduceCtorEq, false_and]

lemma SecretKey.ofBytes_eq_ok_iff {b : Bytes} {key : SecretKey} :
    ofBytes b = .ok key ↔ b = key.bytes.toBytes ∧ key.salt = none := by
  rw [ofBytes, ← Block.ofBytes?_eq_some_iff]
  cases Block.ofBytes? 32 b with
  | none => simp only [reduceCtorEq, false_and]
  | some k =>
      obtain ⟨bytes, salt⟩ := key
      simp only [Except.ok.injEq, SecretKey.mk.injEq, Option.some.injEq, eq_comm]

lemma SecretKey.ofBytes_eq_error_iff {b : Bytes} {e : Failure} :
    ofBytes b = .error e ↔ b.length ≠ 32 ∧ e = .secretKeySize b.length := by
  rw [ofBytes, ← Block.ofBytes?_eq_none_iff]
  cases Block.ofBytes? 32 b with
  | none => simp only [Except.error.injEq, true_and, eq_comm]
  | some k => simp only [reduceCtorEq, false_and]

/-! ## The private key -/

namespace Member

variable {m : Member} {passphrase : String} {key : PrivateKey} {e : Failure}

/-- What the private key's data holds, if it opens under the key that the passphrase yields. -/
def opened? (S : Suite) (kdf : KeyStretching) (m : Member) (passphrase : String) : Option Bytes :=
  S.openData (kdf.derive S passphrase m.salt).bytes m.privateKey.salt.bytes m.privateKey.bytes

/-- The private key is the one of the member's public key. -/
def Owns (S : Suite) (m : Member) (key : PrivateKey) : Prop :=
  (key.publicKey S).toText = m.publicKey

lemma decrypt_eq (S : Suite) (kdf : KeyStretching) (m : Member) (passphrase : String) :
    m.privateKey.decrypt S (kdf.derive S passphrase m.salt) =
      match m.opened? S kdf passphrase with
      | some b => .ok b
      | none => .error .dataUnopened :=
  rfl

lemma unlock_eq_ok_iff :
    m.unlock S kdf passphrase = .ok key ↔
      m.opened? S kdf passphrase = some key.seed.toBytes ∧ m.Owns S key := by
  rw [unlock, decrypt_eq]
  cases m.opened? S kdf passphrase with
  | none => simp only [reduceCtorEq, false_and]
  | some b =>
      rw [Option.some.injEq, ← PrivateKey.ofBytes_eq_ok_iff]
      dsimp only
      cases PrivateKey.ofBytes b with
      | error e => simp only [reduceCtorEq, false_and]
      | ok found =>
          rw [accept_if_eq_ok, and_comm]
          refine and_congr_right fun same => ?_
          rw [Except.ok.inj same, Owns]

lemma unlock_eq_error_iff :
    m.unlock S kdf passphrase = .error e ↔
      m.opened? S kdf passphrase = none ∧ e = .notAuthenticated ∨
      (∃ b, m.opened? S kdf passphrase = some b ∧ b.length ≠ 32 ∧ e = .privateKeyMalformed) ∨
      ∃ key : PrivateKey, m.opened? S kdf passphrase = some key.seed.toBytes ∧ ¬m.Owns S key ∧
        e = .privateKeyMismatch := by
  rw [unlock, decrypt_eq]
  cases m.opened? S kdf passphrase with
  | none =>
      simp only [Except.error.injEq, true_and, reduceCtorEq, false_and, exists_false, or_false,
        eq_comm]
  | some b =>
      simp only [reduceCtorEq, false_and, false_or, Option.some.injEq, exists_eq_left',
        ← PrivateKey.ofBytes_eq_ok_iff]
      cases made : PrivateKey.ofBytes b with
      | error e' =>
          have size := (PrivateKey.ofBytes_eq_error_iff.1 made).1
          simp only [Except.error.injEq, size, ne_eq, not_false_eq_true, true_and, reduceCtorEq,
            false_and, exists_false, or_false, eq_comm]
      | ok key =>
          have size : b.length = 32 := by
            rw [PrivateKey.ofBytes_eq_ok_iff.1 made, Block.length_toBytes]
          rw [accept_if_eq_error, eq_comm (b := e)]
          simp only [reduceCtorEq, and_false, false_or, size, ne_eq, not_true_eq_false, false_and,
            Except.ok.injEq, exists_eq_left', Owns]

end Member

/-! ## The envelope -/

namespace SealedKey

variable {k : SealedKey} {key : PrivateKey} {context : Bytes} {e : Failure}

/-- What the envelope holds, if it opens under the wrap key that a private key and a context
yield. -/
def content? (S : Suite) (k : SealedKey) (key : PrivateKey) (context : Bytes) : Option Bytes :=
  S.unwrap (wrapKey S (S.agree (key.agreement S) k.ephemeral) context) k.nonce k.encrypted

lemma ofCbor_eq_error_iff {b : Bytes} :
    ofCbor b = .error e ↔ ofCbor? b = none ∧ e = .envelopeUnreadable := by
  rw [ofCbor]
  cases ofCbor? b with
  | none => exact ⟨fun h => ⟨rfl, (Except.error.inj h).symm⟩, fun h => congrArg _ h.2.symm⟩
  | some k => simp only [reduceCtorEq, false_and]

lemma openWith_eq (S : Suite) (k : SealedKey) (key : PrivateKey) (context : Bytes) :
    k.openWith S key context =
      if k.version ≠ currentVersion then .error (.envelopeVersion k.version)
      else
        match k.content? S key context with
        | some b => SecretKey.ofBytes b
        | none => .error .envelopeUnopened := by
  simp only [openWith, throw_bind, unwrap, content?]
  cases S.unwrap _ _ _ <;> rfl

lemma openWith_eq_ok_iff {found : SecretKey} :
    k.openWith S key context = .ok found ↔
      k.version = currentVersion ∧ k.content? S key context = some found.bytes.toBytes ∧
        found.salt = none := by
  rw [openWith_eq, refuse_if_eq_ok, not_not]
  refine and_congr_right fun _ => ?_
  cases k.content? S key context with
  | none => simp only [reduceCtorEq, false_and]
  | some b => rw [SecretKey.ofBytes_eq_ok_iff, Option.some.injEq]

lemma openWith_eq_error_iff :
    k.openWith S key context = .error e ↔
      k.version ≠ currentVersion ∧ e = .envelopeVersion k.version ∨
      k.version = currentVersion ∧
        (k.content? S key context = none ∧ e = .envelopeUnopened ∨
          ∃ b, k.content? S key context = some b ∧ b.length ≠ 32 ∧
            e = .secretKeySize b.length) := by
  rw [openWith_eq, refuse_if_eq_error, not_not, eq_comm (b := e)]
  refine or_congr_right (and_congr_right fun _ => ?_)
  cases k.content? S key context with
  | none =>
      simp only [Except.error.injEq, true_and, reduceCtorEq, false_and, exists_false, or_false,
        eq_comm]
  | some b =>
      rw [SecretKey.ofBytes_eq_error_iff]
      simp only [reduceCtorEq, false_and, false_or, Option.some.injEq, exists_eq_left']

end SealedKey

/-! ## The grant -/

namespace Grant

variable {g : Grant} {m : Member} {passphrase : String} {e : Failure}

lemma unlock_eq_ok_iff {found : SecretKey} :
    g.unlock S kdf m passphrase = .ok found ↔
      g.member = m.id ∧ ∃ sealed, SealedKey.ofCbor? g.envelope = some sealed ∧
        ∃ key, m.unlock S kdf passphrase = .ok key ∧
          sealed.openWith S key (context m.id g.key) = .ok found := by
  simp only [unlock, throw_bind, refuse_if_eq_ok, bind_eq_ok, not_not, SealedKey.ofCbor_eq_ok]

lemma unlock_eq_error_iff :
    g.unlock S kdf m passphrase = .error e ↔
      g.member ≠ m.id ∧ e = .grantOfAnother ∨
      g.member = m.id ∧
        (SealedKey.ofCbor? g.envelope = none ∧ e = .envelopeUnreadable ∨
          ∃ sealed, SealedKey.ofCbor? g.envelope = some sealed ∧
            (m.unlock S kdf passphrase = .error e ∨
              ∃ key, m.unlock S kdf passphrase = .ok key ∧
                sealed.openWith S key (context m.id g.key) = .error e)) := by
  simp only [unlock, throw_bind, refuse_if_eq_error, bind_eq_error, not_not,
    SealedKey.ofCbor_eq_ok, SealedKey.ofCbor_eq_error_iff, eq_comm (b := e)]

/-- What the caller who opens a grant is told, by what is wrong with the records: the outcome of the
failure, or the secret. -/
inductive Answers (S : Suite) (kdf : KeyStretching) (g : Grant) (m : Member)
    (passphrase : String) : Except Outcome SecretKey → Prop where
  /-- The grant is somebody else's. -/
  | ofAnother (other : g.member ≠ m.id) : Answers S kdf g m passphrase (.error .illegalAction)
  /-- The envelope is not the encoding of a sealed key. -/
  | unreadable (own : g.member = m.id) (garbled : SealedKey.ofCbor? g.envelope = none) :
    Answers S kdf g m passphrase (.error .integrityError)
  /-- The passphrase does not open the private key. -/
  | locked {sealed : SealedKey} (own : g.member = m.id)
      (read : SealedKey.ofCbor? g.envelope = some sealed)
      (closed : m.opened? S kdf passphrase = none) :
    Answers S kdf g m passphrase (.error .authenticationWarning)
  /-- What the passphrase opens is no private key, or another one's, or the envelope is of an
  unknown version. -/
  | corrupted {sealed : SealedKey} {opened : Bytes} (own : g.member = m.id)
      (read : SealedKey.ofCbor? g.envelope = some sealed)
      (opens : m.opened? S kdf passphrase = some opened)
      (damage : opened.length ≠ 32 ∨
        (∃ key : PrivateKey, opened = key.seed.toBytes ∧ ¬m.Owns S key) ∨ sealed.version ≠ 1) :
    Answers S kdf g m passphrase (.error .integrityError)
  /-- The envelope does not open for this member and key, or does not hold a secret. -/
  | shut {sealed : SealedKey} {key : PrivateKey} (own : g.member = m.id)
      (read : SealedKey.ofCbor? g.envelope = some sealed)
      (opens : m.opened? S kdf passphrase = some key.seed.toBytes) (owns : m.Owns S key)
      (version : sealed.version = 1)
      (shut : sealed.content? S key (context m.id g.key) = none ∨
        ∃ b, sealed.content? S key (context m.id g.key) = some b ∧ b.length ≠ 32) :
    Answers S kdf g m passphrase (.error .cryptoError)
  /-- The envelope opens and holds a secret. -/
  | opened {sealed : SealedKey} {key : PrivateKey} {secret : Block 32} (own : g.member = m.id)
      (read : SealedKey.ofCbor? g.envelope = some sealed)
      (opens : m.opened? S kdf passphrase = some key.seed.toBytes) (owns : m.Owns S key)
      (version : sealed.version = 1)
      (holds : sealed.content? S key (context m.id g.key) = some secret.toBytes) :
    Answers S kdf g m passphrase (.ok ⟨secret, none⟩)

lemma answers_of_unlock {found : SecretKey} (h : g.unlock S kdf m passphrase = .ok found) :
    Answers S kdf g m passphrase (.ok found) := by
  obtain ⟨own, sealed, read, key, unlocked, opened⟩ := unlock_eq_ok_iff.1 h
  obtain ⟨opens, owns⟩ := Member.unlock_eq_ok_iff.1 unlocked
  obtain ⟨version, holds, unsalted⟩ := SealedKey.openWith_eq_ok_iff.1 opened
  obtain ⟨secret, salt⟩ := found
  obtain rfl : salt = none := unsalted
  exact .opened own read opens owns version holds

lemma answers_of_failure (h : g.unlock S kdf m passphrase = .error e) :
    Answers S kdf g m passphrase (.error e.outcome) := by
  obtain ⟨other, rfl⟩ | ⟨own, ⟨garbled, rfl⟩ | ⟨sealed, read, failed | ⟨key, unlocked, failed⟩⟩⟩ :=
    unlock_eq_error_iff.1 h
  · exact .ofAnother other
  · exact .unreadable own garbled
  · obtain ⟨closed, rfl⟩ | ⟨b, opens, size, rfl⟩ | ⟨key, opens, other, rfl⟩ :=
      Member.unlock_eq_error_iff.1 failed
    · exact .locked own read closed
    · exact .corrupted own read opens (.inl size)
    · exact .corrupted own read opens (.inr (.inl ⟨key, rfl, other⟩))
  · obtain ⟨opens, owns⟩ := Member.unlock_eq_ok_iff.1 unlocked
    obtain ⟨version, rfl⟩ | ⟨version, ⟨shut, rfl⟩ | ⟨b, content, size, rfl⟩⟩ :=
      SealedKey.openWith_eq_error_iff.1 failed
    · exact .corrupted own read opens (.inr (.inr version))
    · exact .shut own read opens owns version (.inl shut)
    · exact .shut own read opens owns version (.inr ⟨b, content, size⟩)

variable {sealed : SealedKey} {key : PrivateKey}

/-- Behind the private key, what becomes of the envelope is what becomes of the grant. -/
lemma unlock_of_key (own : g.member = m.id) (read : SealedKey.ofCbor? g.envelope = some sealed)
    (opens : m.opened? S kdf passphrase = some key.seed.toBytes) (owns : m.Owns S key) :
    g.unlock S kdf m passphrase = sealed.openWith S key (context m.id g.key) := by
  have unlocked := Member.unlock_eq_ok_iff.2 ⟨opens, owns⟩
  rw [unlock, if_neg (not_not.2 own), SealedKey.ofCbor_eq_ok.2 read, unlocked]
  rfl

lemma unlock_of_answers {found : SecretKey} (h : Answers S kdf g m passphrase (.ok found)) :
    g.unlock S kdf m passphrase = .ok found := by
  cases h with
  | opened own read opens owns version holds =>
      rw [unlock_of_key own read opens owns]
      exact SealedKey.openWith_eq_ok_iff.2 ⟨version, holds, rfl⟩

lemma failure_of_answers {o : Outcome} (h : Answers S kdf g m passphrase (.error o)) :
    ∃ e, g.unlock S kdf m passphrase = .error e ∧ e.outcome = o := by
  cases h with
  | ofAnother other => exact ⟨_, unlock_eq_error_iff.2 (.inl ⟨other, rfl⟩), rfl⟩
  | unreadable own garbled =>
      exact ⟨_, unlock_eq_error_iff.2 (.inr ⟨own, .inl ⟨garbled, rfl⟩⟩), rfl⟩
  | locked own read closed =>
      have failed := Member.unlock_eq_error_iff.2 (.inl ⟨closed, rfl⟩)
      exact ⟨_, unlock_eq_error_iff.2 (.inr ⟨own, .inr ⟨_, read, .inl failed⟩⟩), rfl⟩
  | corrupted own read opens damage =>
      -- Damage to the private key is found before the version is looked at.
      cases unlocked : m.unlock S kdf passphrase with
      | error e =>
          refine ⟨e, unlock_eq_error_iff.2 (.inr ⟨own, .inr ⟨_, read, .inl unlocked⟩⟩), ?_⟩
          obtain ⟨closed, -⟩ | ⟨_, -, -, rfl⟩ | ⟨_, -, -, rfl⟩ :=
            Member.unlock_eq_error_iff.1 unlocked
          · cases opens.symm.trans closed
          · rfl
          · rfl
      | ok key =>
          obtain ⟨opens', owns⟩ := Member.unlock_eq_ok_iff.1 unlocked
          obtain rfl := Option.some.inj (opens.symm.trans opens')
          obtain size | ⟨⟨seed⟩, same, other⟩ | version := damage
          · exact absurd key.seed.length_eq size
          · obtain rfl : key = ⟨seed⟩ := congrArg PrivateKey.mk (Block.ext same)
            exact absurd owns other
          · rw [unlock_of_key own read opens owns]
            exact ⟨_, SealedKey.openWith_eq_error_iff.2 (.inl ⟨version, rfl⟩), rfl⟩
  | shut own read opens owns version shut =>
      rw [unlock_of_key own read opens owns]
      obtain closed | ⟨b, content, size⟩ := shut
      · exact ⟨_, SealedKey.openWith_eq_error_iff.2 (.inr ⟨version, .inl ⟨closed, rfl⟩⟩), rfl⟩
      · exact ⟨_, SealedKey.openWith_eq_error_iff.2
          (.inr ⟨version, .inr ⟨b, content, size, rfl⟩⟩), rfl⟩

/-- Only a private key of the member's public key takes part in the agreement that opens an
envelope. -/
lemma unlock_agreeing {f : Block 32 → Block 32}
    (same : ∀ key : PrivateKey, m.Owns S key → f key.seed = S.agreementSecret key.seed) :
    g.unlock { S with agreementSecret := f } kdf m passphrase = g.unlock S kdf m passphrase := by
  have opening : m.unlock { S with agreementSecret := f } kdf passphrase =
      m.unlock S kdf passphrase := rfl
  rw [unlock, unlock, opening]
  cases unlocked : m.unlock S kdf passphrase with
  | error e => rfl
  | ok key =>
      have owns := (Member.unlock_eq_ok_iff.1 unlocked).2
      have agrees (sealed : SealedKey) (context : Bytes) :
          sealed.openWith { S with agreementSecret := f } key context =
            sealed.openWith S key context := by
        simp only [SealedKey.openWith_eq, SealedKey.content?, SealedKey.wrapKey,
          PrivateKey.agreement, same key owns]
      simp only [ok_bind, agrees]

end Grant

lemma Failure.source_of_warning {f : Failure} (h : f.outcome.isWarning = true) :
    f.report.source = none := by
  cases f with
  | settingsUnreadable => cases h
  | envelopeUnreadable => cases h
  | store cause =>
      cases cause with
      | backend message => cases h
      | _ => rfl
  | _ => rfl

/-- **How opening a circle fails, and when it succeeds.**  Whatever the records hold, the caller is
told exactly what the rules say, no warning among the failures carries a cause, and a private key
takes part in opening the envelope only if it is the member's. -/
theorem Grant.opening_answers (S : Suite) (kdf : KeyStretching) (g : Grant) (m : Member)
    (passphrase : String) :
    (∀ found, g.unlock S kdf m passphrase = .ok found ↔ g.Answers S kdf m passphrase (.ok found)) ∧
    (∀ o, (∃ e, g.unlock S kdf m passphrase = .error e ∧ e.outcome = o) ↔
      g.Answers S kdf m passphrase (.error o)) ∧
    (∀ e, g.unlock S kdf m passphrase = .error e → e.outcome.isWarning = true →
      e.report.source = none) ∧
    ∀ f : Block 32 → Block 32,
      (∀ key : PrivateKey, m.Owns S key → f key.seed = S.agreementSecret key.seed) →
        g.unlock { S with agreementSecret := f } kdf m passphrase =
          g.unlock S kdf m passphrase := by
  refine ⟨fun found => ⟨answers_of_unlock, unlock_of_answers⟩, fun o => ⟨?_, failure_of_answers⟩,
    fun e _ => Failure.source_of_warning, fun f => unlock_agreeing⟩
  rintro ⟨e, failed, rfl⟩
  exact answers_of_failure failed

end CircleVault
