import CircleVault.Proofs.Opening
import CircleVault.Proofs.Work
import CircleVault.Service

/-!
# How records are made

Each maker of a record is described once: when it succeeds, what the record is, and which failures
it can end with.  A secret that is recovered through a grant fails with one of the failures of
opening (`Failure.IsOpening`), none of which says anything about authority, and a grant for a key
that may receive grants fails only on the recipient's side.
-/

namespace CircleVault

/-! ## Circles -/

lemma CircleKey.ensureActive_eq_ok {k : CircleKey} {u : Unit} :
    k.ensureActive = .ok u ↔ k.isActive = true := by
  simp [ensureActive]

lemma Founding.make_eq_ok {name : String} {drawn : Founding.Draw} {new : Founding} :
    Founding.make name drawn = .ok new ↔
      ¬Text.isBlank name = true ∧
        new =
          ⟨⟨.random drawn.circle, name, 0, 0⟩,
            ⟨.random drawn.key, .random drawn.circle, .xchacha20Poly1305, .active, 0, 0⟩,
            ⟨drawn.secret, some (.ofBytes drawn.salt)⟩⟩ := by
  simp only [make, throw_bind, refuse_if_eq_ok, pure_eq_ok, SecretKey.algorithm]

/-! ## Members -/

namespace Member

variable {S : Suite} {settings : Settings} {kdf : KeyStretching} {m : Member} {e : Failure}

/-- The member that registering makes. -/
def registered (S : Suite) (kdf : KeyStretching) (name passphrase : String) (drawn : Draw) :
    Member :=
  { id := .random drawn.id
    name
    salt := (protect S kdf ⟨drawn.seed⟩ passphrase drawn.protection).1
    privateKey := (protect S kdf ⟨drawn.seed⟩ passphrase drawn.protection).2
    publicKey := (PrivateKey.publicKey S ⟨drawn.seed⟩).toText
    added := 0
    altered := 0 }

lemma register_eq_ok {name passphrase : String} {drawn : Draw} :
    register S settings kdf name passphrase drawn = .ok m ↔
      ¬Text.isBlank name = true ∧ settings.checkPassphrase passphrase = .ok () ∧
        m = registered S kdf name passphrase drawn := by
  simp only [register, throw_bind, refuse_if_eq_ok, check_bind_eq_ok, pure_eq_ok, registered]

section PassphraseChange

open Work

variable {current next : String} {drawn : Protection} {changed left : Member}

lemma reprotect_eq_ok {u : Unit} :
    (reprotect S settings kdf current next drawn).run m = .ok u changed ↔
      settings.checkPassphrase next = .ok () ∧
        ∃ key, m.unlock S kdf current = .ok key ∧
          changed =
            { m with
              salt := (protect S kdf key next drawn).1
              privateKey := (protect S kdf key next drawn).2 } := by
  rw [reprotect, judge_eq_ok]
  constructor
  · rintro ⟨⟨⟩, long, rest⟩
    obtain ⟨key, opened, rest⟩ := judge_eq_ok.1 rest
    cases rest
    exact ⟨long, key, opened, rfl⟩
  · rintro ⟨long, key, opened, rfl⟩
    exact ⟨(), long, judge_eq_ok.2 ⟨key, opened, rfl⟩⟩

lemma reprotect_eq_error :
    (reprotect S settings kdf current next drawn).run m = .error e left ↔
      (settings.checkPassphrase next = .error e ∨
        settings.checkPassphrase next = .ok () ∧ m.unlock S kdf current = .error e) ∧
      left = m := by
  rw [reprotect, judge_eq_error]
  constructor
  · rintro (⟨short, same⟩ | ⟨⟨⟩, long, rest⟩)
    · exact ⟨.inl short, same⟩
    · obtain ⟨shut, same⟩ | ⟨key, -, rest⟩ := judge_eq_error.1 rest
      · exact ⟨.inr ⟨long, shut⟩, same⟩
      · -- The two fields are set without a further check.
        cases rest
  · rintro ⟨short | ⟨long, shut⟩, same⟩
    · exact .inl ⟨short, same⟩
    · exact .inr ⟨(), long, judge_eq_error.2 (.inl ⟨shut, same⟩)⟩

/-- The changed member is what is in the record after the work on it. -/
lemma changePassphrase_eq_ok_iff_run :
    m.changePassphrase S settings kdf current next drawn = .ok changed ↔
      (reprotect S settings kdf current next drawn).run m = .ok () changed := by
  rw [changePassphrase]
  cases (reprotect S settings kdf current next drawn).run m with
  | ok u record => simp
  | error e record => simp

lemma changePassphrase_eq_error_iff_run :
    m.changePassphrase S settings kdf current next drawn = .error e ↔
      (reprotect S settings kdf current next drawn).run m = .error e m := by
  rw [changePassphrase]
  cases worked : (reprotect S settings kdf current next drawn).run m with
  | ok u record => simp
  | error e' record => simp [(reprotect_eq_error.1 worked).2]

lemma changePassphrase_eq_ok :
    m.changePassphrase S settings kdf current next drawn = .ok changed ↔
      settings.checkPassphrase next = .ok () ∧
        ∃ key, m.unlock S kdf current = .ok key ∧
          changed =
            { m with
              salt := (protect S kdf key next drawn).1
              privateKey := (protect S kdf key next drawn).2 } :=
  changePassphrase_eq_ok_iff_run.trans reprotect_eq_ok

lemma changePassphrase_eq_error :
    m.changePassphrase S settings kdf current next drawn = .error e ↔
      settings.checkPassphrase next = .error e ∨
        settings.checkPassphrase next = .ok () ∧ m.unlock S kdf current = .error e := by
  rw [changePassphrase_eq_error_iff_run, reprotect_eq_error, and_iff_left rfl]

end PassphraseChange

lemma readPublicKey_eq_error (h : m.readPublicKey S = .error e) : e = .publicKeyUnreadable := by
  rw [readPublicKey, PublicKey.ofText] at h
  split at h
  · rw [PublicKey.ofBytes] at h
    split at h <;> cases h
    rfl
  · cases h
    rfl

end Member

lemma Ciphertext.decrypt_eq_error {S : Suite} {key : SecretKey} {c : Ciphertext} {e : Failure}
    (h : c.decrypt S key = .error e) : e = .dataUnopened := by
  rw [decrypt] at h
  split at h
  split at h <;> cases h
  rfl

/-! ## Grants -/

/-- The failures of recovering a secret through a grant. -/
inductive Failure.IsOpening : Failure → Prop
  | grantOfAnother : IsOpening .grantOfAnother
  | notAuthenticated : IsOpening .notAuthenticated
  | privateKeyMalformed : IsOpening .privateKeyMalformed
  | privateKeyMismatch : IsOpening .privateKeyMismatch
  | envelopeUnreadable : IsOpening .envelopeUnreadable
  | envelopeVersion (version : UInt8) : IsOpening (.envelopeVersion version)
  | envelopeUnopened : IsOpening .envelopeUnopened
  | secretKeySize (actual : Nat) : IsOpening (.secretKeySize actual)

lemma Failure.IsOpening.outcome {e : Failure} (h : e.IsOpening) :
    e.outcome ≠ .authorizationWarning := by
  cases h <;> nofun

lemma Failure.outcome_store (cause : StoreFailure) :
    (Failure.store cause).outcome ≠ .authorizationWarning := by
  cases cause <;> nofun

lemma Member.isOpening_of_unlock {S : Suite} {kdf : KeyStretching} {m : Member}
    {passphrase : String} {e : Failure} (h : m.unlock S kdf passphrase = .error e) :
    e.IsOpening := by
  obtain ⟨-, rfl⟩ | ⟨_, -, -, rfl⟩ | ⟨_, -, -, rfl⟩ := unlock_eq_error_iff.1 h
  · exact .notAuthenticated
  · exact .privateKeyMalformed
  · exact .privateKeyMismatch

lemma SealedKey.isOpening_of_openWith {S : Suite} {k : SealedKey} {key : PrivateKey}
    {context : Bytes} {e : Failure} (h : k.openWith S key context = .error e) :
    e.IsOpening := by
  obtain ⟨-, rfl⟩ | ⟨-, ⟨-, rfl⟩ | ⟨_, -, -, rfl⟩⟩ := openWith_eq_error_iff.1 h
  · exact .envelopeVersion _
  · exact .envelopeUnopened
  · exact .secretKeySize _

namespace Grant

variable {S : Suite} {kdf : KeyStretching} {e : Failure}

lemma isOpening_of_unlock {g : Grant} {m : Member} {passphrase : String}
    (h : g.unlock S kdf m passphrase = .error e) : e.IsOpening := by
  obtain ⟨-, rfl⟩ | ⟨-, ⟨-, rfl⟩ | ⟨_, -, failed | ⟨_, -, failed⟩⟩⟩ := unlock_eq_error_iff.1 h
  · exact .grantOfAnother
  · exact .envelopeUnreadable
  · exact Member.isOpening_of_unlock failed
  · exact SealedKey.isOpening_of_openWith failed

lemma remove_eq_error {grants : List Grant} {member : MemberId}
    (h : remove grants member = .error e) :
    e = .noSuchGrant ∧ grants.find? (fun g => g.member = member) = none := by
  rw [remove] at h
  split at h
  · cases h
  · next absent => exact ⟨(Except.error.inj h).symm, absent⟩

/-- The grant that sealing a secret for a member makes. -/
def sealed (S : Suite) (secret : SecretKey) (key : CircleKey) (member : MemberId)
    (recipient : PublicKey) (level : TrustLevel) (drawn : Draw) : Grant :=
  { id := .random drawn.id
    member
    circle := key.circle
    key := key.id
    level
    envelope := (SealedKey.sealFor S drawn.sealing recipient (context member key.id) secret).toCbor
    added := 0
    altered := 0 }

variable {secret : SecretKey} {key : CircleKey} {m : Member} {level : TrustLevel}
  {present : List Grant} {drawn : Draw}

lemma make_eq_ok {g : Grant} :
    make S secret key m level present drawn = .ok g ↔
      key.isActive = true ∧ (∀ o ∈ present, o.member = m.id → o.circle ≠ key.circle) ∧
        ∃ recipient, m.readPublicKey S = .ok recipient ∧
          g = sealed S secret key m.id recipient level drawn := by
  rw [make, check_bind_eq_ok, CircleKey.ensureActive_eq_ok]
  simp only [throw_bind, refuse_if_eq_ok, bind_eq_ok, pure_eq_ok, sealed, List.any_eq_true,
    Bool.and_eq_true, decide_eq_true_eq, not_exists, not_and]

/-- A grant for a key that may receive grants fails only where the member holds one already or has
an unreadable public key. -/
lemma make_eq_error (active : key.isActive = true)
    (h : make S secret key m level present drawn = .error e) :
    e = .alreadyGranted ∨ e = .publicKeyUnreadable := by
  rw [make, CircleKey.ensureActive, if_pos active] at h
  simp only [throw_bind, bind_eq_error] at h
  obtain h | ⟨-, -, h⟩ := h
  · cases h
  · obtain ⟨-, rfl⟩ | ⟨-, h⟩ := refuse_if_eq_error.1 h
    · exact .inl rfl
    · obtain h | ⟨_, -, h⟩ := bind_eq_error.1 h
      · exact .inr (Member.readPublicKey_eq_error h)
      · cases h

end Grant

end CircleVault
