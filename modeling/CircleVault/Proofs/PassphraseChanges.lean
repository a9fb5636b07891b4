import CircleVault.Proofs.Envelope
import CircleVault.Proofs.Sealing
import CircleVault.Proofs.Transparent

/-!
# Changing a passphrase keeps the key pair

A member's passphrase is changed time after time, and some attempts fail: the new passphrase may be
too short, or the current one may not open the private key.  A `Rekeying` is the member's record
somewhere in such a row of attempts, together with the attempts that were accepted so far.

What one attempt comes to is said first.  It works on the record in place, and whatever can fail in
it comes before the record is touched.  A short passphrase is refused before the private key is
looked at; otherwise the attempt fails as opening fails, and a success leaves a record that opens
under the new passphrase to what the old record opened to under the current one
(`Member.unlock_changed`).  `Rekeying.Keeps` is what an attempt keeps of it, and so a row of
attempts: nothing but the salt and the encrypted private key ever changes, the passphrase accepted
last opens a private key of the public key, and it opens the very key of the beginning if each
change was made with the passphrase in force.

The record may be any record, with free-form texts for salts or damaged.  Of the cipher suite only
`Suite.OpensData` is assumed.
-/

namespace CircleVault

variable {S : Suite} {settings : Settings} {kdf : KeyStretching}

/-! ## Long enough -/

namespace Settings

variable {passphrase : String}

/-- A passphrase has as many characters as the settings ask for. -/
def Suffices (settings : Settings) (passphrase : String) : Prop :=
  settings.minPassphraseLength.toNat ≤ passphrase.length

lemma checkPassphrase_eq_ok_iff {u : Unit} :
    settings.checkPassphrase passphrase = .ok u ↔ settings.Suffices passphrase := by
  unfold checkPassphrase Suffices
  by_cases short : passphrase.length < settings.minPassphraseLength.toNat
  · rw [if_pos short]
    exact ⟨nofun, fun long => absurd short (Nat.not_lt.2 long)⟩
  · rw [if_neg short]
    exact ⟨fun _ => Nat.not_lt.1 short, fun _ => rfl⟩

lemma checkPassphrase_eq_error_iff {e : Failure} :
    settings.checkPassphrase passphrase = .error e ↔
      ¬settings.Suffices passphrase ∧
        e = .passphraseTooShort settings.minPassphraseLength.toNat := by
  unfold checkPassphrase Suffices
  by_cases short : passphrase.length < settings.minPassphraseLength.toNat
  · rw [if_pos short]
    exact ⟨fun h => ⟨Nat.not_le.2 short, (Except.error.inj h).symm⟩, fun h => h.2 ▸ rfl⟩
  · rw [if_neg short]
    exact ⟨nofun, fun h => absurd (Nat.not_lt.1 short) h.1⟩

end Settings

/-! ## One attempt -/

namespace Member

variable {m changed : Member} {current next : String} {drawn : Protection}

/-- A short passphrase is refused first, and otherwise changing fails as opening fails. -/
lemma changePassphrase_eq_error_iff {e : Failure} :
    m.changePassphrase S settings kdf current next drawn = .error e ↔
      ¬settings.Suffices next ∧ e = .passphraseTooShort settings.minPassphraseLength.toNat ∨
        settings.Suffices next ∧ m.unlock S kdf current = .error e := by
  rw [changePassphrase_eq_error, Settings.checkPassphrase_eq_error_iff,
    Settings.checkPassphrase_eq_ok_iff]

/-- The new passphrase opens what the current one opened. -/
lemma unlock_changed (opens : S.OpensData)
    (h : m.changePassphrase S settings kdf current next drawn = .ok changed) :
    ∃ key, m.unlock S kdf current = .ok key ∧ changed.unlock S kdf next = .ok key := by
  obtain ⟨-, key, opened, same⟩ := changePassphrase_eq_ok.1 h
  have own : m.Owns S key := publicKey_of_unlock opened
  subst same
  exact ⟨key, opened, unlock_encrypted opens rfl own⟩

/-- A member's record differs in the salt and the encrypted private key at most. -/
def SameAccount (m changed : Member) : Prop :=
  ∃ salt privateKey, changed = { m with salt, privateKey }

lemma SameAccount.refl (m : Member) : m.SameAccount m := ⟨m.salt, m.privateKey, rfl⟩

lemma SameAccount.trans {m' m'' : Member} (h : m.SameAccount m') (h' : m'.SameAccount m'') :
    m.SameAccount m'' := by
  obtain ⟨_, _, rfl⟩ := h
  obtain ⟨salt, privateKey, rfl⟩ := h'
  exact ⟨salt, privateKey, rfl⟩

lemma sameAccount_of_changed
    (h : m.changePassphrase S settings kdf current next drawn = .ok changed) :
    m.SameAccount changed := by
  obtain ⟨-, key, -, rfl⟩ := changePassphrase_eq_ok.1 h
  exact ⟨_, _, rfl⟩

end Member

/-! ## Attempts in a row -/

deriving instance DecidableEq for Member.Protection

/-- An attempt to change a passphrase. -/
structure PassphraseChange where
  current : String
  next : String
  drawn : Member.Protection
deriving DecidableEq

/-- A member's record in a row of attempts, and those that were accepted so far, oldest first. -/
structure Rekeying where
  record : Member
  accepted : List PassphraseChange

namespace Rekeying

/-- One more attempt, made in the record itself.  Where it fails, the record is as the attempt has
left it. -/
def attempt (S : Suite) (settings : Settings) (kdf : KeyStretching) (K : Rekeying)
    (a : PassphraseChange) : Rekeying :=
  match (Member.reprotect S settings kdf a.current a.next a.drawn).run K.record with
  | .ok _ changed => ⟨changed, K.accepted ++ [a]⟩
  | .error _ left => ⟨left, K.accepted⟩

/-- A member's record after one attempt after another. -/
def row (S : Suite) (settings : Settings) (kdf : KeyStretching) (m : Member)
    (attempts : List PassphraseChange) : Rekeying :=
  attempts.foldl (attempt S settings kdf) ⟨m, []⟩

/-- The passphrase in force after some changes, if there was one in force before them. -/
def inForce (first : String) (accepted : List PassphraseChange) : String :=
  (accepted.getLast?.map PassphraseChange.next).getD first

/-- Each change was made with the passphrase in force. -/
def Chained (first : String) (accepted : List PassphraseChange) : Prop :=
  ∀ early a late, accepted = early ++ a :: late → a.current = inForce first early

@[simp] lemma inForce_concat (first : String) (accepted : List PassphraseChange)
    (a : PassphraseChange) : inForce first (accepted ++ [a]) = a.next := by
  simp [inForce]

lemma chained_nil (first : String) : Chained first [] := by
  intro early a late split
  simp at split

lemma chained_concat {first : String} {accepted : List PassphraseChange} {a : PassphraseChange} :
    Chained first (accepted ++ [a]) ↔
      Chained first accepted ∧ a.current = inForce first accepted := by
  constructor
  · intro h
    refine ⟨?_, h accepted a [] rfl⟩
    intro early b late split
    apply h early b (late ++ [a])
    simp [split]
  · rintro ⟨before, current⟩ early b late split
    rcases List.eq_nil_or_concat' late with rfl | ⟨late, x, rfl⟩
    · obtain ⟨rfl, last⟩ := List.append_inj' split rfl
      obtain rfl := List.singleton_inj.1 last
      exact current
    · apply before early b late
      rw [← List.cons_append, ← List.append_assoc] at split
      exact (List.append_inj' split rfl).1

/-- What a row of attempts keeps of a member's record. -/
structure Keeps (S : Suite) (settings : Settings) (kdf : KeyStretching) (m : Member)
    (K : Rekeying) : Prop where
  account : m.SameAccount K.record
  long : ∀ a ∈ K.accepted, settings.Suffices a.next
  opens : ∀ a, K.accepted.getLast? = some a → ∃ key, K.record.unlock S kdf a.next = .ok key
  same : ∀ first, Chained first K.accepted →
    K.record.unlock S kdf (inForce first K.accepted) = m.unlock S kdf first

variable {m : Member} {K : Rekeying}

lemma Keeps.start : Keeps S settings kdf m ⟨m, []⟩ where
  account := .refl m
  long := List.forall_mem_nil _
  opens := nofun
  same _ _ := rfl

lemma attempt_of_failed {a : PassphraseChange} {e : Failure}
    (failed : K.record.changePassphrase S settings kdf a.current a.next a.drawn = .error e) :
    K.attempt S settings kdf a = K := by
  unfold attempt
  rw [Member.changePassphrase_eq_error_iff_run.1 failed]

lemma attempt_of_changed {a : PassphraseChange} {changed : Member}
    (made : K.record.changePassphrase S settings kdf a.current a.next a.drawn = .ok changed) :
    K.attempt S settings kdf a = ⟨changed, K.accepted ++ [a]⟩ := by
  unfold attempt
  rw [Member.changePassphrase_eq_ok_iff_run.1 made]

lemma Keeps.attempt (h : Keeps S settings kdf m K) (opens : S.OpensData) (a : PassphraseChange) :
    Keeps S settings kdf m (K.attempt S settings kdf a) := by
  cases made : K.record.changePassphrase S settings kdf a.current a.next a.drawn with
  | error e =>
      rw [attempt_of_failed made]
      exact h
  | ok changed =>
      rw [attempt_of_changed made]
      obtain ⟨key, opened, reopened⟩ := Member.unlock_changed opens made
      have long := Settings.checkPassphrase_eq_ok_iff.1 (Member.changePassphrase_eq_ok.1 made).1
      refine ⟨h.account.trans (Member.sameAccount_of_changed made), ?_, ?_, ?_⟩
      · intro b mem
        rcases List.mem_append.1 mem with before | last
        · exact h.long b before
        · rw [List.mem_singleton.1 last]
          exact long
      · intro b last
        rw [List.getLast?_concat] at last
        obtain rfl := Option.some.inj last
        exact ⟨key, reopened⟩
      · -- The new passphrase opens what the one in force opened, which is the first key so far.
        intro first chained
        obtain ⟨before, current⟩ := chained_concat.1 chained
        calc changed.unlock S kdf (inForce first (K.accepted ++ [a]))
            = K.record.unlock S kdf a.current := by rw [inForce_concat, reopened, opened]
          _ = K.record.unlock S kdf (inForce first K.accepted) := by rw [current]
          _ = m.unlock S kdf first := h.same first before

lemma Keeps.row (opens : S.OpensData) (m : Member) (attempts : List PassphraseChange) :
    Keeps S settings kdf m (row S settings kdf m attempts) := by
  induction attempts using List.reverseRecOn with
  | nil => exact .start
  | append_singleton early a ih =>
      unfold Rekeying.row at *
      rw [List.foldl_append]
      exact ih.attempt opens a

/-- **Changing a passphrase keeps the key pair.**  An attempt with a short passphrase is refused
whatever the current one is; any other fails exactly as opening the private key fails, and leaves
the record; and after a success the new passphrase opens the private key that the current one
opened, nothing else having changed.  After any attempts in a row, the passphrase accepted last
opens a private key of the public key, the very one of the beginning if each change was made with
the passphrase in force.  No passphrase is ever accepted that is too short. -/
theorem changes_keep_keyPair (opens : S.OpensData) (settings : Settings) (kdf : KeyStretching)
    (m : Member) :
    (∀ a : PassphraseChange,
      let attempted := m.changePassphrase S settings kdf a.current a.next a.drawn
      let least := settings.minPassphraseLength.toNat
      (a.next.length < least → attempted = .error (.passphraseTooShort least) ∧
        (Failure.passphraseTooShort least).outcome = .settingWarning) ∧
      (least ≤ a.next.length → ∀ e, attempted = .error e ↔ m.unlock S kdf a.current = .error e) ∧
      (∀ e accepted, attempted = .error e →
        attempt S settings kdf ⟨m, accepted⟩ a = ⟨m, accepted⟩) ∧
      ∀ changed, attempted = .ok changed → m.SameAccount changed ∧
        ∃ key, m.unlock S kdf a.current = .ok key ∧ changed.unlock S kdf a.next = .ok key) ∧
    (∀ attempts,
      let K := row S settings kdf m attempts
      m.SameAccount K.record ∧
      (∀ a, K.accepted.getLast? = some a →
        ∃ key, K.record.unlock S kdf a.next = .ok key ∧ m.Owns S key) ∧
      (∀ first, Chained first K.accepted →
        K.record.unlock S kdf (inForce first K.accepted) = m.unlock S kdf first) ∧
      ∀ a ∈ K.accepted, settings.minPassphraseLength.toNat ≤ a.next.length) ∧
    ∀ name passphrase drawn made,
      Member.register S settings kdf name passphrase drawn = .ok made →
        settings.minPassphraseLength.toNat ≤ passphrase.length := by
  refine ⟨?_, ?_, ?_⟩
  · intro a attempted least
    refine ⟨?_, ?_, ?_, ?_⟩
    · intro short
      refine ⟨Member.changePassphrase_eq_error_iff.2 (.inl ⟨?_, rfl⟩), rfl⟩
      exact Nat.not_le.2 short
    · intro long e
      rw [Member.changePassphrase_eq_error_iff]
      constructor
      · rintro (⟨short, -⟩ | ⟨-, failed⟩)
        · exact absurd long short
        · exact failed
      · intro failed
        exact .inr ⟨long, failed⟩
    · intro e accepted failed
      exact attempt_of_failed failed
    · intro changed made
      exact ⟨Member.sameAccount_of_changed made, Member.unlock_changed opens made⟩
  · intro attempts K
    have keeps : Keeps S settings kdf m K := .row opens m attempts
    refine ⟨keeps.account, ?_, keeps.same, keeps.long⟩
    intro a last
    obtain ⟨key, opened⟩ := keeps.opens a last
    obtain ⟨_, _, same⟩ := keeps.account
    have own : (key.publicKey S).toText = K.record.publicKey := Member.publicKey_of_unlock opened
    exact ⟨key, opened, own.trans (by rw [same])⟩
  · intro name passphrase drawn made registered
    exact Settings.checkPassphrase_eq_ok_iff.1 (Member.register_eq_ok.1 registered).2.1

open SmallCircle Grant in
/-- The veteran tries a passphrase that is too short, a wrong one for the current, a good one, the
first one again, and one that is long enough in characters and was set with the one in force. -/
def veteranAttempts : List PassphraseChange :=
  [⟨"correct horse", "short", protection 5⟩, ⟨"wrong guess", "battery staple", protection 7⟩,
    ⟨"correct horse", "battery staple", protection 9⟩,
    ⟨"correct horse", "third attempt", protection 11⟩,
    ⟨"battery staple", "über1234", protection 13⟩]

open SmallCircle Grant in
theorem changes_keep_keyPair_veteran :
    Suite.transparent.OpensData ∧
      veteran.changePassphrase .transparent .cheap service.kdf "correct horse" "short"
        (protection 5) = .error (.passphraseTooShort 8) ∧
      (∀ e, veteran.changePassphrase .transparent .cheap service.kdf "wrong guess"
          "battery staple" (protection 7) = .error e ↔
        veteran.unlock .transparent service.kdf "wrong guess" = .error e) ∧
      let K := row .transparent .cheap service.kdf veteran veteranAttempts
      K.accepted =
          [⟨"correct horse", "battery staple", protection 9⟩,
            ⟨"battery staple", "über1234", protection 13⟩] ∧
        Chained "correct horse" K.accepted ∧
        K.record.unlock .transparent service.kdf "über1234" =
          veteran.unlock .transparent service.kdf "correct horse" ∧
        ∃ key, K.record.unlock .transparent service.kdf "über1234" = .ok key ∧
          veteran.Owns .transparent key := by
  have opens : Suite.transparent.OpensData := Suite.transparent_sound.openData_sealData
  obtain ⟨one, all, -⟩ := changes_keep_keyPair opens .cheap service.kdf veteran
  obtain ⟨-, last, same, -⟩ := all veteranAttempts
  have accepted : (row .transparent .cheap service.kdf veteran veteranAttempts).accepted =
      [⟨"correct horse", "battery staple", protection 9⟩,
        ⟨"battery staple", "über1234", protection 13⟩] := by
    decide +kernel
  have chained : Chained "correct horse"
      ([] ++ [⟨"correct horse", "battery staple", protection 9⟩] ++
        [⟨"battery staple", "über1234", protection 13⟩]) :=
    chained_concat.2 ⟨chained_concat.2 ⟨chained_nil _, rfl⟩, rfl⟩
  rw [accepted] at last same
  refine ⟨opens, ?_, ?_, accepted, accepted ▸ chained, same "correct horse" chained,
    last _ rfl⟩
  · exact ((one ⟨"correct horse", "short", protection 5⟩).1 (by decide)).1
  · exact (one ⟨"wrong guess", "battery staple", protection 7⟩).2.1 (by decide)

end Rekeying

end CircleVault
