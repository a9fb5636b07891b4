import CircleVault.Proofs.Readability

/-!
# An envelope opens for its holder

`Grant.make` seals a circle's secret for a member's public key, in a context of the member's
identifier and the key's.  `Grant.unlock` rebuilds the context from the grant, opens the private key
with a passphrase, and checks that it belongs to the public key.  So the secret comes back under
every passphrase that opens the member's private key, however the member's record came about: drawn
by this library, or of old with a free-form salt.

It keeps coming back.  `Holding` is a grant with its holder's record and current passphrase, and
`Holding.Change` is what may happen to it later: another level, or another passphrase.
`Holding.Opens` is what a step keeps, and `Holding.opens_afterAll` what any number of them keeps.
-/

namespace CircleVault

/-- A grant, its holder's record, and the passphrase that opens it under some costs. -/
structure Holding where
  member : Member
  grant : Grant
  kdf : KeyStretching
  passphrase : String

namespace Holding

/-- What may happen to a grant and its holder's record. -/
inductive Change where
  | level (level : TrustLevel)
  | passphrase (settings : Settings) (kdf : KeyStretching) (current next : String)
      (drawn : Member.Protection)

variable (S : Suite)

/-- The holding after a change.  An attempt to change the passphrase is made in the member's record,
which is kept however the attempt has left it. -/
def after (H : Holding) : Change → Holding
  | .level level => { H with grant := H.grant.withLevel level }
  | .passphrase settings kdf current next drawn =>
      match (Member.reprotect S settings kdf current next drawn).run H.member with
      | .ok _ changed => { H with member := changed, kdf, passphrase := next }
      | .error _ left => { H with member := left }

/-- The holding after changes, one after another. -/
def afterAll (H : Holding) (changes : List Change) : Holding := changes.foldl (after S) H

/-- The grant is the member's, holds a secret for the member's public key, and the passphrase opens
the private key. -/
structure Opens (H : Holding) (secret : Block 32) : Prop where
  own : H.grant.member = H.member.id
  sealing : H.grant.SealedFor S H.member.publicKey secret
  opens : ∃ key, H.member.unlock S H.kdf H.passphrase = .ok key

variable {S} {H : Holding} {secret : Block 32}

/-- Whichever passphrase opens the private key recovers the secret. -/
lemma Opens.unlock (h : H.Opens S secret) (trusted : S.RoundTrips) {kdf : KeyStretching}
    {passphrase : String} (opens : ∃ key, H.member.unlock S kdf passphrase = .ok key) :
    H.grant.unlock S kdf H.member passphrase = .ok ⟨secret, none⟩ := by
  obtain ⟨key, opened⟩ := opens
  exact Grant.unlock_sealed trusted h.own h.sealing opened

/-- Another level leaves the seal alone, and another passphrase leaves the member's identifier and
public key alone, which are all that the seal is for. -/
lemma Opens.after (h : H.Opens S secret) (trusted : S.RoundTrips) (change : Change) :
    (H.after S change).Opens S secret := by
  cases change with
  | level level => exact ⟨h.own, h.sealing, h.opens⟩
  | passphrase settings kdf current next drawn =>
      cases made : H.member.changePassphrase S settings kdf current next drawn with
      | error e =>
          simp only [Holding.after, Member.changePassphrase_eq_error_iff_run.1 made]
          exact h
      | ok changed =>
          simp only [Holding.after, Member.changePassphrase_eq_ok_iff_run.1 made]
          obtain ⟨id, publicKey, key, shielded⟩ := Member.changePassphrase_protected made
          have own : H.grant.member = changed.id := h.own.trans id.symm
          have sealing : H.grant.SealedFor S changed.publicKey secret := publicKey ▸ h.sealing
          exact ⟨own, sealing, key, Member.unlock_protected trusted shielded⟩

theorem Opens.afterAll (h : H.Opens S secret) (trusted : S.RoundTrips) (changes : List Change) :
    (H.afterAll S changes).Opens S secret := by
  induction changes generalizing H with
  | nil => exact h
  | cons change rest ih => exact ih (h.after trusted change)

end Holding

namespace Grant

section

variable {S : Suite} {secret : SecretKey} {k : CircleKey} {m : Member} {level : TrustLevel}
  {present : List Grant} {drawn : Draw}

lemma exists_make_iff :
    (∃ g, make S secret k m level present drawn = .ok g) ↔
      k.isActive = true ∧ (∀ o ∈ present, ¬(o.member = m.id ∧ o.circle = k.circle)) ∧
        ∃ recipient, m.readPublicKey S = .ok recipient := by
  constructor
  · rintro ⟨g, made⟩
    obtain ⟨active, alone, recipient, parsed, -⟩ := make_eq_ok.1 made
    exact ⟨active, fun o mem same => alone o mem same.1 same.2, recipient, parsed⟩
  · rintro ⟨active, alone, recipient, parsed⟩
    have apart : ∀ o ∈ present, o.member = m.id → o.circle ≠ k.circle :=
      fun o mem member circle => alone o mem ⟨member, circle⟩
    exact ⟨_, make_eq_ok.2 ⟨active, apart, recipient, parsed, rfl⟩⟩

/-- **An envelope opens for its holder.**  A grant is made exactly if the key may receive grants, no
present grant is the member's in the key's circle, and the member's public key can be read.  From
then on it gives the secret back under every passphrase that opens the member's private key, and
still does so after any changes of its level and of the passphrase. -/
theorem envelope_opens (trusted : S.RoundTrips) (secret : SecretKey) (k : CircleKey) (m : Member)
    (level : TrustLevel) (present : List Grant) (drawn : Draw) :
    ((∃ g, make S secret k m level present drawn = .ok g) ↔
      k.isActive = true ∧ (∀ o ∈ present, ¬(o.member = m.id ∧ o.circle = k.circle)) ∧
        ∃ recipient, m.readPublicKey S = .ok recipient) ∧
    ∀ g, make S secret k m level present drawn = .ok g →
      ∀ kdf passphrase, (∃ key, m.unlock S kdf passphrase = .ok key) →
        g.unlock S kdf m passphrase = .ok ⟨secret.bytes, none⟩ ∧
        ∀ changes : List Holding.Change,
          let H := Holding.afterAll S ⟨m, g, kdf, passphrase⟩ changes
          H.grant.unlock S H.kdf H.member H.passphrase = .ok ⟨secret.bytes, none⟩ ∧
          ∀ kdf' passphrase', (∃ key, H.member.unlock S kdf' passphrase' = .ok key) →
            H.grant.unlock S kdf' H.member passphrase' = .ok ⟨secret.bytes, none⟩ := by
  refine ⟨exists_make_iff, ?_⟩
  intro g made kdf passphrase opens
  obtain ⟨own, -, sealing⟩ := make_sealedFor made
  have start : Holding.Opens S ⟨m, g, kdf, passphrase⟩ secret.bytes := ⟨own, sealing, opens⟩
  refine ⟨start.unlock trusted opens, ?_⟩
  intro changes H
  have later : H.Opens S secret.bytes := start.afterAll trusted changes
  exact ⟨later.unlock trusted later.opens, fun kdf' passphrase' => later.unlock trusted⟩

end

open SmallCircle in
/-- A member of old, whose salts are free-form text. -/
def veteran : Member where
  id := alice
  name := "alice"
  salt := .ofText .utf8 "since 2009"
  privateKey := Ciphertext.encrypt .transparent
    (service.kdf.derive .transparent "correct horse" (.ofText .utf8 "since 2009"))
    (.ofText .utf8 "data since 2009") (drawn 32 1).toBytes
  publicKey := (PrivateKey.publicKey .transparent ⟨drawn 32 1⟩).toText
  added := 0
  altered := 0

open SmallCircle in
/-- The key of a circle. -/
def clubKey : CircleKey := ⟨.random (drawn 16 9), club, .xchacha20Poly1305, .active, 0, 0⟩

open SmallCircle in
/-- The veteran's grant in the circle. -/
def veteranGrant : Grant :=
  sealed .transparent ⟨drawn 32 7, none⟩ clubKey alice ⟨drawn 32 1⟩ .read (granting 4)

open SmallCircle in
/-- The veteran's level is raised, and the passphrase changed. -/
def modernized : List Holding.Change :=
  [.level .admin,
    .passphrase .cheap service.kdf "correct horse" "battery staple" (protection 5)]

open SmallCircle in
lemma readPublicKey_veteran : veteran.readPublicKey .transparent = .ok ⟨drawn 32 1⟩ := by
  have text : veteran.publicKey = PublicKey.toText ⟨drawn 32 1⟩ := rfl
  rw [Member.readPublicKey, text, PublicKey.ofText, PublicKey.toText, Armor.readBlock_write]
  rfl

open SmallCircle in
lemma make_veteranGrant :
    make .transparent ⟨drawn 32 7, none⟩ clubKey veteran .read [] (granting 4) =
      .ok veteranGrant :=
  make_eq_ok.2 ⟨rfl, List.forall_mem_nil _, _, readPublicKey_veteran, rfl⟩

open SmallCircle in
theorem envelope_opens_veteran :
    let H := Holding.afterAll .transparent ⟨veteran, veteranGrant, service.kdf, "correct horse"⟩
      modernized
    H.passphrase = "battery staple" ∧
      H.grant.unlock .transparent H.kdf H.member H.passphrase = .ok ⟨drawn 32 7, none⟩ := by
  have opens :
      (veteran.unlock .transparent service.kdf "correct horse").toOption.isSome = true := by
    decide +kernel
  have changed : (Holding.afterAll .transparent
      ⟨veteran, veteranGrant, service.kdf, "correct horse"⟩ modernized).passphrase =
        "battery staple" := by
    decide +kernel
  cases unlocked : veteran.unlock .transparent service.kdf "correct horse" with
  | error e =>
      rw [unlocked] at opens
      cases opens
  | ok key =>
      have round := (envelope_opens Service.transparent_roundTrips ⟨drawn 32 7, none⟩ clubKey
        veteran .read [] (granting 4)).2 veteranGrant make_veteranGrant service.kdf "correct horse"
        ⟨key, unlocked⟩
      exact ⟨changed, (round.2 modernized).1⟩

end Grant

end CircleVault
