import CircleVault.Proofs.Records
import CircleVault.Proofs.SaltTexts

/-!
# What is sealed opens

The chain that leads from a passphrase to a circle's secret, link by link.  A private key that was
protected under a passphrase opens under it (`Member.unlock_protected`), also after its salts have
been read from their texts again.  A secret that was sealed for a public key opens under any private
key of that public key (`Grant.unlock_sealed`), whoever sealed it.  Data that was encrypted under a
secret decrypts under it.

Of the cipher suite only `Suite.RoundTrips` is assumed: that opening undoes sealing, that the two
sides of a key agreement agree, and that a wrapped secret is no longer than its length can be
written.
-/

namespace CircleVault

/-- What opening relies on. -/
structure Suite.RoundTrips (S : Suite) : Prop where
  openData_sealData (key : Block 32) (salt : Block 16) (b : Bytes) :
    S.openData key salt (S.sealData key salt b) = some b
  unwrap_wrap (key : Block 32) (nonce : Block 12) (b : Bytes) :
    S.unwrap key nonce (S.wrap key nonce b) = some b
  agree_comm (secret seed : Block 32) :
    S.agree secret (S.agreementPublic (S.publicOf seed)) =
      S.agree (S.agreementSecret seed) (S.agreementOf secret)
  length_wrap (key : Block 32) (nonce : Block 12) (secret : Block 32) :
    (S.wrap key nonce secret.toBytes).length < 2 ^ 64

/-- Opening data undoes sealing it. -/
def Suite.OpensData (S : Suite) : Prop :=
  ∀ (key : Block 32) (salt : Block 16) (b : Bytes),
    S.openData key salt (S.sealData key salt b) = some b

/-- Whatever key pair is drawn, its public key can be read. -/
def Suite.ParsesKeys (S : Suite) : Prop := ∀ seed, S.isPublic (S.publicOf seed) = true

variable {S : Suite} {kdf : KeyStretching}

/-! ## Data -/

namespace Ciphertext

lemma decrypt_encrypt (opens : S.OpensData) (key : SecretKey) (salt : Salt) (b : Bytes) :
    (encrypt S key salt b).decrypt S key = .ok b := by
  have opened := opens key.bytes salt.bytes b
  simp only [encrypt, decrypt, opened]

lemma reread_encrypt (charset : Charset) (key : SecretKey) (salt : Block 16) (b : Bytes) :
    (encrypt S key (.ofBytes salt) b).reread charset = encrypt S key (.ofBytes salt) b := by
  simp only [encrypt, reread, Salt.reread_ofBytes]

end Ciphertext

/-! ## Private keys -/

namespace Member

/-- A private key lies protected under a passphrase in a member's record, and is the member's. -/
structure Protected (S : Suite) (kdf : KeyStretching) (m : Member) (passphrase : String)
    (key : PrivateKey) : Prop where
  protects : ∃ drawn, (m.salt, m.privateKey) = protect S kdf key passphrase drawn
  own : (key.publicKey S).toText = m.publicKey

variable {m : Member} {passphrase : String} {key : PrivateKey}

lemma Protected.reread (h : m.Protected S kdf passphrase key) (charset : Charset) :
    m.reread charset = m := by
  obtain ⟨id, name, salt, privateKey, publicKey, added, altered⟩ := m
  obtain ⟨drawn, protects⟩ := h.protects
  obtain ⟨rfl, rfl⟩ := Prod.mk.inj protects
  rw [Member.reread, Salt.reread_ofBytes, Ciphertext.reread_encrypt]

/-- The member's private key opens under the passphrase that its key was derived from, whatever
the salts. -/
theorem unlock_encrypted (opens : S.OpensData) {dataSalt : Salt}
    (privateKey : m.privateKey =
      .encrypt S (kdf.derive S passphrase m.salt) dataSalt key.seed.toBytes)
    (own : (key.publicKey S).toText = m.publicKey) : m.unlock S kdf passphrase = .ok key := by
  refine unlock_eq_ok_iff.2 ⟨?_, own⟩
  rw [opened?, privateKey]
  exact opens _ _ _

/-- A protected private key opens under its passphrase. -/
theorem unlock_protected (trusted : S.RoundTrips) (h : m.Protected S kdf passphrase key) :
    m.unlock S kdf passphrase = .ok key := by
  obtain ⟨drawn, protects⟩ := h.protects
  obtain ⟨salt, privateKey⟩ := Prod.mk.inj protects
  exact unlock_encrypted trusted.openData_sealData (salt ▸ privateKey) h.own

lemma publicKey_of_unlock (h : m.unlock S kdf passphrase = .ok key) :
    (key.publicKey S).toText = m.publicKey :=
  (unlock_eq_ok_iff.1 h).2

lemma changePassphrase_protected {settings : Settings} {current next : String}
    {drawn : Protection} {changed : Member}
    (h : m.changePassphrase S settings kdf current next drawn = .ok changed) :
    changed.id = m.id ∧ changed.publicKey = m.publicKey ∧
      ∃ key, changed.Protected S kdf next key := by
  obtain ⟨-, key, opened, rfl⟩ := changePassphrase_eq_ok.1 h
  have own := publicKey_of_unlock opened
  exact ⟨rfl, rfl, key, ⟨drawn, rfl⟩, own⟩

end Member

/-! ## Circle secrets -/

namespace SealedKey

/-- A sealed secret opens under the recipient's private key, in the context it was sealed in. -/
lemma openWith_sealBytes (trusted : S.RoundTrips) (drawn : Draw) (key : PrivateKey)
    (context : Bytes) (secret : Block 32) :
    (sealBytes S drawn (key.publicKey S) context secret.toBytes).openWith S key context =
      .ok ⟨secret, none⟩ := by
  have agreed := trusted.agree_comm drawn.secret key.seed
  refine openWith_eq_ok_iff.2 ⟨rfl, ?_, rfl⟩
  simp only [content?, sealBytes, PublicKey.agreement, PrivateKey.publicKey, PrivateKey.agreement,
    agreed, trusted.unwrap_wrap]

end SealedKey

namespace Grant

/-- A grant's envelope holds a secret, sealed for the public key that a text writes. -/
def SealedFor (S : Suite) (g : Grant) (publicKey : String) (secret : Block 32) : Prop :=
  ∃ drawn recipient, PublicKey.ofText S publicKey = .ok recipient ∧
    g.envelope =
      (SealedKey.sealBytes S drawn recipient (context g.member g.key) secret.toBytes).toCbor

variable {g : Grant} {m : Member} {secret : Block 32} {passphrase : String} {key : PrivateKey}

/-- A sealed secret is recovered by whoever opens the private key it was sealed for. -/
theorem unlock_sealed (trusted : S.RoundTrips) (own : g.member = m.id)
    (sealing : g.SealedFor S m.publicKey secret)
    (opened : m.unlock S kdf passphrase = .ok key) :
    g.unlock S kdf m passphrase = .ok ⟨secret, none⟩ := by
  obtain ⟨drawn, recipient, parsed, envelope⟩ := sealing
  rw [← Member.publicKey_of_unlock opened] at parsed
  obtain rfl := PublicKey.toText_inj.1 (PublicKey.ofText_eq_ok_iff.1 parsed).1
  have short := trusted.length_wrap (SealedKey.wrapKey S (S.agree drawn.secret
    ((key.publicKey S).agreement S)) (context g.member g.key)) drawn.nonce secret
  have read := SealedKey.ofCbor_toCbor (k := SealedKey.sealBytes S drawn (key.publicKey S)
    (context g.member g.key) secret.toBytes) short
  rw [← envelope, SealedKey.ofCbor_eq_ok] at read
  refine unlock_eq_ok_iff.2 ⟨own, _, read, key, opened, ?_⟩
  rw [← own]
  exact SealedKey.openWith_sealBytes trusted drawn key (context g.member g.key) secret

/-- Nothing but the sealed secret is ever recovered, whichever passphrase opens the private key. -/
lemma eq_of_unlock_sealed (trusted : S.RoundTrips) (sealing : g.SealedFor S m.publicKey secret)
    {found : SecretKey} (h : g.unlock S kdf m passphrase = .ok found) : found = ⟨secret, none⟩ := by
  -- Whatever key opened is the one the secret was sealed for, so the secret is what comes out.
  obtain ⟨own, -, -, key, opened, -⟩ := unlock_eq_ok_iff.1 h
  have unlocked := unlock_sealed trusted own sealing opened
  exact Except.ok.inj (h.symm.trans unlocked)

lemma make_sealedFor {found : SecretKey} {k : CircleKey} {level : TrustLevel}
    {present : List Grant} {drawn : Draw}
    (h : make S found k m level present drawn = .ok g) :
    g.member = m.id ∧ g.circle = k.circle ∧ g.SealedFor S m.publicKey found.bytes := by
  obtain ⟨-, -, recipient, parsed, rfl⟩ := make_eq_ok.1 h
  exact ⟨rfl, rfl, drawn.sealing, recipient, parsed, rfl⟩

end Grant

end CircleVault
