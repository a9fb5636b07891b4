import CircleVault.Proofs.Json.Decoding
import CircleVault.Proofs.Sealing

/-!
# Records survive their written form

Every record is read back from its text as it was: with any name and key text, any byte strings,
any identifiers and times, with and without what may be missing.  A salt is written as its text, so
it survives if its bytes are the ones that the text stands for (`Salt.IsRead`), which is true of
every salt that is drawn and of every one that was read.

Settings survive as well, and are loaded if they are usable.
-/

namespace CircleVault

open Json

/-- A salt whose bytes are those that its text stands for. -/
def Salt.IsRead (s : Salt) : Prop := s = Salt.ofText .utf8 s.text

lemma Salt.isRead_ofBytes (b : Block 16) : (ofBytes b).IsRead := (reread_ofBytes .utf8 b).symm

lemma Salt.isRead_ofText (text : String) : (ofText .utf8 text).IsRead := rfl

namespace Json

lemma decodes_salt {s : Salt} (h : s.IsRead) : Decodes Salt.ofJson s.toJson s :=
  Decodes.map (decodes_text s.text) h.symm

lemma decodes_checksum (c : Checksum) : Decodes Checksum.ofJson c.toJson c :=
  Decodes.map (decodes_block c.bytes) rfl

lemma decodes_signature (s : Signature) : Decodes Signature.ofJson s.toJson s :=
  Decodes.map (decodes_block s.bytes) rfl

lemma decodes_level (l : TrustLevel) : Decodes TrustLevel.ofJson (.text l.name) l :=
  decodes_named (by cases l <;> decide) (by cases l <;> decide)

lemma decodes_status (s : KeyStatus) : Decodes KeyStatus.ofJson (.text s.name) s :=
  decodes_named (by cases s <;> decide) (by cases s <;> decide)

lemma decodes_algorithm (a : Algorithm) : Decodes Algorithm.ofJson (.text a.name) a :=
  decodes_named (by cases a <;> decide) (by cases a <;> decide)

lemma decodes_format (f : CipherFormat) : Decodes CipherFormat.ofJson (.text f.name) f :=
  decodes_named (by cases f with | xchacha20Poly1305 => decide)
    (by cases f with | xchacha20Poly1305 => decide)

lemma decodes_charset (c : Charset) : Decodes Charset.ofJson c.toJson c :=
  decodes_named (by cases c <;> decide) (by cases c <;> decide)

lemma decodes_moment (t : Option Timestamp) :
    Decodes (asOption Timestamp.ofJson) (ofOption Timestamp.toJson t) t :=
  decodes_option decodes_timestamp fun _ => nofun

/-! ## Records -/

lemma decodes_ciphertext {c : Ciphertext} (salt : c.salt.IsRead) :
    Decodes Ciphertext.ofJson c.toJson c := by
  have format := decodes_format c.format
  have salt := decodes_salt salt
  have bytes := decodes_bytes c.bytes
  refine decodes_object Ciphertext.layout (by decide) ?_ fun read => ?_
  · exact ⟨rfl, format.accepted _, rfl, salt.accepted _, rfl, bytes.accepted _, trivial⟩
  · rw [Ciphertext.ofJson, read]
    simp [required, ok_bind, format.decoded, salt.decoded, bytes.decoded, pure, Except.pure]

lemma decodes_member {m : Member} (salt : m.salt.IsRead) (dataSalt : m.privateKey.salt.IsRead) :
    Decodes Member.ofJson m.toJson m := by
  have id := decodes_id m.id
  have name := decodes_text m.name
  have salt := decodes_salt salt
  have privateKey := decodes_ciphertext dataSalt
  have publicKey := decodes_text m.publicKey
  have added := decodes_timestamp m.added
  have altered := decodes_timestamp m.altered
  refine decodes_object Member.layout (by decide) ?_ fun read => ?_
  · exact ⟨rfl, id.accepted _, rfl, name.accepted _, rfl, salt.accepted _,
      rfl, privateKey.accepted _, rfl, publicKey.accepted _, rfl, added.accepted _,
      rfl, altered.accepted _, trivial⟩
  · rw [Member.ofJson, read]
    simp [required, ok_bind, id.decoded, name.decoded, salt.decoded, privateKey.decoded,
      publicKey.decoded, added.decoded, altered.decoded, pure, Except.pure]

lemma decodes_circle (c : Circle) : Decodes Circle.ofJson c.toJson c := by
  have id := decodes_id c.id
  have name := decodes_text c.name
  have added := decodes_timestamp c.added
  have altered := decodes_timestamp c.altered
  refine decodes_object Circle.layout (by decide) ?_ fun read => ?_
  · exact ⟨rfl, id.accepted _, rfl, name.accepted _, rfl, added.accepted _,
      rfl, altered.accepted _, trivial⟩
  · rw [Circle.ofJson, read]
    simp [required, ok_bind, id.decoded, name.decoded, added.decoded, altered.decoded, pure,
      Except.pure]

lemma decodes_key (k : CircleKey) : Decodes CircleKey.ofJson k.toJson k := by
  have id := decodes_id k.id
  have circle := decodes_id k.circle
  have algorithm := decodes_algorithm k.algorithm
  have status := decodes_status k.status
  have added := decodes_timestamp k.added
  have altered := decodes_timestamp k.altered
  refine decodes_object CircleKey.layout (by decide) ?_ fun read => ?_
  · exact ⟨rfl, id.accepted _, rfl, circle.accepted _, rfl, algorithm.accepted _,
      rfl, status.accepted _, rfl, added.accepted _, rfl, altered.accepted _, trivial⟩
  · rw [CircleKey.ofJson, read]
    simp [required, ok_bind, id.decoded, circle.decoded, algorithm.decoded, status.decoded,
      added.decoded, altered.decoded, pure, Except.pure]

lemma decodes_grant (g : Grant) : Decodes Grant.ofJson g.toJson g := by
  have id := decodes_id g.id
  have member := decodes_id g.member
  have circle := decodes_id g.circle
  have key := decodes_id g.key
  have level := decodes_level g.level
  have envelope := decodes_bytes g.envelope
  have added := decodes_timestamp g.added
  have altered := decodes_timestamp g.altered
  refine decodes_object Grant.layout (by decide) ?_ fun read => ?_
  · exact ⟨rfl, id.accepted _, rfl, member.accepted _, rfl, circle.accepted _,
      rfl, key.accepted _, rfl, level.accepted _, rfl, envelope.accepted _,
      rfl, added.accepted _, rfl, altered.accepted _, trivial⟩
  · rw [Grant.ofJson, read]
    simp [required, ok_bind, id.decoded, member.decoded, circle.decoded, key.decoded,
      level.decoded, envelope.decoded, added.decoded, altered.decoded, pure, Except.pure]

lemma decodes_signedRecord (r : SignedRecord) : Decodes SignedRecord.ofJson r.toJson r := by
  have checksum := decodes_checksum r.checksum
  have publicKey := decodes_text r.publicKey
  have signature := decodes_signature r.signature
  have expires := decodes_moment r.expires
  have verifications := decodes_uint64 r.verifications
  have last := decodes_moment r.lastVerification
  have added := decodes_timestamp r.added
  have altered := decodes_timestamp r.altered
  refine decodes_object SignedRecord.layout (by decide) ?_ fun read => ?_
  · exact ⟨rfl, checksum.accepted _, rfl, publicKey.accepted _, rfl, signature.accepted _,
      rfl, expires.accepted _, rfl, verifications.accepted _, rfl, last.accepted _,
      rfl, added.accepted _, rfl, altered.accepted _, trivial⟩
  · rw [SignedRecord.ofJson, read]
    simp [required, Json.optional, ok_bind, checksum.decoded, publicKey.decoded,
      signature.decoded, expires.decoded, verifications.decoded, last.decoded, added.decoded,
      altered.decoded, pure, Except.pure]

lemma decodes_sealedKey (k : SealedKey) : Decodes SealedKey.ofJson k.toJson k := by
  have version := decodes_byte k.version
  have ephemeral := decodes_numberBlock k.ephemeral
  have nonce := decodes_numberBlock k.nonce
  have encrypted := decodes_numbers k.encrypted
  refine decodes_object SealedKey.layout (by decide) ?_ fun read => ?_
  · exact ⟨rfl, version.accepted _, rfl, ephemeral.accepted _, rfl, nonce.accepted _,
      rfl, encrypted.accepted _, trivial⟩
  · rw [SealedKey.ofJson, read]
    simp [required, ok_bind, version.decoded, ephemeral.decoded, nonce.decoded,
      encrypted.decoded, pure, Except.pure]

/-! ## Settings -/

lemma decodes_costs (c : Costs) : Decodes Costs.ofJson c.toJson c := by
  have memory := decodes_uint32 c.memoryKib
  have iterations := decodes_uint32 c.iterations
  have parallelism := decodes_uint32 c.parallelism
  refine decodes_object Costs.layout (by decide) ?_ fun read => ?_
  · exact ⟨rfl, memory.accepted _, rfl, iterations.accepted _, rfl, parallelism.accepted _,
      trivial⟩
  · rw [Costs.ofJson, read]
    simp [required, ok_bind, memory.decoded, iterations.decoded, parallelism.decoded, pure,
      Except.pure]

lemma decodes_settings (s : Settings) : Decodes Settings.ofJson s.toJson s := by
  have kdf := decodes_costs s.kdf
  have charset := decodes_charset s.saltCharset
  have least := decodes_uint64 s.minPassphraseLength
  refine decodes_object Settings.layout (by decide) ?_ fun read => ?_
  · exact ⟨rfl, kdf.accepted _, rfl, charset.accepted _, rfl, least.accepted _, trivial⟩
  · rw [Settings.ofJson, read]
    simp [withDefault, ok_bind, kdf.decoded, charset.decoded, least.decoded, pure, Except.pure]

lemma load_write {s : Settings} {kdf : KeyStretching} (usable : s.validate = .ok kdf) :
    Settings.load (write s) = .ok s := by
  have read : ofText Settings.ofJson (write s) = .ok s := (decodes_settings s).ofText
  rw [Settings.load, read]
  simp [usable, ok_bind, pure, Except.pure]

/-- **Stored records survive their JSON form.**  Every record is read back from its text as it was,
a member and encrypted data where their salts have the bytes that their texts stand for; and
settings that are usable are loaded from theirs. -/
theorem read_write_stored :
    (∀ m : Member, m.salt.IsRead → m.privateKey.salt.IsRead → read (write m) = .ok m) ∧
    (∀ c : Circle, read (write c) = .ok c) ∧
    (∀ k : CircleKey, read (write k) = .ok k) ∧
    (∀ g : Grant, read (write g) = .ok g) ∧
    (∀ r : SignedRecord, read (write r) = .ok r) ∧
    (∀ c : Ciphertext, c.salt.IsRead → read (write c) = .ok c) ∧
    (∀ k : SealedKey, read (write k) = .ok k) ∧
    ∀ (s : Settings) (kdf : KeyStretching), s.validate = .ok kdf →
      Settings.load (write s) = .ok s := by
  refine ⟨?_, ?_, ?_, ?_, ?_, ?_, ?_, ?_⟩
  · intro m salt dataSalt
    exact (decodes_member salt dataSalt).ofText
  · intro c
    exact (decodes_circle c).ofText
  · intro k
    exact (decodes_key k).ofText
  · intro g
    exact (decodes_grant g).ofText
  · intro r
    exact (decodes_signedRecord r).ofText
  · intro c salt
    exact (decodes_ciphertext salt).ofText
  · intro k
    exact (decodes_sealedKey k).ofText
  · intro s kdf usable
    exact load_write usable

/-- A member of old, with a name and salts of all kinds. -/
def elder : Member where
  id := ⟨.zero 16⟩
  name := "Élodie \"the elder\"\n"
  salt := .ofText .utf8 "0f8fad5b-d9cb-469f-a165-70867728950e"
  privateKey := ⟨.xchacha20Poly1305, .ofBytes (.zero 16), [1, 2, 3, 255]⟩
  publicKey := "none"
  added := -1
  altered := Timestamp.greatest

theorem read_write_elder :
    read (write elder) = .ok elder ∧ read (write elder.privateKey) = .ok elder.privateKey ∧
      Settings.load (write Settings.cheap) = .ok .cheap := by
  obtain ⟨members, -, -, -, -, ciphertexts, -, settings⟩ := read_write_stored
  have salt : elder.salt.IsRead := Salt.isRead_ofText _
  have dataSalt : elder.privateKey.salt.IsRead := Salt.isRead_ofBytes _
  exact ⟨members elder salt dataSalt, ciphertexts elder.privateKey dataSalt,
    settings .cheap _ rfl⟩

end Json

end CircleVault
