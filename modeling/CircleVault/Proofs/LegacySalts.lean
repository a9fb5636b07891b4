import CircleVault.Proofs.Json.Records
import CircleVault.Proofs.Readability

/-!
# Salts that are free-form text

A record of old has a free-form text for a salt, turned into bytes in the charset of its time.  What
is written of a salt is its text, and the text is read in UTF-8, so a record that is read back has
other bytes wherever the charset of its time has other bytes for the text.  Nothing is lost by that:
the text is there as it was, and the service reads it again, in the configured charset, each time
that it loads a member or decrypts data.

So a reading is undone by the next one (`Member.reread_stamped`), and what counts is whether the
configured charset gives the text the bytes that it had (`Salt.Settled`).  It does if it is the
charset of the record's time, and always if the text is Base64 of sixteen bytes, which no charset
touches.  Of the cipher suite only `Suite.OpensData` is assumed.
-/

namespace CircleVault

open Json

/-! ## Reading again -/

namespace Salt

/-- A text has the same bytes in the charset that it was first read in and in the configured one:
the two are one charset, or the text is Base64 of sixteen bytes. -/
def Settled (first configured : Charset) (text : String) : Prop :=
  first = configured ∨ canonical? text ≠ none

variable {first configured : Charset} {text : String}

/-- A text that was written for sixteen bytes is settled, whatever the charsets. -/
lemma settled_write (b : Block 16) : Settled first configured (Base64.write b.toBytes) := by
  have read : canonical? (Base64.write b.toBytes) = some b := canonical?_eq_some_iff.2 rfl
  refine .inr ?_
  rw [read]
  exact Option.some_ne_none b

lemma Settled.ofText_eq (h : Settled first configured text) :
    ofText configured text = ofText first text := by
  obtain rfl | canonical := h
  · rfl
  · obtain ⟨b, read⟩ := Option.ne_none_iff_exists'.1 canonical
    rw [ofText, ofText, read, Option.getD_some, Option.getD_some]

end Salt

namespace Ciphertext

lemma reread_reread (first next : Charset) (c : Ciphertext) :
    (c.reread first).reread next = c.reread next := rfl

/-- A ciphertext that is read back has its salt read in UTF-8. -/
lemma read_write (c : Ciphertext) : read (write c) = .ok (c.reread .utf8) := by
  have written : write c = write (c.reread .utf8) := rfl
  rw [written]
  exact (decodes_ciphertext (c := c.reread .utf8) (Salt.isRead_ofText _)).ofText

/-- The service reads back the salt that data was encrypted under. -/
lemma reread_encrypt_ofText {S : Suite} {first configured : Charset} {text : String}
    (settled : Salt.Settled first configured text) (key : SecretKey) (b : Bytes) :
    (encrypt S key (.ofText first text) b).reread configured =
      encrypt S key (.ofText first text) b := by
  have salt : (Salt.ofText first text).reread configured = .ofText first text := settled.ofText_eq
  rw [encrypt, reread, salt]

end Ciphertext

namespace Member

/-- Reading a stored record again undoes the reading before, and leaves its timestamps. -/
lemma reread_stamped (first next : Charset) (m : Member) (added altered : Timestamp) :
    { m.reread first with added, altered }.reread next =
      { m.reread next with added, altered } := rfl

/-- A member that is read back has both salts read in UTF-8. -/
lemma read_write (m : Member) : read (write m) = .ok (m.reread .utf8) := by
  have written : write m = write (m.reread .utf8) := rfl
  rw [written]
  exact (decodes_member (m := m.reread .utf8) (Salt.isRead_ofText _)
    (Salt.isRead_ofText _)).ofText

/-! ## Records of old -/

/-- A member's record with free-form texts for salts: one for the passphrase, and one for the
private key that is encrypted under the key which the passphrase yields. -/
structure Legacy (S : Suite) (kdf : KeyStretching) (charset : Charset) (text dataText : String)
    (passphrase : String) (key : PrivateKey) (m : Member) : Prop where
  salt : m.salt = .ofText charset text
  privateKey : m.privateKey =
    .encrypt S (kdf.derive S passphrase m.salt) (.ofText charset dataText) key.seed.toBytes
  own : (key.publicKey S).toText = m.publicKey

namespace Legacy

variable {S : Suite} {kdf : KeyStretching} {charset configured : Charset} {text dataText : String}
  {passphrase : String} {key : PrivateKey} {m : Member}

/-- Where both texts are settled, the configured charset gives back the record. -/
lemma reread (h : m.Legacy S kdf charset text dataText passphrase key)
    (settled : Salt.Settled charset configured text)
    (dataSettled : Salt.Settled charset configured dataText) : m.reread configured = m := by
  have salt : m.salt.reread configured = m.salt := by
    rw [h.salt]
    exact settled.ofText_eq
  have privateKey : m.privateKey.reread configured = m.privateKey := by
    rw [h.privateKey]
    exact Ciphertext.reread_encrypt_ofText dataSettled _ _
  rw [Member.reread, salt, privateKey]

/-- Timestamps are no part of what a passphrase opens. -/
lemma unlock (opens : S.OpensData) (h : m.Legacy S kdf charset text dataText passphrase key)
    (added altered : Timestamp) :
    { m with added, altered }.unlock S kdf passphrase = .ok key :=
  unlock_encrypted opens h.privateKey h.own

end Legacy

end Member

/-! ## Loading -/

/-- A member is inserted under an identifier and a name that are free, and is there. -/
lemma Store.insertMember_free {s : Store} (now : Timestamp) {m : Member}
    (fresh : s.members.get? m.id = none) (unnamed : s.memberNamed? m.name = none) :
    ∃ t s', s.insertMember now m = .ok { m with added := t, altered := t } s' ∧
      s'.member? m.id = some { m with added := t, altered := t } := by
  have free : ∀ o ∈ s.members.values, o.name ≠ m.name := by simpa [memberNamed?] using unnamed
  exact ⟨_, _, insertMember_eq_ok.2 ⟨fresh, free, rfl, rfl⟩, Table.get?_insert_self ..⟩

namespace Service

open Program

variable {sv : Service} {s : Store} {clock : Nat → Timestamp}

lemma member_meets {id : MemberId} {m : Member} (found : s.member? id = some m) :
    (sv.member id).Meets clock s fun r _ => r = .ok (m.reread sv.settings.saltCharset) := by
  rw [← bind_pure (sv.member id)]
  exact .member_found found (.result rfl)

/-- **Free-form salts keep working.**  A record of old is written and read back, inserted under an
identifier and a name that are free, and loaded by a service under whose charset its texts are
settled: both salts are the original ones, in text and in bytes, and the passphrase opens the
private key.  Data that was encrypted for a circle under such a salt is written, read back and
decrypted by whoever holds a grant that allows reading, with the passphrase that opens it. -/
theorem legacy_salts_work (sv : Service) (opens : sv.suite.OpensData) (charset : Charset) :
    (∀ (text dataText passphrase : String) (key : PrivateKey) (m : Member),
      m.Legacy sv.suite sv.kdf charset text dataText passphrase key →
      Salt.Settled charset sv.settings.saltCharset text →
      Salt.Settled charset sv.settings.saltCharset dataText →
      ∃ record : Member, read (write m) = .ok record ∧
        ∀ (s : Store) (now : Timestamp), s.members.get? record.id = none →
          s.memberNamed? record.name = none →
          ∃ stored s', s.answer now (.insertMember record) = (.ok stored, s') ∧
            ∀ clock, ∃ loaded, (sv.serve s' ⟨.member m.id, clock⟩).1 = .ok loaded ∧
              loaded.salt = m.salt ∧ loaded.privateKey.salt = m.privateKey.salt ∧
              loaded.unlock sv.suite sv.kdf passphrase = .ok key) ∧
    ∀ (text : String) (secret : SecretKey) (plaintext : Bytes),
      Salt.Settled charset sv.settings.saltCharset text →
      ∃ data : Ciphertext,
        read (write (Ciphertext.encrypt sv.suite secret (.ofText charset text) plaintext)) =
          .ok data ∧
        ∀ (s : Store) (actor : MemberId) (circle : CircleId) (own : Grant) (holder : Member)
          (passphrase : String), s.grant? actor circle = some own → .read ≤ own.level →
          s.member? own.member = some holder →
          own.unlock sv.suite sv.kdf (holder.reread sv.settings.saltCharset) passphrase =
            .ok secret →
          ∀ clock,
            (sv.serve s ⟨.decrypt actor passphrase circle data, clock⟩).1 = .ok plaintext := by
  refine ⟨?_, ?_⟩
  · intro text dataText passphrase key m old settled dataSettled
    refine ⟨m.reread .utf8, m.read_write, fun s now fresh unnamed => ?_⟩
    obtain ⟨t, s', wrote, there⟩ := Store.insertMember_free now fresh unnamed
    refine ⟨_, s', congrArg Store.settle wrote, fun clock => ⟨_, member_meets there, ?_⟩⟩
    -- What is loaded is the record of old, but for the timestamps of its insertion.
    rw [Member.reread_stamped, old.reread settled dataSettled]
    exact ⟨rfl, rfl, old.unlock opens t t⟩
  · intro text secret plaintext settled
    refine ⟨_, Ciphertext.read_write _, ?_⟩
    intro s actor circle own holder passphrase held reads found opened clock
    refine (decrypt_of_unlock _ held reads found opened).trans ?_
    rw [Ciphertext.reread_reread, Ciphertext.reread_encrypt_ofText settled,
      Ciphertext.decrypt_encrypt opens]

end Service

/-! ## A member of old in a small circle -/

namespace SmallCircle

/-- The service under the charset Latin-1. -/
def latin : Service := { service with settings := { Settings.cheap with saltCharset := .latin1 } }

/-- A text as long as Base64 of sixteen bytes, with a character that Latin-1 lacks, of which sixteen
bytes of UTF-8 end inside a character. -/
def oldText : String := "100 €, payé à Élodie, 09"

/-- Carol, whose record has texts for salts. -/
def carol : Member where
  id := .random (drawn 16 4)
  name := "carol"
  salt := .ofText .latin1 oldText
  privateKey := .encrypt .transparent
    (latin.kdf.derive .transparent "open sesame" (.ofText .latin1 oldText))
    (.ofText .latin1 "donnée") (drawn 32 9).toBytes
  publicKey := (PrivateKey.publicKey .transparent ⟨drawn 32 9⟩).toText
  added := 0
  altered := 0

lemma carol_legacy : carol.Legacy latin.suite latin.kdf .latin1 oldText "donnée" "open sesame"
    ⟨drawn 32 9⟩ :=
  ⟨rfl, rfl, rfl⟩

/-- Bob's passphrase opens the secret of the club. -/
lemma club_opens : ∃ own holder, (latin.after founded).store.grant? bob club = some own ∧
    .read ≤ own.level ∧ (latin.after founded).store.member? own.member = some holder ∧
    own.unlock latin.suite latin.kdf (holder.reread latin.settings.saltCharset)
      "battery staple" = .ok ⟨drawn 32 7, none⟩ := by
  have held : ((latin.after founded).store.grant? bob club).map (fun g => (g.member, g.level)) =
      some (bob, .write) := by
    decide +kernel
  have opened : ((latin.after founded).store.grant? bob club).bind (fun own =>
      ((latin.after founded).store.member? bob).map fun holder =>
        own.unlock latin.suite latin.kdf (holder.reread .latin1) "battery staple") =
      some (.ok ⟨drawn 32 7, none⟩) := by
    decide +kernel
  obtain ⟨own, granted, mine⟩ := Option.map_eq_some_iff.1 held
  obtain ⟨member, level⟩ := Prod.mk.inj mine
  rw [granted, Option.bind_some] at opened
  obtain ⟨holder, found, opens⟩ := Option.map_eq_some_iff.1 opened
  exact ⟨own, holder, granted, level ▸ by decide, member ▸ found, opens⟩

end SmallCircle

namespace Service

open SmallCircle in
theorem legacy_salts_work_carol :
    carol.Legacy latin.suite latin.kdf .latin1 oldText "donnée" "open sesame" ⟨drawn 32 9⟩ ∧
      (∃ record : Member, read (write carol) = .ok record ∧ record.salt ≠ carol.salt ∧
        ∃ stored s', (latin.after founded).store.answer 50 (.insertMember record) =
            (.ok stored, s') ∧
          ∃ loaded, (latin.serve s' (turn 60 (.member carol.id))).1 = .ok loaded ∧
            loaded.salt = carol.salt ∧ loaded.privateKey.salt = carol.privateKey.salt ∧
            loaded.unlock latin.suite latin.kdf "open sesame" = .ok ⟨drawn 32 9⟩) ∧
      (∃ data : Ciphertext,
        read (write (Ciphertext.encrypt latin.suite ⟨drawn 32 7, none⟩ (.ofText .latin1 "données")
          [111, 107])) = .ok data ∧
        (latin.serve (latin.after founded).store
          (turn 50 (.decrypt bob "battery staple" club data))).1 = .ok [111, 107]) ∧
      ∃ data : Ciphertext,
        read (write (Ciphertext.encrypt latin.suite ⟨drawn 32 7, none⟩
          (.ofText .utf8 (Base64.write (drawn 16 6).toBytes)) [111, 107])) = .ok data ∧
        (latin.serve (latin.after founded).store
          (turn 50 (.decrypt bob "battery staple" club data))).1 = .ok [111, 107] := by
  have opens : latin.suite.OpensData := Suite.transparent_sound.openData_sealData
  obtain ⟨members, data⟩ := legacy_salts_work latin opens .latin1
  obtain ⟨-, canonical⟩ := legacy_salts_work latin opens .utf8
  obtain ⟨own, holder, held, reads, found, opened⟩ := club_opens
  refine ⟨carol_legacy, ?_, ?_, ?_⟩
  · obtain ⟨record, back, works⟩ := members oldText "donnée" "open sesame" ⟨drawn 32 9⟩ carol
      carol_legacy (.inl rfl) (.inl rfl)
    obtain rfl := Except.ok.inj (carol.read_write.symm.trans back)
    obtain ⟨stored, s', wrote, loads⟩ := works (latin.after founded).store 50
      (by decide +kernel) (by decide +kernel)
    exact ⟨_, back, by decide +kernel, stored, s', wrote, loads _⟩
  · obtain ⟨d, back, decrypts⟩ := data "données" ⟨drawn 32 7, none⟩ [111, 107] (.inl rfl)
    exact ⟨d, back, decrypts _ bob club own holder "battery staple" held reads found opened _⟩
  · obtain ⟨d, back, decrypts⟩ := canonical _ ⟨drawn 32 7, none⟩ [111, 107]
      (Salt.settled_write (drawn 16 6))
    exact ⟨d, back, decrypts _ bob club own holder "battery staple" held reads found opened _⟩

end Service

end CircleVault
