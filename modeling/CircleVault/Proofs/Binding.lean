import CircleVault.Proofs.Aead
import CircleVault.Proofs.Envelope

/-!
# A sealed key is bound to its member and key

Nothing in a sealed key names the grant that it belongs to.  What binds the two is the wrap key,
which is derived from the shared secret, the member's identifier and the key's, one behind the other
with nothing between them.  Sealing takes the two identifiers from the member and the key at hand,
opening takes them from the holder and the grant.

The three parts have fixed lengths, so the material that a wrap key is derived from determines each
of them (`SealedKey.material_inj`).  A grant that was changed to name another member or another key
is therefore opened with other material than it was sealed with, whatever the private key.  Then
it opens only through a `SealedKey.Breach`: both materials are mapped to one wrap key, or the one
ciphertext opens under two.

A breach is about the two materials at hand.  That some two collide would say nothing, because 64
bytes are mapped to 32.  Of the suite it is only assumed that unwrapping undoes wrapping, which is
so for the standard suite (`Suite.standard_wraps`).
-/

namespace CircleVault

namespace SealedKey

/-! ## Material -/

/-- What a wrap key is derived from: a shared secret, then a member, then a key. -/
def material (shared : Block 32) (m : MemberId) (k : KeyId) : Bytes :=
  shared.toBytes ++ Grant.context m k

/-- The material of sealing for a recipient. -/
def sealingMaterial (S : Suite) (drawn : Draw) (recipient : PublicKey) (m : MemberId)
    (k : KeyId) : Bytes :=
  material (S.agree drawn.secret (recipient.agreement S)) m k

/-- The material of opening with a private key. -/
def openingMaterial (S : Suite) (sealed : SealedKey) (key : PrivateKey) (m : MemberId)
    (k : KeyId) : Bytes :=
  material (S.agree (key.agreement S) sealed.ephemeral) m k

variable {shared shared' : Block 32} {m m' : MemberId} {k k' : KeyId}

lemma length_material : (material shared m k).length = 64 := by
  simp only [material, Grant.context, List.length_append, Block.length_toBytes]

/-- The parts of a material can be told from each other. -/
theorem material_inj :
    material shared m k = material shared' m' k' ↔ shared = shared' ∧ m = m' ∧ k = k' := by
  constructor
  · intro same
    obtain ⟨first, context⟩ := List.append_inj same (by simp only [Block.length_toBytes])
    obtain ⟨second, third⟩ := List.append_inj context (by simp only [Block.length_toBytes])
    exact ⟨Block.ext first, congrArg Id.mk (Block.ext second), congrArg Id.mk (Block.ext third)⟩
  · rintro ⟨rfl, rfl, rfl⟩
    rfl

lemma material_ne (apart : (m', k') ≠ (m, k)) : material shared m k ≠ material shared' m' k' := by
  intro same
  obtain ⟨-, rfl, rfl⟩ := material_inj.1 same
  exact apart rfl

/-! ## Breaches -/

/-- How a secret that was wrapped under the key of one material comes out under that of another. -/
inductive Breach (S : Suite) (sealed : SealedKey) (sealing opening : Bytes)
    (secret found : Block 32) : Prop where
  /-- Two different materials of 64 bytes are mapped to one wrap key. -/
  | collision (sizes : sealing.length = 64 ∧ opening.length = 64) (apart : sealing ≠ opening)
      (collide : S.wrapKey sealing = S.wrapKey opening) (same : found = secret) :
      Breach S sealed sealing opening secret found
  /-- The ciphertext opens under two different wrap keys. -/
  | twoKeys (apart : S.wrapKey sealing ≠ S.wrapKey opening)
      (own : S.unwrap (S.wrapKey sealing) sealed.nonce sealed.encrypted = some secret.toBytes)
      (other : S.unwrap (S.wrapKey opening) sealed.nonce sealed.encrypted = some found.toBytes) :
      Breach S sealed sealing opening secret found

variable {S : Suite} {drawn : Draw} {recipient : PublicKey} {secret found : SecretKey}
  {key : PrivateKey}

/-- Under other material than a secret was wrapped with, something comes out exactly through a
breach. -/
lemma unwrap_iff_breach (wraps : S.Wraps) {sealed : SealedKey} {sealing opening : Bytes}
    {secret found : Block 32} (sizes : sealing.length = 64 ∧ opening.length = 64)
    (apart : sealing ≠ opening)
    (wrapped : sealed.encrypted = S.wrap (S.wrapKey sealing) sealed.nonce secret.toBytes) :
    S.unwrap (S.wrapKey opening) sealed.nonce sealed.encrypted = some found.toBytes ↔
      sealed.Breach S sealing opening secret found := by
  have own : S.unwrap (S.wrapKey sealing) sealed.nonce sealed.encrypted = some secret.toBytes := by
    rw [wrapped]
    exact wraps.unwrap_wrap _ _ _
  constructor
  · intro other
    by_cases collide : S.wrapKey sealing = S.wrapKey opening
    · rw [← collide, own] at other
      exact .collision sizes apart collide (Block.ext (Option.some.inj other)).symm
    · exact .twoKeys collide own other
  · rintro (⟨-, -, collide, rfl⟩ | ⟨-, -, other⟩)
    · exact collide ▸ own
    · exact other

/-- In the context of another grant, a sealed key opens exactly through a breach. -/
theorem openWith_iff_breach (wraps : S.Wraps) (apart : (m', k') ≠ (m, k)) :
    (sealFor S drawn recipient (Grant.context m k) secret).openWith S key (Grant.context m' k') =
        .ok found ↔
      found.salt = none ∧
        (sealFor S drawn recipient (Grant.context m k) secret).Breach S
          (sealingMaterial S drawn recipient m k)
          (openingMaterial S (sealFor S drawn recipient (Grant.context m k) secret) key m' k')
          secret.bytes found.bytes := by
  have version : (sealFor S drawn recipient (Grant.context m k) secret).version =
      currentVersion := rfl
  rw [openWith_eq_ok_iff, and_iff_right version, and_comm]
  refine and_congr_right fun _ => ?_
  exact unwrap_iff_breach wraps ⟨length_material, length_material⟩ (material_ne apart) rfl

end SealedKey

namespace Grant

open SealedKey

/-! ## Grants -/

/-- **A sealed key is bound to its member and key.**  In the context of another member or key than
it was sealed in, a sealed key opens exactly through a breach, whatever the private key.  And a
grant with the envelope of one that was made for another member or key gives up a secret only
through a breach, whatever its holder's record, and whatever else was changed. -/
theorem bound_to_member_and_key (S : Suite) (wraps : S.Wraps) :
    (∀ (secret : SecretKey) (recipient : PublicKey) (drawn : SealedKey.Draw) (m m' : MemberId)
        (k k' : KeyId) (key : PrivateKey) (found : SecretKey), (m', k') ≠ (m, k) →
      let sealed := sealFor S drawn recipient (context m k) secret
      (sealed.openWith S key (context m' k') = .ok found ↔
        found.salt = none ∧
          sealed.Breach S (sealingMaterial S drawn recipient m k)
            (openingMaterial S sealed key m' k') secret.bytes found.bytes)) ∧
    ∀ secret ck member level present drawn g,
      make S secret ck member level present drawn = .ok g →
      ∀ g' : Grant, g'.envelope = g.envelope → (g'.member, g'.key) ≠ (g.member, g.key) →
        ∀ kdf holder passphrase found, g'.unlock S kdf holder passphrase = .ok found →
          ∃ recipient key, member.readPublicKey S = .ok recipient ∧
            holder.unlock S kdf passphrase = .ok key ∧
            let sealed := sealFor S drawn.sealing recipient (context g.member g.key) secret
            sealed.Breach S (sealingMaterial S drawn.sealing recipient g.member g.key)
              (openingMaterial S sealed key g'.member g'.key) secret.bytes found.bytes := by
  refine ⟨fun _ _ _ _ _ _ _ _ _ apart => openWith_iff_breach wraps apart, ?_⟩
  intro secret ck member level present drawn g made g' envelope apart kdf holder passphrase found
    unlocked
  obtain ⟨-, -, recipient, parsed, rfl⟩ := make_eq_ok.1 made
  obtain ⟨own, sealed, read, key, opened, opens⟩ := unlock_eq_ok_iff.1 unlocked
  -- What is read out of the exchanged grant is the sealed key that was written for the other.
  have short := wraps.length_wrap (wrapKey S (S.agree drawn.sealing.secret
    (recipient.agreement S)) (context member.id ck.id)) drawn.sealing.nonce secret.bytes
  have written := ofCbor_toCbor (k := sealFor S drawn.sealing recipient
    (context member.id ck.id) secret) short
  rw [envelope] at read
  obtain rfl := Option.some.inj (read.symm.trans (ofCbor_eq_ok.1 written))
  rw [← own] at opens
  exact ⟨recipient, key, parsed, opened, ((openWith_iff_breach wraps apart).1 opens).2⟩

/-! ## A grant that was exchanged -/

open SmallCircle in
/-- The private key that makes up for the difference between Alice's identifier and Bob's, where a
wrap key is the exclusive or of the shared secret and the context. -/
def matching : PrivateKey := ⟨⟨List.replicate 16 2 ++ List.replicate 16 1, by simp⟩⟩

open SmallCircle in
/-- Bob with this private key. -/
def usurper : Member :=
  Member.registered .transparent service.kdf "bob" "battery staple"
    ⟨matching.seed, protection 3, drawn 16 2⟩

open SmallCircle in
/-- The veteran's grant, changed to name Bob. -/
def exchanged : Grant := { veteranGrant with member := bob }

open SmallCircle in
theorem bound_to_member_and_key_exchanged :
    let sealed := sealFor .transparent (granting 4).sealing ⟨drawn 32 1⟩ (context alice clubKey.id)
      ⟨drawn 32 7, none⟩
    (exchanged.member, exchanged.key) ≠ (veteranGrant.member, veteranGrant.key) ∧
      exchanged.unlock .transparent service.kdf usurper "battery staple" =
        .ok ⟨drawn 32 7, none⟩ ∧
      sealed.Breach .transparent
        (sealingMaterial .transparent (granting 4).sealing ⟨drawn 32 1⟩ alice clubKey.id)
        (openingMaterial .transparent sealed matching bob clubKey.id) (drawn 32 7)
        (drawn 32 7) ∧
      ∀ key found,
        let standard := sealFor .standard (granting 4).sealing ⟨drawn 32 1⟩
          (context alice clubKey.id) ⟨drawn 32 7, none⟩
        standard.openWith .standard key (context bob clubKey.id) = .ok found ↔
          found.salt = none ∧
            standard.Breach .standard
              (sealingMaterial .standard (granting 4).sealing ⟨drawn 32 1⟩ alice clubKey.id)
              (openingMaterial .standard standard key bob clubKey.id) (drawn 32 7)
              found.bytes := by
  intro sealed
  have apart : (exchanged.member, exchanged.key) ≠ (veteranGrant.member, veteranGrant.key) := by
    decide +kernel
  have opens : (exchanged.unlock .transparent service.kdf usurper "battery staple").toOption =
      some ⟨drawn 32 7, none⟩ := by
    decide +kernel
  have unlocked : exchanged.unlock .transparent service.kdf usurper "battery staple" =
      .ok ⟨drawn 32 7, none⟩ := by
    cases answer : exchanged.unlock .transparent service.kdf usurper "battery staple" with
    | error e =>
        rw [answer] at opens
        cases opens
    | ok found =>
        rw [answer] at opens
        exact congrArg Except.ok (Option.some.inj opens)
  refine ⟨apart, unlocked, ?_, ?_⟩
  · obtain ⟨recipient, key, parsed, opened, breach⟩ :=
      (bound_to_member_and_key .transparent Service.transparent_roundTrips.wraps).2
        ⟨drawn 32 7, none⟩ clubKey veteran .read [] (granting 4) veteranGrant make_veteranGrant
        exchanged rfl apart service.kdf usurper "battery staple" _ unlocked
    obtain rfl : ⟨drawn 32 1⟩ = recipient := Except.ok.inj (readPublicKey_veteran.symm.trans parsed)
    have shielded : usurper.Protected .transparent service.kdf "battery staple" matching :=
      ⟨⟨protection 3, rfl⟩, rfl⟩
    obtain rfl : matching = key := Except.ok.inj
      ((Member.unlock_protected Service.transparent_roundTrips shielded).symm.trans opened)
    exact breach
  · intro key found
    exact (bound_to_member_and_key .standard Suite.standard_wraps).1 ⟨drawn 32 7, none⟩
      ⟨drawn 32 1⟩ (granting 4).sealing alice bob clubKey.id clubKey.id key found apart

end Grant

end CircleVault
