import CircleVault.Suite
import CircleVault.Cipher.Aead
import CircleVault.Curve.Ed25519
import CircleVault.Curve.Montgomery
import CircleVault.Hash.Argon2
import CircleVault.Hash.Blake3
import CircleVault.Text

/-!
# The standard suite

BLAKE3 for digests and derived keys, Argon2id for passphrases, XChaCha20-Poly1305 for data,
ChaCha20-Poly1305 for wrapped secrets, Ed25519 for signatures and X25519 for key agreement.
-/

namespace CircleVault.Suite

/-- The purpose for which nonces are derived from salts. -/
def nonceContext : Bytes := Text.utf8 "trustcircle v1 data-cipher nonce"

/-- The purpose for which wrap keys are derived. -/
def wrapContext : Bytes := Text.utf8 "trustcircle v1 circle-key wrap"

/-- The nonce that a salt yields. -/
def dataNonce (salt : Block 16) : Block 24 :=
  Block.fit 24 (Blake3.derive nonceContext salt.toBytes).toBytes

/-- The standard suite. -/
def standard : Suite where
  checksum b := ⟨Blake3.hash b⟩
  stretch := Argon2.derive
  sealData key salt b := Aead.sealLong key (dataNonce salt) b
  openData key salt b := Aead.openLong key (dataNonce salt) b
  wrapKey material := Blake3.derive wrapContext material
  wrap := Aead.sealBytes
  unwrap := Aead.openBytes
  publicOf := Curve.Ed25519.publicOf
  isPublic := Curve.Ed25519.isPublic
  sign := Curve.Ed25519.sign
  verify := Curve.Ed25519.verify
  agreementPublic := Curve.Ed25519.toMontgomery
  agreementSecret := Curve.Ed25519.scalarBytes
  agreementOf := Curve.Montgomery.publicOf
  agree := Curve.Montgomery.agree

end CircleVault.Suite
