import CircleVault.Checksum
import CircleVault.Settings

/-!
# Cipher suites

Everything above this module treats cryptography as a handful of functions: a digest, two
authenticated ciphers, a password-derived key function, key agreement and signatures.  A `Suite` is
a choice of these functions, and the rules of members, circles and grants are written for any suite.

`Suite.Sound` states what the rules rely on: opening undoes sealing, the two sides of a key
agreement agree, and a key's own signature is accepted.  It says nothing about security, only that
honest parties understand each other.
-/

namespace CircleVault

/-- A choice of cryptographic functions. -/
structure Suite where
  checksum : Bytes → Checksum
  /-- The key that a passphrase and a salt yield. -/
  stretch : KeyStretching → Bytes → Block 16 → Block 32
  /-- Seal data under a key; the salt takes the place of a nonce. -/
  sealData : Block 32 → Block 16 → Bytes → Bytes
  openData : Block 32 → Block 16 → Bytes → Option Bytes
  /-- The key that wraps a circle's secret, from a shared secret followed by what it is bound to. -/
  wrapKey : Bytes → Block 32
  /-- Seal a circle's secret under a wrap key. -/
  wrap : Block 32 → Block 12 → Bytes → Bytes
  unwrap : Block 32 → Block 12 → Bytes → Option Bytes
  publicOf : Block 32 → Block 32
  isPublic : Block 32 → Bool
  sign : Block 32 → Bytes → Block 64
  verify : Block 32 → Bytes → Block 64 → Bool
  agreementPublic : Block 32 → Block 32
  agreementSecret : Block 32 → Block 32
  agreementOf : Block 32 → Block 32
  /-- The secret that an agreement secret shares with a public side. -/
  agree : Block 32 → Block 32 → Block 32

/-- What the rules rely on. -/
structure Suite.Sound (S : Suite) : Prop where
  /-- Sealed data opens under the key and salt it was sealed with. -/
  openData_sealData (key : Block 32) (salt : Block 16) (b : Bytes) :
    S.openData key salt (S.sealData key salt b) = some b
  /-- A wrapped secret opens under the key and nonce it was wrapped with. -/
  unwrap_wrap (key : Block 32) (nonce : Block 12) (b : Bytes) :
    S.unwrap key nonce (S.wrap key nonce b) = some b
  isPublic_publicOf (seed : Block 32) : S.isPublic (S.publicOf seed) = true
  /-- A drawn secret and a seed agree, whichever side computes. -/
  agree_comm (secret seed : Block 32) :
    S.agree secret (S.agreementPublic (S.publicOf seed)) =
      S.agree (S.agreementSecret seed) (S.agreementOf secret)
  verify_sign (seed : Block 32) (message : Bytes) :
    S.verify (S.publicOf seed) message (S.sign seed message) = true

end CircleVault
