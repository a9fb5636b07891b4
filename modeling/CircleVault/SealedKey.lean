import CircleVault.Keys

/-!
# Sealed keys

A circle's secret is sealed once for each member who holds a grant.  A drawn secret and the
member's public key agree on a shared secret; the shared secret, together with a context that names
the grant, yields a wrap key; and the wrap key encrypts the circle's secret.  The member undoes this
with the private key, the public side of the drawn secret, and the same context.
-/

namespace CircleVault

/-- A circle's secret, encrypted for one recipient. -/
structure SealedKey where
  version : UInt8
  /-- The public side of the secret drawn for this seal. -/
  ephemeral : Block 32
  nonce : Block 12
  /-- The encrypted secret with its authentication tag. -/
  encrypted : Bytes
deriving DecidableEq

structure SealedKey.Draw where
  secret : Block 32
  nonce : Block 12

namespace SealedKey

/-- The version of the layout that is written, and the only one that is opened. -/
def currentVersion : UInt8 := 1

/-- The wrap key for a shared secret and a context. -/
def wrapKey (S : Suite) (shared : Block 32) (context : Bytes) : Block 32 :=
  S.wrapKey (shared.toBytes ++ context)

/-- Seal some bytes for a recipient. -/
def sealBytes (S : Suite) (drawn : Draw) (recipient : PublicKey) (context secret : Bytes) :
    SealedKey :=
  let key := wrapKey S (S.agree drawn.secret (recipient.agreement S)) context
  ⟨currentVersion, S.agreementOf drawn.secret, drawn.nonce, S.wrap key drawn.nonce secret⟩

/-- Seal a circle's secret for a recipient. -/
def sealFor (S : Suite) (drawn : Draw) (recipient : PublicKey) (context : Bytes)
    (secret : SecretKey) : SealedKey :=
  sealBytes S drawn recipient context secret.bytes.toBytes

/-- The bytes in a sealed key, under the wrap key for a shared secret and a context. -/
def unwrap (S : Suite) (shared : Block 32) (context : Bytes) (nonce : Block 12)
    (encrypted : Bytes) : Except Failure Bytes :=
  match S.unwrap (wrapKey S shared context) nonce encrypted with
  | some b => .ok b
  | none => .error .envelopeUnopened

/-- Open a sealed key with the recipient's private key. -/
def openWith (S : Suite) (k : SealedKey) (recipient : PrivateKey) (context : Bytes) :
    Except Failure SecretKey := do
  if k.version ≠ currentVersion then throw (.envelopeVersion k.version)
  let shared := S.agree (recipient.agreement S) k.ephemeral
  SecretKey.ofBytes (← unwrap S shared context k.nonce k.encrypted)

end SealedKey

end CircleVault
