import CircleVault.Circle
import CircleVault.Member
import CircleVault.SealedKey.Cbor
import CircleVault.TrustLevel

/-!
# Grants

A grant binds a member to a circle's key at a trust level, and carries the circle's secret sealed
under the member's public key.  Whoever holds the grant recovers the secret with a passphrase: the
passphrase opens the private key, and the private key opens the sealed key.

The seal is bound to the member and to the key that the grant names, so a grant that is changed
to name another member or key no longer opens.

Trust levels are recorded here and enforced elsewhere.
-/

namespace CircleVault

/-- Access of a member to a circle. -/
structure Grant where
  id : GrantId
  member : MemberId
  circle : CircleId
  /-- The key whose secret is sealed. -/
  key : KeyId
  level : TrustLevel
  /-- The encoding of the sealed key. -/
  envelope : Bytes
  added : Timestamp
  altered : Timestamp
deriving DecidableEq

namespace Grant

/-- What a seal is bound to: the member it is for and the key whose secret it holds. -/
def context (member : MemberId) (key : KeyId) : Bytes :=
  member.bytes.toBytes ++ key.bytes.toBytes

structure Draw where
  sealing : SealedKey.Draw
  id : Block 16

/-- Grant a member access to the circle of a key, given the circle's present grants. -/
def make (S : Suite) (secret : SecretKey) (key : CircleKey) (member : Member) (level : TrustLevel)
    (present : List Grant) (drawn : Draw) : Except Failure Grant := do
  key.ensureActive
  if present.any fun g => g.member = member.id && g.circle = key.circle then
    throw .alreadyGranted
  let recipient ← member.readPublicKey S
  let sealed := SealedKey.sealFor S drawn.sealing recipient (context member.id key.id) secret
  return {
    id := .random drawn.id
    member := member.id
    circle := key.circle
    key := key.id
    level
    envelope := sealed.toCbor
    added := 0
    altered := 0 }

/-- Recover the circle's secret. -/
def unlock (S : Suite) (kdf : KeyStretching) (g : Grant) (member : Member) (passphrase : String) :
    Except Failure SecretKey := do
  if g.member ≠ member.id then throw .grantOfAnother
  let sealed ← SealedKey.ofCbor g.envelope
  let key ← member.unlock S kdf passphrase
  sealed.openWith S key (context member.id g.key)

/-- The grant at another level, with the same seal. -/
def withLevel (g : Grant) (level : TrustLevel) : Grant := { g with level }

/-- Take a member's grant out of a list. -/
def remove (grants : List Grant) (member : MemberId) : Except Failure (Grant × List Grant) :=
  match grants.find? fun g => g.member = member with
  | some g => .ok (g, grants.eraseP fun g => g.member = member)
  | none => .error .noSuchGrant

end Grant

end CircleVault
