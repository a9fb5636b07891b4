import CircleVault.Keys
import CircleVault.Timestamp

/-!
# Signed content

A signature is stored with the checksum of its content, the signer's public key, an optional expiry
and an account of its successful verifications.

Verifying changes nothing by itself: it yields the record that should be stored next.  An expired
record is turned down before any cryptography runs; then the signature is checked against the
content at hand; and only full success counts.  Verification times strictly increase, even where
the clock does not.
-/

namespace CircleVault

/-- A signature of some content. -/
structure SignedRecord where
  checksum : Checksum
  /-- The signer's public key in Base64. -/
  publicKey : String
  signature : Signature
  /-- The last moment at which the signature counts. -/
  expires : Option Timestamp
  /-- The number of successful verifications. -/
  verifications : UInt64
  /-- The moment of the last of them. -/
  lastVerification : Option Timestamp
  added : Timestamp
  altered : Timestamp
deriving DecidableEq

/-- Why a verification did not succeed. -/
inductive VerificationFault where
  | expired
  | invalidSignature
deriving DecidableEq, Repr

def VerificationFault.name : VerificationFault → String
  | expired => "Expired"
  | invalidSignature => "InvalidSignature"

/-- What a verification comes to. -/
structure Verification where
  /-- The record to store, which differs from the one verified only after success. -/
  record : SignedRecord
  fault : Option VerificationFault
deriving DecidableEq

def Verification.succeeded (v : Verification) : Bool := v.fault.isNone

namespace SignedRecord

/-- Whether the signature no longer counts. -/
def isExpired (r : SignedRecord) (now : Timestamp) : Bool :=
  match r.expires with
  | some t => t < now
  | none => false

def signer (S : Suite) (r : SignedRecord) : Except Failure PublicKey :=
  PublicKey.ofText S r.publicKey

/-- What is signed for some content: its checksum, marked as content of this kind. -/
def message (c : Checksum) : Bytes := Text.utf8 "trustcircle/signature/v1" ++ c.bytes.toBytes

def sign (S : Suite) (key : PrivateKey) (content : Bytes) (expires : Option Timestamp)
    (now : Timestamp) : SignedRecord :=
  let checksum := S.checksum content
  { checksum
    publicKey := (key.publicKey S).toText
    signature := key.sign S (message checksum)
    expires
    verifications := 0
    lastVerification := none
    added := now
    altered := now }

/-- The moment at which a verification is recorded. -/
def verifiedAt (r : SignedRecord) (now : Timestamp) : Timestamp :=
  match r.lastVerification with
  | some previous => Timestamp.later now previous.following
  | none => now

/-- The record after one more verification. -/
def counted (r : SignedRecord) (now : Timestamp) : SignedRecord :=
  { r with
    verifications := r.verifications + 1
    lastVerification := some (r.verifiedAt now) }

/-- Verify that a key signed some content. -/
def verify (S : Suite) (key : PublicKey) (content : Bytes) (r : SignedRecord) (now : Timestamp) :
    Verification :=
  if r.isExpired now then ⟨r, some .expired⟩
  else if key.verifies S (message (S.checksum content)) r.signature then ⟨r.counted now, none⟩
  else ⟨r, some .invalidSignature⟩

end SignedRecord

end CircleVault
