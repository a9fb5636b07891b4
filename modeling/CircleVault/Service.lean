import CircleVault.Program
import CircleVault.SelfTest

/-!
# The service

The operations that members use: registering, founding circles, granting and revoking access,
encrypting and decrypting, signing and verifying.  Each operation loads the records it needs, checks
that the acting member may do what it asks before any key is unlocked, computes, and writes what it
computed in a single call at the end.

* Reading a circle's data takes `read`, writing takes `write`, and managing its grants takes
  `admin`.
* Nobody grants, changes or revokes a level above their own.
* A circle keeps a `sysop`.

Operations are programs, so each of them is also defined where the calls of several operations
interleave.  What is drawn at random is an argument.
-/

namespace CircleVault

/-- A suite with the settings to run it under. -/
structure Service where
  suite : Suite
  settings : Settings
  /-- The password-derived key function that the settings ask for. -/
  kdf : KeyStretching

namespace Service

open Program

/-- Check a configuration, try the suite, and start. -/
def start (S : Suite) (config : Configuration) (drawn : SelfTest.Draw) :
    Except Failure Service := do
  let kdf ← config.settings.validate
  SelfTest.run S kdf drawn
  return ⟨S, config.settings, kdf⟩

variable (sv : Service)

/-- The salt that a stored text stands for. -/
def readSalt (text : String) : Salt := .ofText sv.settings.saltCharset text

/-! ## Members -/

/-- Register a member under a name that is not taken. -/
def registerMember (name passphrase : String) (drawn : Member.Draw) : Program Member := do
  require (← call (.memberNamed name)).isNone .memberNameTaken
  let m ← of (Member.register sv.suite sv.settings sv.kdf name passphrase drawn)
  accepted (← call (.insertMember m))

/-- Load a member, with both salts read in the configured charset. -/
def member (id : MemberId) : Program Member := do
  let m ← found .memberUnknown (← call (.member id))
  return m.reread sv.settings.saltCharset

/-- Protect a member's private key under a new passphrase. -/
def changePassphrase (id : MemberId) (current next : String) (drawn : Member.Protection) :
    Program Member := do
  let m ← sv.member id
  let changed ← of (m.changePassphrase sv.suite sv.settings sv.kdf current next drawn)
  accepted (← call (.updateMember changed))

/-! ## Authority -/

/-- An actor's grant in a circle, if it satisfies a requirement. -/
def authorize (actor : MemberId) (circle : CircleId) (required : TrustLevel) : Program Grant := do
  let g ← found .notTrustee (← call (.grant actor circle))
  require (g.level.allows required) .levelTooLow
  return g

/-- The key that a grant belongs to, if it may receive new grants. -/
def keyOf (g : Grant) : Program CircleKey := do
  let key ← found .grantKeyMissing (← call (.key g.key))
  of key.ensureActive
  return key

/-- Recover a circle's secret through a grant. -/
def secretOf (g : Grant) (passphrase : String) : Program SecretKey := do
  let holder ← sv.member g.member
  of (g.unlock sv.suite sv.kdf holder passphrase)

/-- Whether some grant is at the level of a sysop. -/
def hasSysop (grants : List Grant) : Bool := grants.any fun g => g.level = .sysop

/-! ## Circles -/

/-- Found a circle under a name that is not taken.  The founder gets the first grant. -/
def createCircle (founder : MemberId) (name : String) (founding : Founding.Draw)
    (granting : Grant.Draw) : Program (Circle × Grant) := do
  let owner ← sv.member founder
  require (← call (.circleNamed name)).isNone .circleNameTaken
  let made ← of (Founding.make name founding)
  let g ← of (Grant.make sv.suite made.secret made.key owner .sysop [] granting)
  let stored ← accepted (← call (.createCircle ⟨made.circle, made.key, g⟩))
  return (stored.circle, stored.owner)

def circle (id : CircleId) : Program Circle := do
  found .circleUnknown (← call (.circle id))

def circlesOf : List Grant → Program (List Circle)
  | [] => pure []
  | g :: rest => do
      let c ← circle g.circle
      return c :: (← circlesOf rest)

/-- The circles in which a member holds a grant, oldest grant first. -/
def listCircles (member : MemberId) : Program (List Circle) := do
  circlesOf (← call (.grantsOf member))

def listGrants (circle : CircleId) : Program (List Grant) := call (.grantsIn circle)

/-! ## Grants -/

/-- Grant a member access to a circle.  The actor's passphrase is needed to recover the secret that
is sealed for the member. -/
def addGrant (actor : MemberId) (passphrase : String) (circle : CircleId) (target : MemberId)
    (level : TrustLevel) (drawn : Grant.Draw) : Program Grant := do
  let own ← authorize actor circle .admin
  require (own.level.allows level) .grantAboveOwn
  let recipient ← sv.member target
  -- The new grant lands in the circle of this key, whichever circle was asked for.
  let key ← keyOf own
  let present ← call (.grantsIn circle)
  let secret ← sv.secretOf own passphrase
  let g ← of (Grant.make sv.suite secret key recipient level present drawn)
  accepted (← call (.insertGrant g))

/-- Revoke a member's access to a circle.  The circle's secret stays the same. -/
def removeGrant (actor : MemberId) (circle : CircleId) (target : MemberId) : Program Unit := do
  let own ← authorize actor circle .admin
  let present ← call (.grantsIn circle)
  let (removed, rest) ← of (Grant.remove present target)
  require (own.level.allows removed.level) .revokeAboveOwn
  require (hasSysop rest) .lastSysop
  accepted (← call (.deleteGrant removed.id))

/-- Change the level of a member's access to a circle. -/
def changeLevel (actor : MemberId) (circle : CircleId) (target : MemberId) (level : TrustLevel) :
    Program Grant := do
  let own ← authorize actor circle .admin
  let present ← call (.grantsIn circle)
  let (held, rest) ← of (Grant.remove present target)
  require (own.level.allows held.level && own.level.allows level) .changeAboveOwn
  -- The last sysop is looked for in the listing as it will be, not in the store.
  let changed := held.withLevel level
  require (hasSysop (changed :: rest)) .lastSysop
  accepted (← call (.updateGrant changed))

/-! ## Data -/

def encrypt (actor : MemberId) (passphrase : String) (circle : CircleId) (plaintext : Bytes)
    (drawn : Block 16) : Program Ciphertext := do
  let own ← authorize actor circle .write
  let secret ← sv.secretOf own passphrase
  return Ciphertext.encrypt sv.suite secret (.ofBytes drawn) plaintext

/-- Decrypt a circle's data, whose salt is read in the configured charset. -/
def decrypt (actor : MemberId) (passphrase : String) (circle : CircleId) (data : Ciphertext) :
    Program Bytes := do
  let own ← authorize actor circle .read
  let secret ← sv.secretOf own passphrase
  of ((data.reread sv.settings.saltCharset).decrypt sv.suite secret)

/-! ## Signatures -/

/-- Sign content that the actor has not signed yet. -/
def sign (actor : MemberId) (passphrase : String) (content : Bytes) (expires : Option Timestamp) :
    Program SignedRecord := do
  let signer ← sv.member actor
  let present ← call (.signature (sv.suite.checksum content) signer.publicKey)
  require present.isNone .alreadySigned
  let key ← of (signer.unlock sv.suite sv.kdf passphrase)
  let now ← call .now
  accepted (← call (.upsertSignature (SignedRecord.sign sv.suite key content expires now)))

/-- Verify content against the record that a member made for the content with a checksum.  Only a
verification that succeeds is stored. -/
def verify (signer : MemberId) (signed : Checksum) (content : Bytes) : Program Verification := do
  let m ← sv.member signer
  let key ← of (m.readPublicKey sv.suite)
  let r ← found .noSignatureRecord (← call (.signature signed m.publicKey))
  let now ← call .now
  let v := r.verify sv.suite key content now
  if v.succeeded then
    let stored ← accepted (← call (.upsertSignature v.record))
    return { v with record := stored }
  else
    return v

end Service

end CircleVault
