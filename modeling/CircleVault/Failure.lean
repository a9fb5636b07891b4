import CircleVault.Id
import CircleVault.Outcome
import CircleVault.Checksum

/-!
# Failures

A failure is the cause for which an operation was refused.  What a caller is told about it is a
`Report`: the catalogued outcome, a text, and for the server's own failures the cause behind it.
A warning never carries a cause, because it must not leak detail to the client that provoked it.

The store has failures of its own, in terms of records and constraints; the service passes them
on with the detail that a client may see.
-/

namespace CircleVault

/-! ## Reports -/

/-- What a caller is told about a failure. -/
structure Report where
  outcome : Outcome
  message : String
  source : Option String
deriving DecidableEq, Repr

namespace Report

def plain (outcome : Outcome) (message : String) : Report := ⟨outcome, message, none⟩

/-- Attach a cause, unless the outcome is a warning. -/
def withSource (r : Report) (source : String) : Report :=
  if r.outcome.isWarning then r else { r with source := some source }

/-- The outcome and the text in one line. -/
def display (r : Report) : String := r.outcome.display ++ ": " ++ r.message

end Report

/-! ## Failures of the store -/

/-- A constraint that a write would violate. -/
inductive Violation where
  | memberExists (id : MemberId)
  | memberNameTaken
  | circleExists (id : CircleId)
  | circleNameTaken
  /-- The key and the owner's grant of a new circle name another circle or key. -/
  | strangersToCircle
  | keyExists (id : KeyId)
  | secondActiveKey
  | grantExists (id : GrantId)
  | secondGrant
  /-- An update would move a grant to another member or circle. -/
  | grantMoved
  | alreadySigned (checksum : Checksum)
  /-- A verification was counted in the meantime. -/
  | staleSignature
  /-- A constraint of some other store, in that store's words. -/
  | stated (message : String)
deriving DecidableEq

def Violation.message : Violation → String
  | memberExists id => "member " ++ id.toText ++ " exists"
  | memberNameTaken => "member name taken"
  | circleExists id => "circle " ++ id.toText ++ " exists"
  | circleNameTaken => "circle name taken"
  | strangersToCircle => "key and owner must belong to the new circle"
  | keyExists id => "key " ++ id.toText ++ " exists"
  | secondActiveKey => "circle already has an active key"
  | grantExists id => "trustee " ++ id.toText ++ " exists"
  | secondGrant => "member is already a trustee of this circle"
  | grantMoved => "trustee member and circle are immutable"
  | alreadySigned c => "content " ++ c.toHex ++ " already signed by this key"
  | staleSignature => "signature record is stale"
  | stated m => m

/-- Why the store refused a call. -/
inductive StoreFailure where
  | notFound (kind : RecordKind) (key : String)
  | constraint (violation : Violation)
  | backend (message : String)
deriving DecidableEq

namespace StoreFailure

/-- No record of this kind has the given identifier. -/
def missing {kind : RecordKind} (id : Id kind) : StoreFailure := notFound kind id.toText

/-- The full text, for the store's own callers. -/
def display : StoreFailure → String
  | notFound kind key => kind.word ++ " not found: " ++ key
  | constraint v => "constraint violated: " ++ v.message
  | backend m => "database error: " ++ m

/-- What the service's callers are told: which kind of record is missing but not its key, and of
a backend failure nothing but the cause. -/
def report (f : StoreFailure) : Report :=
  match f with
  | notFound kind _ => .plain .identificationWarning (kind.word ++ " not found")
  | constraint v => .plain .constraintError v.message
  | backend _ => (Report.plain .databaseError "store operation failed").withSource f.display

end StoreFailure

/-! ## Failures of operations -/

/-- Why the costs of the password-derived key function are unusable. -/
inductive CostProblem where
  | memoryTooSmall
  | timeTooSmall
  | threadsTooFew
  | threadsTooMany
deriving DecidableEq, Repr

def CostProblem.message : CostProblem → String
  | memoryTooSmall => "memory cost is too small"
  | timeTooSmall => "time cost is too small"
  | threadsTooFew => "not enough threads"
  | threadsTooMany => "too many threads"

/-- Why an operation was refused. -/
inductive Failure where
  | notBase64
  /-- A binary field has the wrong number of bytes. -/
  | wrongSize (expected actual : Nat)
  | unknownTrustLevel (text : String)
  | settingsUnreadable
  | costUnusable (problem : CostProblem)
  /-- The settings would accept an empty passphrase. -/
  | emptyPassphraseAllowed
  | passphraseTooShort (least : Nat)
  /-- The data cipher fails its self-test. -/
  | cipherBroken
  /-- Signatures fail their self-test. -/
  | signatureBroken
  | secretKeySize (actual : Nat)
  | privateKeySize
  | publicKeyUnreadable
  | signatureInvalid
  /-- Encrypted data does not open: wrong key, wrong salt or tampering. -/
  | dataUnopened
  | memberNameBlank
  | circleNameBlank
  /-- The passphrase does not open the private key. -/
  | notAuthenticated
  | privateKeyMalformed
  | privateKeyMismatch
  | keyRetired
  /-- The member already holds a grant in the circle. -/
  | alreadyGranted
  /-- The grant was made for somebody else. -/
  | grantOfAnother
  /-- The member whose grant is to be changed holds none in the circle. -/
  | noSuchGrant
  | envelopeUnreadable
  | envelopeVersion (version : UInt8)
  | envelopeUnopened
  | memberNameTaken
  | circleNameTaken
  | memberUnknown
  | circleUnknown
  /-- The acting member holds no grant in the circle. -/
  | notTrustee
  | levelTooLow
  | grantAboveOwn
  | revokeAboveOwn
  | changeAboveOwn
  | lastSysop
  /-- A grant names a key that is not there. -/
  | grantKeyMissing
  | alreadySigned
  | noSignatureRecord
  | store (cause : StoreFailure)
deriving DecidableEq

/-- What the caller is told. -/
def Failure.report : Failure → Report
  | notBase64 => .plain .verificationWarning "value is not valid Base64"
  | wrongSize expected actual =>
      .plain .verificationWarning s!"expected {expected} bytes, got {actual}"
  | unknownTrustLevel text =>
      .plain .verificationWarning ("unknown trust level '" ++ text ++ "'")
  | settingsUnreadable =>
      (Report.plain .settingError "settings could not be parsed").withSource
        "the text is not the JSON form of settings"
  | costUnusable problem =>
      .plain .settingError ("invalid KDF parameters: " ++ problem.message)
  | emptyPassphraseAllowed =>
      .plain .settingError "minimum passphrase length must be at least 1"
  | passphraseTooShort least =>
      .plain .settingWarning s!"passphrase must be at least {least} characters"
  | cipherBroken => .plain .cryptoError "cipher self-test failed"
  | signatureBroken => .plain .cryptoError "signature self-test failed"
  | secretKeySize actual => .plain .cryptoError s!"invalid key length: expected 32, got {actual}"
  | privateKeySize => .plain .cryptoError "private key has an invalid length"
  | publicKeyUnreadable => .plain .cryptoError "public key could not be parsed"
  | signatureInvalid => .plain .signatureWarning "signature is invalid"
  | dataUnopened =>
      .plain .integrityWarning "data could not be decrypted or has been tampered with"
  | memberNameBlank => .plain .verificationWarning "member name must not be empty"
  | circleNameBlank => .plain .verificationWarning "circle name must not be empty"
  | notAuthenticated => .plain .authenticationWarning "authentication failed"
  | privateKeyMalformed => .plain .integrityError "stored private key is malformed"
  | privateKeyMismatch => .plain .integrityError "stored private key does not match public key"
  | keyRetired => .plain .illegalAction "circle key is not active"
  | alreadyGranted => .plain .illegalAction "member is already a trustee of this circle"
  | grantOfAnother => .plain .illegalAction "trustee belongs to another member"
  | noSuchGrant => .plain .identificationWarning "member is not a trustee of this circle"
  | envelopeUnreadable =>
      (Report.plain .integrityError "sealed key could not be decoded").withSource
        "the bytes are not the encoding of a sealed key"
  | envelopeVersion version =>
      .plain .integrityError ("unsupported sealed key version " ++ toString version.toNat)
  | envelopeUnopened => .plain .cryptoError "circle key could not be opened"
  | memberNameTaken => .plain .illegalAction "member name taken"
  | circleNameTaken => .plain .illegalAction "circle name taken"
  | memberUnknown => .plain .identificationWarning "member not found"
  | circleUnknown => .plain .identificationWarning "circle not found"
  | notTrustee => .plain .authorizationWarning "not a trustee of this circle"
  | levelTooLow => .plain .authorizationWarning "trust level too low"
  | grantAboveOwn => .plain .authorizationWarning "cannot grant above own trust level"
  | revokeAboveOwn => .plain .authorizationWarning "cannot revoke a higher trust level"
  | changeAboveOwn => .plain .authorizationWarning "cannot change a level above own"
  | lastSysop => .plain .illegalAction "circle must keep a sysop"
  | grantKeyMissing => .plain .integrityError "trustee references a missing key"
  | alreadySigned => .plain .illegalAction "content already signed by this member"
  | noSignatureRecord => .plain .identificationWarning "no signature record"
  | store cause => cause.report

def Failure.outcome (f : Failure) : Outcome := f.report.outcome

end CircleVault
