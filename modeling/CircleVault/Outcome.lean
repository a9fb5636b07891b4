/-!
# The catalogue of outcomes

Every failure is tagged with exactly one catalogued outcome.  An outcome has a number of its own,
an external status with the meaning of an HTTP status, a severity and a fixed description.
Numbers of published outcomes never change their meaning.
-/

namespace CircleVault

/-- How serious an outcome is: the request went through, the client erred, or the server did. -/
inductive Severity where
  | info
  | warning
  | error
deriving DecidableEq, Repr

/-- A catalogued outcome. -/
inductive Outcome where
  | success
  | authenticationWarning
  | authorizationWarning
  | identificationWarning
  | illegalAction
  | verificationWarning
  | integrityWarning
  | signatureWarning
  | settingWarning
  | error
  | cryptoError
  | integrityError
  | settingError
  | databaseError
  | constraintError
deriving DecidableEq, Repr

namespace Severity

def name : Severity → String
  | info => "Info"
  | warning => "Warning"
  | error => "Error"

/-- The severity as records spell it. -/
def upperName : Severity → String
  | info => "INFO"
  | warning => "WARNING"
  | error => "ERROR"

/-- Every severity, mildest first. -/
def all : List Severity := [info, warning, error]

end Severity

namespace Outcome

/-- The whole catalogue, in the order of its numbers. -/
def all : List Outcome :=
  [success, authenticationWarning, authorizationWarning, identificationWarning, illegalAction,
    verificationWarning, integrityWarning, signatureWarning, settingWarning, error, cryptoError,
    integrityError, settingError, databaseError, constraintError]

def name : Outcome → String
  | success => "Success"
  | authenticationWarning => "AuthenticationWarning"
  | authorizationWarning => "AuthorizationWarning"
  | identificationWarning => "IdentificationWarning"
  | illegalAction => "IllegalAction"
  | verificationWarning => "VerificationWarning"
  | integrityWarning => "IntegrityWarning"
  | signatureWarning => "SignatureWarning"
  | settingWarning => "SettingWarning"
  | error => "Error"
  | cryptoError => "CryptoError"
  | integrityError => "IntegrityError"
  | settingError => "SettingError"
  | databaseError => "DatabaseError"
  | constraintError => "ConstraintError"

def number : Outcome → Nat
  | success => 0
  | authenticationWarning => 401
  | authorizationWarning => 403
  | identificationWarning => 404
  | illegalAction => 405
  | verificationWarning => 406
  | integrityWarning => 409
  | signatureWarning => 412
  | settingWarning => 422
  | error => 900
  | cryptoError => 901
  | integrityError => 902
  | settingError => 903
  | databaseError => 904
  | constraintError => 905

/-- The severity follows from the number: zero is fine, the hundreds of four are the client's
doing, the hundreds of nine the server's. -/
def severity (o : Outcome) : Severity :=
  if o.number = 0 then .info else if o.number < 900 then .warning else .error

/-- The external status: the client's outcomes keep their number, the server's are all 500. -/
def status (o : Outcome) : Nat :=
  match o.severity with
  | .info => 200
  | .warning => o.number
  | .error => 500

/-- A sentence for the reader of a log. -/
def description : Outcome → String
  | success => "The request completed without errors."
  | authenticationWarning => "The account could not be authenticated."
  | authorizationWarning => "The account is not permitted to perform this request."
  | identificationWarning => "The requested object could not be identified."
  | illegalAction => "The requested action is not allowed."
  | verificationWarning => "The request contained values that failed verification."
  | integrityWarning => "The data could not be decrypted or has been tampered with."
  | signatureWarning => "The signature is invalid."
  | settingWarning => "The value was rejected by the current settings."
  | error => "An unknown error occurred."
  | cryptoError => "A cryptographic operation failed."
  | integrityError => "Stored data is corrupted."
  | settingError => "The settings could not be read or are invalid."
  | databaseError => "The storage layer failed."
  | constraintError => "A uniqueness constraint was violated."

/-- The outcome with a given number; an unknown number is the unknown error. -/
def ofNumber (n : Int) : Outcome := (all.find? fun o => (o.number : Int) = n).getD error

/-- Whether the client did something wrong. -/
def isWarning (o : Outcome) : Bool := o.severity = .warning

def isError (o : Outcome) : Bool := o.severity = .error

/-- The name with the number in brackets. -/
def display (o : Outcome) : String := o.name ++ "(" ++ toString o.number ++ ")"

end Outcome

end CircleVault
