import CircleVault.Service

/-!
# Rehearsals

Ready-made members and circles for trying the service out: participants whose passphrases follow
from their names, and circles in which an owner grants access to others in a given order.
-/

namespace CircleVault

/-- A registered member together with the passphrase that opens the private key. -/
structure Participant where
  member : Member
  passphrase : String

/-- A participant who is to be granted access, and at which level. -/
structure Admission where
  participant : Participant
  level : TrustLevel
  drawn : Grant.Draw

namespace Rehearsal

def passphraseOf (name : String) : String := name ++ " passphrase"

def numbered (i : Nat) : String := "member-" ++ toString i

def configuration : Configuration := .cheap

variable (sv : Service)

def enrol (name : String) (drawn : Member.Draw) : Program Participant := do
  let passphrase := passphraseOf name
  let m ← sv.registerMember name passphrase drawn
  return ⟨m, passphrase⟩

def enrolAll : List (String × Member.Draw) → Program (List Participant)
  | [] => pure []
  | (name, drawn) :: rest => do
      let p ← enrol sv name drawn
      return p :: (← enrolAll rest)

/-- Grant access to participants in turn, up to the first who is refused. -/
def admitAll (owner : Participant) (circle : CircleId) : List Admission → Program Unit
  | [] => pure ()
  | a :: rest => do
      let _ ← sv.addGrant owner.member.id owner.passphrase circle a.participant.member.id a.level
        a.drawn
      admitAll owner circle rest

/-- A circle with an owner and others at their levels. -/
def circle (name : String) (owner : Participant) (founding : Founding.Draw) (granting : Grant.Draw)
    (others : List Admission) : Program Circle := do
  let (c, _) ← sv.createCircle owner.member.id name founding granting
  admitAll sv owner c.id others
  return c

/-- A signature record whose expiry is given relative to the time of signing. -/
def signFor (S : Suite) (key : PrivateKey) (content : Bytes) (lifetime : Option Timestamp)
    (now : Timestamp) : SignedRecord :=
  SignedRecord.sign S key content (lifetime.map (now + ·)) now

end Rehearsal

end CircleVault
