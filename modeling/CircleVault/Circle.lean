import CircleVault.Id
import CircleVault.Keys
import CircleVault.Timestamp

/-!
# Circles

A circle is a trust group with one symmetric secret, drawn when the circle is founded.  Only the
key's description is stored in the clear; the secret itself lives on inside the sealed keys of the
circle's grants, so it has to be sealed for somebody before it is let go.
-/

namespace CircleVault

/-- A trust group. -/
structure Circle where
  id : CircleId
  /-- The circle's name, which no other circle has. -/
  name : String
  added : Timestamp
  altered : Timestamp
deriving DecidableEq

/-- Whether a key may receive new grants. -/
inductive KeyStatus where
  | active
  | deprecated
deriving DecidableEq, Repr

namespace KeyStatus

def name : KeyStatus → String
  | active => "ACTIVE"
  | deprecated => "DEPRECATED"

def all : List KeyStatus := [active, deprecated]

end KeyStatus

/-- The description of a circle's secret. -/
structure CircleKey where
  id : KeyId
  circle : CircleId
  algorithm : Algorithm
  status : KeyStatus
  added : Timestamp
  altered : Timestamp
deriving DecidableEq

namespace CircleKey

/-- Whether the key may receive new grants. -/
def isActive (k : CircleKey) : Bool := k.status = .active

/-- Refuse a key that may not receive new grants. -/
def ensureActive (k : CircleKey) : Except Failure Unit :=
  if k.isActive then .ok () else .error .keyRetired

end CircleKey

/-- A circle that has just been founded: its record, its key and the key's secret. -/
structure Founding where
  circle : Circle
  key : CircleKey
  secret : SecretKey

structure Founding.Draw where
  circle : Block 16
  secret : Block 32
  salt : Block 16
  key : Block 16

/-- Found a circle. -/
def Founding.make (name : String) (drawn : Draw) : Except Failure Founding := do
  if Text.isBlank name then throw .circleNameBlank
  let circle : Circle := { id := .random drawn.circle, name, added := 0, altered := 0 }
  let secret : SecretKey := ⟨drawn.secret, some (Salt.ofBytes drawn.salt)⟩
  let key : CircleKey := {
    id := .random drawn.key
    circle := circle.id
    algorithm := secret.algorithm
    status := .active
    added := 0
    altered := 0 }
  return { circle, key, secret }

end CircleVault
