import CircleVault.Grant
import CircleVault.SignedRecord
import CircleVault.Table
import CircleVault.Work

/-!
# The store

The store holds every record, and hands out the timestamps of its writes.  Each call is one atomic
step.  A write works on the store in place and can be refused at any point (`Store.Write`); nothing
is rolled back.  Every write makes its checks first, then moves the clock on, and then files its
records one after another.

* **Timestamps.**  An insertion sets `added` and `altered`; an update sets `altered` and keeps the
  stored `added`.  Timestamps strictly increase from write to write, even where the wall clock does
  not.  The record returned carries the timestamps that were set.
* **Uniqueness.**  Member names and circle names are unique, a member holds one grant in a circle,
  and a circle is given one active key.  The service refuses duplicates that it can see before the
  store does; the store refuses those that arise in between.
* **Signatures.**  A stored signature is replaced only by a record exactly one verification ahead,
  so verifications that race each other are neither lost nor counted twice.
-/

namespace CircleVault

/-- Every record, and the last timestamp handed out. -/
structure Store where
  members : Table MemberId Member
  circles : Table CircleId Circle
  keys : Table KeyId CircleKey
  grants : Table GrantId Grant
  /-- Signatures, by the checksum of their content and the signer's public key. -/
  signatures : Table (Checksum × String) SignedRecord
  clock : Timestamp
deriving DecidableEq

namespace Store

def empty : Store := ⟨.empty, .empty, .empty, .empty, .empty, 0⟩

/-- What a write comes to: its result or why it was refused, and the store as it is then. -/
abbrev Write (α : Type) := EStateM.Result StoreFailure Store α

/-- Work on the store as one write. -/
def write {α : Type} (s : Store) (w : Work StoreFailure Store α) : Write α := w.run s

/-- The timestamp of the next write: the wall clock's, or the one after the last. -/
def tick (s : Store) (now : Timestamp) : Timestamp := Timestamp.later now (s.clock + 1)

/-- Hand out the timestamp of this write, which moves the clock on. -/
def advance (now : Timestamp) : Work StoreFailure Store Timestamp :=
  modifyGet fun s => (s.tick now, { s with clock := s.tick now })

open Work

/-! ## Members -/

def insertMember (s : Store) (now : Timestamp) (m : Member) : Write Member := s.write do
  refuseIf (fun s => s.members.contains m.id) (.constraint (.memberExists m.id))
  refuseIf (fun s => s.members.values.any fun o => o.name = m.name) (.constraint .memberNameTaken)
  let t ← advance now
  let stored := { m with added := t, altered := t }
  modify fun s => { s with members := s.members.insert stored.id stored }
  return stored

def updateMember (s : Store) (now : Timestamp) (m : Member) : Write Member := s.write do
  let present ← find (.missing m.id) fun s => s.members.get? m.id
  refuseIf (fun s => s.members.values.any fun o => o.id ≠ m.id && o.name = m.name)
    (.constraint .memberNameTaken)
  let t ← advance now
  let stored := { m with added := present.added, altered := t }
  modify fun s => { s with members := s.members.insert stored.id stored }
  return stored

def member? (s : Store) (id : MemberId) : Option Member := s.members.get? id

def memberNamed? (s : Store) (name : String) : Option Member :=
  s.members.values.find? fun m => m.name = name

/-! ## Circles -/

def insertCircle (s : Store) (now : Timestamp) (c : Circle) : Write Circle := s.write do
  refuseIf (fun s => s.circles.contains c.id) (.constraint (.circleExists c.id))
  refuseIf (fun s => s.circles.values.any fun o => o.name = c.name) (.constraint .circleNameTaken)
  let t ← advance now
  let stored := { c with added := t, altered := t }
  modify fun s => { s with circles := s.circles.insert stored.id stored }
  return stored

/-- A circle together with its first key and its owner's grant. -/
structure Founded where
  circle : Circle
  key : CircleKey
  owner : Grant
deriving DecidableEq

/-- Store a new circle together with its first key and its owner's grant, or none of them. -/
def createCircle (s : Store) (now : Timestamp) (f : Founded) : Write Founded := s.write do
  -- Everything is checked before any table is touched.
  refuseIf (fun s => s.circles.contains f.circle.id) (.constraint (.circleExists f.circle.id))
  refuseIf (fun s => s.circles.values.any fun o => o.name = f.circle.name)
    (.constraint .circleNameTaken)
  refuseIf
    (fun _ => f.key.circle ≠ f.circle.id || f.owner.circle ≠ f.circle.id || f.owner.key ≠ f.key.id)
    (.constraint .strangersToCircle)
  refuseIf (fun s => s.keys.contains f.key.id) (.constraint (.keyExists f.key.id))
  refuseIf (fun s => !s.members.contains f.owner.member) (.missing f.owner.member)
  refuseIf (fun s => s.grants.contains f.owner.id) (.constraint (.grantExists f.owner.id))
  let t ← advance now
  let circle := { f.circle with added := t, altered := t }
  let key := { f.key with added := t, altered := t }
  let owner := { f.owner with added := t, altered := t }
  modify fun s => { s with circles := s.circles.insert circle.id circle }
  modify fun s => { s with keys := s.keys.insert key.id key }
  modify fun s => { s with grants := s.grants.insert owner.id owner }
  return ⟨circle, key, owner⟩

def circle? (s : Store) (id : CircleId) : Option Circle := s.circles.get? id

def circleNamed? (s : Store) (name : String) : Option Circle :=
  s.circles.values.find? fun c => c.name = name

/-! ## Keys -/

def insertKey (s : Store) (now : Timestamp) (k : CircleKey) : Write CircleKey := s.write do
  refuseIf (fun s => !s.circles.contains k.circle) (.missing k.circle)
  refuseIf (fun s => s.keys.contains k.id) (.constraint (.keyExists k.id))
  refuseIf (fun s => k.isActive && s.keys.values.any fun o => o.circle = k.circle && o.isActive)
    (.constraint .secondActiveKey)
  let t ← advance now
  let stored := { k with added := t, altered := t }
  modify fun s => { s with keys := s.keys.insert stored.id stored }
  return stored

/-- Replace a key's description, for instance to retire it. -/
def updateKey (s : Store) (now : Timestamp) (k : CircleKey) : Write CircleKey := s.write do
  let present ← find (.missing k.id) fun s => s.keys.get? k.id
  refuseIf
    (fun s => k.isActive &&
      s.keys.values.any fun o => o.id ≠ k.id && o.circle = k.circle && o.isActive)
    (.constraint .secondActiveKey)
  let t ← advance now
  let stored := { k with added := present.added, altered := t }
  modify fun s => { s with keys := s.keys.insert stored.id stored }
  return stored

def key? (s : Store) (id : KeyId) : Option CircleKey := s.keys.get? id

/-- A circle's active key. -/
def activeKey? (s : Store) (circle : CircleId) : Option CircleKey :=
  s.keys.values.find? fun k => k.circle = circle && k.isActive

/-! ## Grants -/

def insertGrant (s : Store) (now : Timestamp) (g : Grant) : Write Grant := s.write do
  refuseIf (fun s => !s.members.contains g.member) (.missing g.member)
  refuseIf (fun s => !s.circles.contains g.circle) (.missing g.circle)
  refuseIf
    (fun s => s.grants.contains g.id ||
      s.grants.values.any fun o => o.member = g.member && o.circle = g.circle)
    (.constraint .secondGrant)
  let t ← advance now
  let stored := { g with added := t, altered := t }
  modify fun s => { s with grants := s.grants.insert stored.id stored }
  return stored

/-- Replace a grant, which stays with its member and circle. -/
def updateGrant (s : Store) (now : Timestamp) (g : Grant) : Write Grant := s.write do
  let present ← find (.missing g.id) fun s => s.grants.get? g.id
  refuseIf (fun _ => present.member ≠ g.member || present.circle ≠ g.circle)
    (.constraint .grantMoved)
  let t ← advance now
  let stored := { g with added := present.added, altered := t }
  modify fun s => { s with grants := s.grants.insert stored.id stored }
  return stored

def deleteGrant (s : Store) (id : GrantId) : Write Unit := s.write do
  -- The grant is taken out before it is known to have been there.
  let removed ← modifyGet fun s => (s.grants.get? id, { s with grants := s.grants.erase id })
  match removed with
  | some _ => return ()
  | none => throw (.missing id)

def grant? (s : Store) (member : MemberId) (circle : CircleId) : Option Grant :=
  s.grants.values.find? fun g => g.member = member && g.circle = circle

/-- Grants in the order of their insertion. -/
def oldestFirst (grants : List Grant) : List Grant :=
  grants.mergeSort fun a b => a.added ≤ b.added

/-- All grants in a circle, oldest first. -/
def grantsIn (s : Store) (circle : CircleId) : List Grant :=
  oldestFirst (s.grants.values.filter fun g => g.circle = circle)

/-- All grants that a member holds, oldest first. -/
def grantsOf (s : Store) (member : MemberId) : List Grant :=
  oldestFirst (s.grants.values.filter fun g => g.member = member)

/-! ## Signatures -/

/-- The `added` of a signature record about to be stored, unless it is refused. -/
def signatureAdded (s : Store) (r : SignedRecord) : Except StoreFailure Timestamp :=
  match s.signatures.get? (r.checksum, r.publicKey) with
  | none => .ok r.added
  | some present =>
      if r.verifications = present.verifications + 1 then .ok present.added
      else if r.verifications = 0 then .error (.constraint (.alreadySigned present.checksum))
      else .error (.constraint .staleSignature)

/-- Store a signature record: a first one for its content and signer, or the next verification of
the stored one. -/
def upsertSignature (s : Store) (now : Timestamp) (r : SignedRecord) : Write SignedRecord :=
  s.write do
    let added ← judge fun s => s.signatureAdded r
    let t ← advance now
    let stored := { r with added, altered := t }
    modify fun s =>
      { s with signatures := s.signatures.insert (r.checksum, r.publicKey) stored }
    return stored

def signature? (s : Store) (checksum : Checksum) (publicKey : String) : Option SignedRecord :=
  s.signatures.get? (checksum, publicKey)

end Store

end CircleVault
