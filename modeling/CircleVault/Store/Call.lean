import CircleVault.Store

/-!
# Calls of the store

A `Call` is one thing that can be asked of the store, or of the clock beside it, and `Call.Answer`
is the type of what comes back.  `Store.answer` performs a call at a given moment as one atomic
step; whatever runs against the store is a sequence of such steps, possibly interleaved with
somebody else's.
-/

namespace CircleVault

/-- A question to the store or the clock. -/
inductive Call where
  | now
  | member (id : MemberId)
  | memberNamed (name : String)
  | circle (id : CircleId)
  | circleNamed (name : String)
  | key (id : KeyId)
  | activeKey (circle : CircleId)
  | grant (member : MemberId) (circle : CircleId)
  | grantsIn (circle : CircleId)
  | grantsOf (member : MemberId)
  | signature (checksum : Checksum) (publicKey : String)
  | insertMember (m : Member)
  | updateMember (m : Member)
  | insertCircle (c : Circle)
  | createCircle (f : Store.Founded)
  | insertKey (k : CircleKey)
  | updateKey (k : CircleKey)
  | insertGrant (g : Grant)
  | updateGrant (g : Grant)
  | deleteGrant (id : GrantId)
  | upsertSignature (r : SignedRecord)
deriving DecidableEq

abbrev Call.Answer : Call → Type
  | .now => Timestamp
  | .member _ => Option Member
  | .memberNamed _ => Option Member
  | .circle _ => Option Circle
  | .circleNamed _ => Option Circle
  | .key _ => Option CircleKey
  | .activeKey _ => Option CircleKey
  | .grant _ _ => Option Grant
  | .grantsIn _ => List Grant
  | .grantsOf _ => List Grant
  | .signature _ _ => Option SignedRecord
  | .insertMember _ => Except StoreFailure Member
  | .updateMember _ => Except StoreFailure Member
  | .insertCircle _ => Except StoreFailure Circle
  | .createCircle _ => Except StoreFailure Store.Founded
  | .insertKey _ => Except StoreFailure CircleKey
  | .updateKey _ => Except StoreFailure CircleKey
  | .insertGrant _ => Except StoreFailure Grant
  | .updateGrant _ => Except StoreFailure Grant
  | .deleteGrant _ => Except StoreFailure Unit
  | .upsertSignature _ => Except StoreFailure SignedRecord

namespace Store

/-- The answer to a write, and the store after it. -/
def settle {α : Type} : Write α → Except StoreFailure α × Store
  | .ok a s => (.ok a, s)
  | .error e s => (.error e, s)

/-- The answer to a call at a moment, and the store after it. -/
def answer (s : Store) (now : Timestamp) : (c : Call) → c.Answer × Store
  | .now => (now, s)
  | .member id => (s.member? id, s)
  | .memberNamed name => (s.memberNamed? name, s)
  | .circle id => (s.circle? id, s)
  | .circleNamed name => (s.circleNamed? name, s)
  | .key id => (s.key? id, s)
  | .activeKey circle => (s.activeKey? circle, s)
  | .grant member circle => (s.grant? member circle, s)
  | .grantsIn circle => (s.grantsIn circle, s)
  | .grantsOf member => (s.grantsOf member, s)
  | .signature checksum publicKey => (s.signature? checksum publicKey, s)
  | .insertMember m => settle (s.insertMember now m)
  | .updateMember m => settle (s.updateMember now m)
  | .insertCircle c => settle (s.insertCircle now c)
  | .createCircle f => settle (s.createCircle now f)
  | .insertKey k => settle (s.insertKey now k)
  | .updateKey k => settle (s.updateKey now k)
  | .insertGrant g => settle (s.insertGrant now g)
  | .updateGrant g => settle (s.updateGrant now g)
  | .deleteGrant id => settle (s.deleteGrant id)
  | .upsertSignature r => settle (s.upsertSignature now r)

end Store

end CircleVault
