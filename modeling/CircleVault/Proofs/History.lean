import CircleVault.Service
import Mathlib.Logic.Function.Basic
import Mathlib.Tactic.Lemma

/-!
# Histories of the service

An `Operation` is what the service is asked to do as data, with its arguments and what it draws, and
a `Turn` adds the moments at which its calls happen.  `Service.serve` takes one turn against a
store, and `Service.after` a whole run of them, starting from the empty store: any operations, in
any order, by anybody, whether they succeed or fail.

Beside the store a run keeps a `Ledger`: what can be written down from the operations and their
answers alone, without looking into the store.  It holds each member's current passphrase, each
circle's secret, and the matrix of trust levels.  Statements about whole runs compare the two.
-/

namespace CircleVault

/-! ## Turns -/

/-- What the service can be asked to do. -/
inductive Operation where
  | registerMember (name passphrase : String) (drawn : Member.Draw)
  | changePassphrase (id : MemberId) (current next : String) (drawn : Member.Protection)
  | createCircle (founder : MemberId) (name : String) (founding : Founding.Draw)
      (granting : Grant.Draw)
  | addGrant (actor : MemberId) (passphrase : String) (circle : CircleId) (target : MemberId)
      (level : TrustLevel) (drawn : Grant.Draw)
  | removeGrant (actor : MemberId) (circle : CircleId) (target : MemberId)
  | changeLevel (actor : MemberId) (circle : CircleId) (target : MemberId) (level : TrustLevel)
  | encrypt (actor : MemberId) (passphrase : String) (circle : CircleId) (plaintext : Bytes)
      (drawn : Block 16)
  | decrypt (actor : MemberId) (passphrase : String) (circle : CircleId) (data : Ciphertext)
  | sign (actor : MemberId) (passphrase : String) (content : Bytes) (expires : Option Timestamp)
  | verify (signer : MemberId) (signed : Checksum) (content : Bytes)
  | member (id : MemberId)
  | circle (id : CircleId)
  | listCircles (member : MemberId)
  | listGrants (circle : CircleId)

namespace Operation

/-- What an operation that succeeds returns. -/
abbrev Result : Operation → Type
  | registerMember .. => Member
  | changePassphrase .. => Member
  | createCircle .. => Circle × Grant
  | addGrant .. => Grant
  | removeGrant .. => Unit
  | changeLevel .. => Grant
  | encrypt .. => Ciphertext
  | decrypt .. => Bytes
  | sign .. => SignedRecord
  | verify .. => Verification
  | member .. => Member
  | circle .. => Circle
  | listCircles .. => List Circle
  | listGrants .. => List Grant

/-- The program of an operation. -/
def program (sv : Service) : (o : Operation) → Program o.Result
  | registerMember name passphrase drawn => sv.registerMember name passphrase drawn
  | changePassphrase id current next drawn => sv.changePassphrase id current next drawn
  | createCircle founder name founding granting => sv.createCircle founder name founding granting
  | addGrant actor passphrase c target level drawn =>
      sv.addGrant actor passphrase c target level drawn
  | removeGrant actor c target => Service.removeGrant actor c target
  | changeLevel actor c target level => Service.changeLevel actor c target level
  | encrypt actor passphrase c plaintext drawn => sv.encrypt actor passphrase c plaintext drawn
  | decrypt actor passphrase c data => sv.decrypt actor passphrase c data
  | sign actor passphrase content expires => sv.sign actor passphrase content expires
  | verify signer signed content => sv.verify signer signed content
  | member id => sv.member id
  | circle id => Service.circle id
  | listCircles holder => Service.listCircles holder
  | listGrants id => Service.listGrants id

/-- The member in whose name an operation is asked for, if it is anybody's.  Registering is done by
somebody who is no member yet, and verifying and looking up are open to all. -/
def actor? : Operation → Option MemberId
  | changePassphrase id .. => some id
  | createCircle founder .. => some founder
  | addGrant actor .. => some actor
  | removeGrant actor .. => some actor
  | changeLevel actor .. => some actor
  | encrypt actor .. => some actor
  | decrypt actor .. => some actor
  | sign actor .. => some actor
  | _ => none

/-- Whether an operation only looks something up or computes. -/
def isQuery : Operation → Bool
  | encrypt .. | decrypt .. | member .. | circle .. | listCircles .. | listGrants .. => true
  | _ => false

/-- Whether an operation may write a member's record. -/
def writesMember : Operation → Bool
  | registerMember .. | changePassphrase .. => true
  | _ => false

/-- Whether an operation may write a circle's record. -/
def writesCircle : Operation → Bool
  | createCircle .. => true
  | _ => false

/-- Whether an operation may write a signature record. -/
def writesSignature : Operation → Bool
  | sign .. | verify .. => true
  | _ => false

end Operation

/-- An operation together with the moments at which its calls happen. -/
structure Turn where
  operation : Operation
  clock : Nat → Timestamp

/-- What the caller is told: success, or the outcome of the failure. -/
def Outcome.of {α : Type} : Except Failure α → Outcome
  | .ok _ => .success
  | .error e => e.outcome

/-! ## The ledger -/

/-- The level that a member holds in a circle, where there is one. -/
abbrev AccessMatrix : Type := MemberId → CircleId → Option TrustLevel

/-- The matrix with another entry for a member in a circle. -/
def AccessMatrix.set (M : AccessMatrix) (member : MemberId) (circle : CircleId)
    (level : Option TrustLevel) : AccessMatrix :=
  fun m c => if m = member ∧ c = circle then level else M m c

lemma AccessMatrix.set_same (M : AccessMatrix) (m : MemberId) (c : CircleId)
    (l : Option TrustLevel) : M.set m c l m c = l :=
  if_pos ⟨rfl, rfl⟩

lemma AccessMatrix.set_other (M : AccessMatrix) {m m' : MemberId} {c c' : CircleId}
    (l : Option TrustLevel) (other : ¬(m' = m ∧ c' = c)) : M.set m c l m' c' = M m' c' :=
  if_neg other

/-- What the operations of a run and their answers tell. -/
structure Ledger where
  /-- The passphrase of a member's registration or of the last change that succeeded. -/
  passphrase : MemberId → Option String
  /-- The secret drawn when a circle was founded. -/
  secret : CircleId → Option (Block 32)
  /-- The levels that the successful operations on grants amount to. -/
  access : AccessMatrix

namespace Ledger

/-- Nothing has happened. -/
def blank : Ledger := ⟨fun _ => none, fun _ => none, fun _ _ => none⟩

/-- Write down an operation and what came of it.  An operation that failed leaves the ledger as it
is. -/
def note (L : Ledger) : (o : Operation) → Except Failure o.Result → Ledger
  | .registerMember _ passphrase _, .ok m =>
      { L with passphrase := Function.update L.passphrase m.id (some passphrase) }
  | .changePassphrase id _ next _, .ok _ =>
      { L with passphrase := Function.update L.passphrase id (some next) }
  | .createCircle founder _ founding _, .ok (c, _) =>
      { L with
        secret := Function.update L.secret c.id (some founding.secret)
        access := L.access.set founder c.id (some .sysop) }
  | .addGrant _ _ circle target level _, .ok _ =>
      { L with access := L.access.set target circle (some level) }
  | .removeGrant _ circle target, .ok _ => { L with access := L.access.set target circle none }
  | .changeLevel _ circle target level, .ok _ =>
      { L with access := L.access.set target circle (some level) }
  | _, _ => L

lemma note_error (L : Ledger) (o : Operation) (e : Failure) : L.note o (.error e) = L := by
  cases o <;> rfl

/-- A passphrase is written down only where a member's record is written. -/
lemma passphrase_note (L : Ledger) {o : Operation} (others : o.writesMember = false)
    (r : Except Failure o.Result) : (L.note o r).passphrase = L.passphrase := by
  cases o <;> cases others <;> cases r <;> rfl

lemma note_query (L : Ledger) {o : Operation} (query : o.isQuery = true)
    (r : Except Failure o.Result) : L.note o r = L := by
  cases o <;> cases query <;> cases r <;> rfl

end Ledger

/-! ## Runs -/

/-- How far a run has come. -/
structure Progress where
  store : Store
  ledger : Ledger

/-- Nothing has been asked for. -/
def Progress.start : Progress := ⟨.empty, .blank⟩

namespace Service

variable (sv : Service)

/-- The answer to a turn, and the store after it. -/
def serve (s : Store) (t : Turn) : Except Failure t.operation.Result × Store :=
  (t.operation.program sv).run t.clock s

/-- Take a turn, and write down what came of it. -/
def proceed (p : Progress) (t : Turn) : Progress :=
  ⟨(sv.serve p.store t).2, p.ledger.note t.operation (sv.serve p.store t).1⟩

/-- Take turns one after another. -/
def proceedAll (p : Progress) (run : List Turn) : Progress := run.foldl sv.proceed p

/-- What a run comes to that begins with the empty store. -/
def after (run : List Turn) : Progress := sv.proceedAll .start run

variable {sv}

@[simp] lemma proceedAll_nil (p : Progress) : sv.proceedAll p [] = p := rfl

@[simp] lemma proceedAll_cons (p : Progress) (t : Turn) (run : List Turn) :
    sv.proceedAll p (t :: run) = sv.proceedAll (sv.proceed p t) run := rfl

lemma after_append (run more : List Turn) :
    sv.after (run ++ more) = sv.proceedAll (sv.after run) more :=
  List.foldl_append

/-- What every turn of a run keeps, the run keeps. -/
theorem proceedAll_invariant {P : Progress → Prop} (run : List Turn)
    (kept : ∀ p t, t ∈ run → P p → P (sv.proceed p t)) {p : Progress} (h : P p) :
    P (sv.proceedAll p run) := by
  induction run generalizing p with
  | nil => exact h
  | cons t rest ih =>
      exact ih (fun p t' ht => kept p t' (List.mem_cons_of_mem t ht)) (kept p t (by simp) h)

/-- What holds at the start and is kept by every turn holds after every run. -/
theorem after_invariant {P : Progress → Prop} (start : P .start)
    (kept : ∀ p t, P p → P (sv.proceed p t)) (run : List Turn) : P (sv.after run) :=
  proceedAll_invariant run (fun p t _ => kept p t) start

end Service

end CircleVault
