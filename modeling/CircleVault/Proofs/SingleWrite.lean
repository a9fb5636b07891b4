import CircleVault.Proofs.History
import CircleVault.Proofs.Program

/-!
# Operations write once

An operation looks up what it needs, computes, and ends with one call that writes, if it writes at
all.  If the store refuses that call, the operation fails with the store's failure, and if the store
accepts it, the operation succeeds.  `Program.WritesLast` says this of a program, whatever its calls
are answered, and `Operation.program_writesLast` shows it of every operation of the service.

Two things follow of a run.  A program that fails has written nothing, the store's clock included
(`Program.WritesLast.failed`).  And where it does not fail with a failure of the store, the store
accepted every call that the program made (`Program.WritesLast.accepted`).
-/

namespace CircleVault

/-! ## Calls -/

namespace Call

/-- Whether a call may change the store. -/
def isWrite : Call → Bool
  | .insertMember _ | .updateMember _ | .insertCircle _ | .createCircle _ | .insertKey _
  | .updateKey _ | .insertGrant _ | .updateGrant _ | .deleteGrant _ | .upsertSignature _ => true
  | _ => false

/-- The failure that an answer is, if it is one. -/
def refusalOf {α : Type} : Except StoreFailure α → Option StoreFailure
  | .ok _ => none
  | .error e => some e

/-- The failure with which the store answered a call, if it refused the call. -/
def refusal? : (c : Call) → c.Answer → Option StoreFailure
  | .insertMember _, a => refusalOf a
  | .updateMember _, a => refusalOf a
  | .insertCircle _, a => refusalOf a
  | .createCircle _, a => refusalOf a
  | .insertKey _, a => refusalOf a
  | .updateKey _, a => refusalOf a
  | .insertGrant _, a => refusalOf a
  | .updateGrant _, a => refusalOf a
  | .deleteGrant _, a => refusalOf a
  | .upsertSignature _, a => refusalOf a
  | _, _ => none

lemma refusal?_of_read {c : Call} (reads : c.isWrite = false) (a : c.Answer) :
    c.refusal? a = none := by
  cases c <;> first | rfl | cases reads

end Call

namespace Store

lemma settle_of_refused {α : Type} {s : Store} {w : Write α} (spares : w.Spares s)
    {e : StoreFailure} (refused : Call.refusalOf (settle w).1 = some e) : (settle w).2 = s := by
  cases w with
  | error cause s' => exact spares cause s' rfl
  | ok written s' => cases refused

/-- A call that is refused has left the store as it was: each write makes its checks before it
changes anything. -/
theorem answer_of_refused {s : Store} {now : Timestamp} {c : Call} {e : StoreFailure}
    (refused : c.refusal? (s.answer now c).1 = some e) : (s.answer now c).2 = s := by
  cases c with
  | insertMember m => exact settle_of_refused insertMember_spares refused
  | updateMember m => exact settle_of_refused updateMember_spares refused
  | insertCircle c => exact settle_of_refused insertCircle_spares refused
  | createCircle f => exact settle_of_refused createCircle_spares refused
  | insertKey k => exact settle_of_refused insertKey_spares refused
  | updateKey k => exact settle_of_refused updateKey_spares refused
  | insertGrant g => exact settle_of_refused insertGrant_spares refused
  | updateGrant g => exact settle_of_refused updateGrant_spares refused
  | deleteGrant id => exact settle_of_refused deleteGrant_spares refused
  | upsertSignature r => exact settle_of_refused upsertSignature_spares refused
  | _ => cases refused

lemma answer_of_read {s : Store} {now : Timestamp} {c : Call} (reads : c.isWrite = false) :
    (s.answer now c).2 = s := by
  cases c <;> first | rfl | cases reads

end Store

/-! ## Programs -/

namespace Program

variable {α β : Type}

/-- A program none of whose calls writes. -/
inductive Reads : Program α → Prop
  | done (r : Except Failure α) : Reads (.done r)
  | ask {c : Call} {next : c.Answer → Program α} (reads : c.isWrite = false)
      (goes : ∀ a, Reads (next a)) : Reads (.ask c next)

/-- A program that has ended: with the failure of the store, if there is one, and else with a
result. -/
def EndsWith (p : Program α) : Option StoreFailure → Prop
  | some e => p = fail (.store e)
  | none => ∃ a, p = pure a

/-- A program that writes in its last call alone, and ends with what comes of that call. -/
inductive WritesLast : Program α → Prop
  | done (r : Except Failure α) : WritesLast (.done r)
  | read {c : Call} {next : c.Answer → Program α} (reads : c.isWrite = false)
      (goes : ∀ a, WritesLast (next a)) : WritesLast (.ask c next)
  | write {c : Call} {next : c.Answer → Program α}
      (ends : ∀ a, (next a).EndsWith (c.refusal? a)) : WritesLast (.ask c next)

/-! ### Rules -/

lemma Reads.bind {p : Program α} {f : α → Program β} (first : p.Reads)
    (goes : ∀ a, (f a).Reads) : (p >>= f).Reads := by
  induction first with
  | done r =>
      cases r with
      | error e => exact .done _
      | ok a => exact goes a
  | ask reads _ ih => exact .ask reads ih

lemma Reads.call {c : Call} (reads : c.isWrite = false) : (call c).Reads :=
  .ask reads fun _ => .done _

lemma Reads.require (condition : Bool) (e : Failure) : (require condition e).Reads := by
  unfold Program.require
  split <;> exact .done _

lemma Reads.found (e : Failure) (o : Option α) : (found e o).Reads := by
  cases o <;> exact .done _

lemma WritesLast.bind {p : Program α} {f : α → Program β} (first : p.Reads)
    (goes : ∀ a, (f a).WritesLast) : (p >>= f).WritesLast := by
  induction first with
  | done r =>
      cases r with
      | error e => exact .done _
      | ok a => exact goes a
  | ask reads _ ih => exact .read reads ih

lemma Reads.writesLast {p : Program α} (h : p.Reads) : p.WritesLast := by
  induction h with
  | done r => exact .done r
  | ask reads _ ih => exact .read reads ih

lemma accepted_endsWith (a : Except StoreFailure α) : (accepted a).EndsWith (Call.refusalOf a) := by
  cases a with
  | error e => rfl
  | ok stored => exact ⟨stored, rfl⟩

lemma EndsWith.map {p : Program α} {r : Option StoreFailure} (h : p.EndsWith r) (f : α → β) :
    (p >>= fun a => pure (f a)).EndsWith r := by
  cases r with
  | some e =>
      have failed : p = fail (.store e) := h
      rw [failed]
      rfl
  | none =>
      obtain ⟨a, rfl⟩ := h
      exact ⟨f a, rfl⟩

lemma EndsWith.isDone {p : Program α} {r : Option StoreFailure} (h : p.EndsWith r) :
    ∃ x, p = .done x := by
  cases r with
  | some e => exact ⟨_, h⟩
  | none =>
      obtain ⟨a, ended⟩ := h
      exact ⟨_, ended⟩

/-! ### What follows -/

/-- A program that writes last and fails leaves the store as it is. -/
theorem WritesLast.failed {p : Program α} (h : p.WritesLast) {clock : Nat → Timestamp} {s : Store}
    {e : Failure} (failed : (p.run clock s).1 = .error e) : (p.run clock s).2 = s := by
  induction h generalizing clock with
  | done r => rfl
  | @read c next reads _ ih =>
      have unchanged : (s.answer (clock 0) c).2 = s := Store.answer_of_read reads
      simp only [run, unchanged] at failed ⊢
      exact ih _ failed
  | @write c next ends =>
      have ended := ends (s.answer (clock 0) c).1
      cases answered : c.refusal? (s.answer (clock 0) c).1 with
      | none =>
          rw [answered] at ended
          obtain ⟨b, ended⟩ := ended
          rw [run, ended] at failed
          cases failed
      | some cause =>
          rw [answered, EndsWith] at ended
          rw [run, ended, Store.answer_of_refused answered]
          rfl

/-- The calls of a run, with their answers, in order. -/
def exchanges : Program α → (Nat → Timestamp) → Store → List ((c : Call) × c.Answer)
  | .done _, _, _ => []
  | .ask c next, clock, s =>
      ⟨c, (s.answer (clock 0) c).1⟩ ::
        (next (s.answer (clock 0) c).1).exchanges (later clock) (s.answer (clock 0) c).2

/-- Where a program that writes last does not fail with a failure of the store, the store refused
none of its calls. -/
theorem WritesLast.accepted {p : Program α} (h : p.WritesLast) {clock : Nat → Timestamp} {s : Store}
    (answered : ∀ cause, (p.run clock s).1 ≠ .error (.store cause)) :
    ∀ x ∈ p.exchanges clock s, x.1.refusal? x.2 = none := by
  induction h generalizing clock s with
  | done r => simp [exchanges]
  | @read c next reads _ ih =>
      have rest := @ih (s.answer (clock 0) c).1 (later clock) _ answered
      have here := c.refusal?_of_read reads (s.answer (clock 0) c).1
      simpa [exchanges, here] using rest
  | @write c next ends =>
      have ended := ends (s.answer (clock 0) c).1
      cases given : c.refusal? (s.answer (clock 0) c).1 with
      | none =>
          rw [given] at ended
          obtain ⟨b, ended⟩ := ended
          simp [exchanges, given, ended, pure]
      | some cause =>
          rw [given, EndsWith] at ended
          refine absurd ?_ (answered cause)
          rw [run, ended]
          rfl

end Program

/-! ## Operations -/

open Program Service

namespace Service

variable (sv : Service)

lemma member_reads (id : MemberId) : (sv.member id).Reads := by
  refine .bind (.call rfl) fun m => ?_
  exact .bind (.found _ m) fun _ => .done _

lemma authorize_reads (actor : MemberId) (circle : CircleId) (required : TrustLevel) :
    (authorize actor circle required).Reads := by
  refine .bind (.call rfl) fun held => ?_
  refine .bind (.found _ held) fun g => ?_
  exact .bind (.require _ _) fun _ => .done _

lemma keyOf_reads (g : Grant) : (keyOf g).Reads := by
  refine .bind (.call rfl) fun key => ?_
  refine .bind (.found _ key) fun k => ?_
  exact .bind (.done _) fun _ => .done _

lemma secretOf_reads (g : Grant) (passphrase : String) : (sv.secretOf g passphrase).Reads :=
  .bind (sv.member_reads g.member) fun _ => .done _

lemma circle_reads (id : CircleId) : (circle id).Reads :=
  .bind (.call rfl) fun c => .found _ c

lemma circlesOf_reads (grants : List Grant) : (circlesOf grants).Reads := by
  induction grants with
  | nil => exact .done _
  | cons g rest ih =>
      refine .bind (circle_reads g.circle) fun c => ?_
      exact .bind ih fun _ => .done _

end Service

/-- **Every operation writes last.** -/
theorem Operation.program_writesLast (sv : Service) (o : Operation) :
    (o.program sv).WritesLast := by
  cases o with
  | registerMember name passphrase drawn =>
      refine .bind (.call rfl) fun taken => ?_
      refine .bind (.require _ _) fun _ => ?_
      refine .bind (.done _) fun m => ?_
      exact .write fun a => accepted_endsWith a
  | changePassphrase id current next drawn =>
      refine .bind (sv.member_reads id) fun m => ?_
      refine .bind (.done _) fun changed => ?_
      exact .write fun a => accepted_endsWith a
  | createCircle founder name founding granting =>
      refine .bind (sv.member_reads founder) fun owner => ?_
      refine .bind (.call rfl) fun taken => ?_
      refine .bind (.require _ _) fun _ => ?_
      refine .bind (.done _) fun made => ?_
      refine .bind (.done _) fun g => ?_
      exact .write fun a => (accepted_endsWith a).map _
  | addGrant actor passphrase circle target level drawn =>
      refine .bind (authorize_reads actor circle _) fun own => ?_
      refine .bind (.require _ _) fun _ => ?_
      refine .bind (sv.member_reads target) fun recipient => ?_
      refine .bind (keyOf_reads own) fun key => ?_
      refine .bind (.call rfl) fun present => ?_
      refine .bind (sv.secretOf_reads own passphrase) fun secret => ?_
      refine .bind (.done _) fun g => ?_
      exact .write fun a => accepted_endsWith a
  | removeGrant actor circle target =>
      refine .bind (authorize_reads actor circle _) fun own => ?_
      refine .bind (.call rfl) fun present => ?_
      refine .bind (.done _) fun taken => ?_
      refine .bind (.require _ _) fun _ => ?_
      refine .bind (.require _ _) fun _ => ?_
      exact .write fun a => accepted_endsWith a
  | changeLevel actor circle target level =>
      refine .bind (authorize_reads actor circle _) fun own => ?_
      refine .bind (.call rfl) fun present => ?_
      refine .bind (.done _) fun taken => ?_
      refine .bind (.require _ _) fun _ => ?_
      refine .bind (.require _ _) fun _ => ?_
      exact .write fun a => accepted_endsWith a
  | encrypt actor passphrase circle plaintext drawn =>
      refine .bind (authorize_reads actor circle _) fun own => ?_
      refine .bind (sv.secretOf_reads own passphrase) fun secret => ?_
      exact .done _
  | decrypt actor passphrase circle data =>
      refine .bind (authorize_reads actor circle _) fun own => ?_
      refine .bind (sv.secretOf_reads own passphrase) fun secret => ?_
      exact .done _
  | sign actor passphrase content expires =>
      refine .bind (sv.member_reads actor) fun signer => ?_
      refine .bind (.call rfl) fun present => ?_
      refine .bind (.require _ _) fun _ => ?_
      refine .bind (.done _) fun key => ?_
      refine .bind (.call rfl) fun now => ?_
      exact .write fun a => accepted_endsWith a
  | verify signer signed content =>
      refine .bind (sv.member_reads signer) fun m => ?_
      refine .bind (.done _) fun key => ?_
      refine .bind (.call rfl) fun present => ?_
      refine .bind (.found _ present) fun r => ?_
      refine .bind (.call rfl) fun now => ?_
      -- Only a verification that succeeds goes on to write.
      dsimp only
      split
      · exact .write fun a => (accepted_endsWith a).map _
      · exact .done _
  | member id => exact (sv.member_reads id).writesLast
  | circle id => exact (circle_reads id).writesLast
  | listCircles holder =>
      have lists : (Service.listCircles holder).Reads :=
        .bind (.call rfl) fun gs => circlesOf_reads gs
      exact lists.writesLast
  | listGrants id =>
      have lists : (Service.listGrants id).Reads := .call rfl
      exact lists.writesLast

end CircleVault
