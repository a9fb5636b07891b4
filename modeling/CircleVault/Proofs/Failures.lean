import CircleVault.Proofs.Effect
import CircleVault.Proofs.Interleaving
import CircleVault.Proofs.Records
import CircleVault.Proofs.SingleWrite
import CircleVault.Proofs.Transparent

/-!
# Failures leave no trace

A call that the store refuses, and an operation that fails at whatever point, leave every record and
the store's clock as they were.  Nothing undoes what was done before a failure.  It is the order of
things that leaves no trace: the store makes all checks of a write before it moves its clock or
touches a table (`Write.Spares`), and an operation writes in its last call alone
(`Operation.program_writesLast`).

What succeeds is done in full.  A founding files the circle, its key and the owner's grant one after
another (`Store.FiledTogether`), and a change of the passphrase replaces the salt and then the
encrypted private key (`Member.Reprotected`); neither of them is ever done by half.

The same holds where others call in between (`Scene.failed_leaves`): no step of an operation that
fails in the end changes the store.
-/

namespace CircleVault

open Program

/-! ## Interleaved -/

lemma Program.WritesLast.step {α : Type} {p : Program α} (h : p.WritesLast) (now : Timestamp)
    (s : Store) : (p.step now s).1.WritesLast := by
  cases h with
  | done r => exact .done r
  | read _ goes => exact goes _
  | @write c next ends =>
      obtain ⟨x, ended⟩ := (ends (s.answer now c).1).isDone
      show (next (s.answer now c).1).WritesLast
      rw [ended]
      exact .done x

namespace Scene

variable {ι : Type} [DecidableEq ι] {α : ι → Type} {sc : Scene α} {i : ι}

lemma programs_step_self (sc : Scene α) (i : ι) (now : Timestamp) :
    (sc.step i now).programs i = ((sc.programs i).step now sc.store).1 := by
  simp [step]

lemma programs_step_other (sc : Scene α) {i j : ι} (other : i ≠ j) (now : Timestamp) :
    (sc.step j now).programs i = sc.programs i := by
  simp [step, other]

lemma writesLast_play (h : (sc.programs i).WritesLast) (schedule : List (ι × Timestamp)) :
    ((sc.play schedule).programs i).WritesLast := by
  refine play_invariant (P := fun sc => (sc.programs i).WritesLast) schedule ?_ h
  intro early j now _ last
  by_cases same : i = j
  · subst same
    rw [programs_step_self]
    exact last.step now _
  · rwa [programs_step_other _ same]

/-- A program that has ended stays ended. -/
lemma done_play {r : Except Failure (α i)} (ended : sc.programs i = .done r)
    (schedule : List (ι × Timestamp)) : (sc.play schedule).programs i = .done r := by
  refine play_invariant (P := fun sc => sc.programs i = .done r) schedule ?_ ended
  intro early j now _ ended
  by_cases same : i = j
  · subst same
    rwa [step_of_done ended]
  · rwa [programs_step_other _ same]

/-- **A program that fails has changed nothing**, whoever else called in between: each of its steps
left the store as it found it. -/
theorem failed_leaves (last : (sc.programs i).WritesLast) {e : Failure}
    {early late : List (ι × Timestamp)} {now : Timestamp}
    (failed : (sc.play (early ++ (i, now) :: late)).programs i = .done (.error e)) :
    ((sc.play early).step i now).store = (sc.play early).store := by
  rw [play_append] at failed
  have last' := writesLast_play last early
  generalize sc.play early = sc' at failed last'
  change ((sc'.step i now).play late).programs i = .done (.error e) at failed
  have moved := programs_step_self sc' i now
  show ((sc'.programs i).step now sc'.store).2 = sc'.store
  cases at_ : sc'.programs i with
  | done r => rfl
  | ask c next =>
      rw [at_] at last' moved
      cases last' with
      | read reads _ => exact Store.answer_of_read reads
      | write ends =>
          have ended := ends (sc'.store.answer now c).1
          cases answered : c.refusal? (sc'.store.answer now c).1 with
          | some cause => exact Store.answer_of_refused answered
          | none =>
              rw [answered] at ended
              obtain ⟨b, ended⟩ := ended
              have succeeded := done_play (moved.trans ended) late
              rw [succeeded] at failed
              cases failed

end Scene

/-! ## All or nothing -/

/-- A store is another with a founding filed, all of whose records are new. -/
structure Store.FiledTogether (s : Store) (f : Founded) (s' : Store) : Prop where
  circle_new : s.circles.get? f.circle.id = none
  key_new : s.keys.get? f.key.id = none
  owner_new : s.grants.get? f.owner.id = none
  filed : s' =
    { s with
      circles := s.circles.insert f.circle.id f.circle
      keys := s.keys.insert f.key.id f.key
      grants := s.grants.insert f.owner.id f.owner
      clock := s'.clock }

lemma Store.filedTogether_of_createCircle {s s' : Store} {now : Timestamp} {f stored : Founded}
    (wrote : s.createCircle now f = .ok stored s') : s.FiledTogether stored s' := by
  obtain ⟨freshCircle, -, -, freshKey, -, freshGrant, rfl, rfl⟩ := createCircle_eq_ok.1 wrote
  exact ⟨freshCircle, freshKey, freshGrant, rfl⟩

/-- A member's record is another with the private key, which a passphrase opens, encrypted under
another passphrase with a new salt. -/
def Member.Reprotected (sv : Service) (m : Member) (current next : String)
    (drawn : Member.Protection) (m' : Member) : Prop :=
  ∃ key, m.unlock sv.suite sv.kdf current = .ok key ∧
    m' =
      { m with
        salt := (Member.protect sv.suite sv.kdf key next drawn).1
        privateKey := (Member.protect sv.suite sv.kdf key next drawn).2
        added := m'.added
        altered := m'.altered }

namespace Service

/-- **Failures leave no trace.**  A call that the store refuses leaves the store as it is, its clock
included, and so does an operation that fails.  A founding files all of its three records or does
nothing, and a change of the passphrase replaces both the salt and the private key or does nothing:
in the member's record that it works on, and in the store. -/
theorem failures_leave_no_trace :
    (∀ (s : Store) (now : Timestamp) (c : Call) (e : StoreFailure),
      c.refusal? (s.answer now c).1 = some e → (s.answer now c).2 = s) ∧
    (∀ (sv : Service) (s : Store) (t : Turn) (e : Failure),
      (sv.serve s t).1 = .error e → (sv.serve s t).2 = s) ∧
    (∀ (s : Store) (now : Timestamp) (f : Store.Founded),
      (∃ stored, (s.answer now (.createCircle f)).1 = .ok stored ∧
        s.FiledTogether stored (s.answer now (.createCircle f)).2) ∨
      ∃ e, s.answer now (.createCircle f) = (.error e, s)) ∧
    (∀ (sv : Service) (s : Store) founder name founding granting clock circle owner,
      (sv.serve s ⟨.createCircle founder name founding granting, clock⟩).1 = .ok (circle, owner) →
        ∃ key, s.FiledTogether ⟨circle, key, owner⟩
          (sv.serve s ⟨.createCircle founder name founding granting, clock⟩).2) ∧
    (∀ (sv : Service) (m : Member) current next drawn,
      let worked := (Member.reprotect sv.suite sv.settings sv.kdf current next drawn).run m
      (∃ m', worked = .ok () m' ∧ m.Reprotected sv current next drawn m' ∧
        m'.added = m.added ∧ m'.altered = m.altered) ∨
      ∃ e, worked = .error e m) ∧
    ∀ (sv : Service) (s : Store) id current next drawn clock m',
      (sv.serve s ⟨.changePassphrase id current next drawn, clock⟩).1 = .ok m' →
        ∃ m t, s.member? id = some m ∧
          (m.reread sv.settings.saltCharset).Reprotected sv current next drawn m' ∧
          (sv.serve s ⟨.changePassphrase id current next drawn, clock⟩).2 =
            { s with members := s.members.insert m.id m', clock := t } := by
  refine ⟨?_, ?_, ?_, ?_, ?_, ?_⟩
  · intro s now c e refused
    exact Store.answer_of_refused refused
  · intro sv s t e failed
    exact (t.operation.program_writesLast sv).failed failed
  · intro s now f
    show (∃ stored, (Store.settle (s.createCircle now f)).1 = .ok stored ∧
        s.FiledTogether stored (Store.settle (s.createCircle now f)).2) ∨
      ∃ e, Store.settle (s.createCircle now f) = (.error e, s)
    cases wrote : s.createCircle now f with
    | ok stored s' => exact .inl ⟨stored, rfl, Store.filedTogether_of_createCircle wrote⟩
    | error e s' =>
        obtain rfl := Store.createCircle_spares e s' wrote
        exact .inr ⟨e, rfl⟩
  · intro sv s founder name founding granting clock circle owner succeeded
    have effect := sv.serve_effect s ⟨.createCircle founder name founding granting, clock⟩
    rw [succeeded] at effect
    generalize (sv.serve s _).2 = s' at effect
    cases effect with
    | founded present made granted wrote =>
        exact ⟨_, Store.filedTogether_of_createCircle wrote⟩
    | answered query => cases query
  · intro sv m current next drawn worked
    cases ended : worked with
    | ok u m' =>
        obtain ⟨-, key, opened, rfl⟩ := Member.reprotect_eq_ok.1 ended
        exact .inl ⟨_, rfl, ⟨key, opened, rfl⟩, rfl, rfl⟩
    | error e left =>
        obtain ⟨-, rfl⟩ := Member.reprotect_eq_error.1 ended
        exact .inr ⟨e, rfl⟩
  · intro sv s id current next drawn clock m' succeeded
    have effect := sv.serve_effect s ⟨.changePassphrase id current next drawn, clock⟩
    rw [succeeded] at effect
    generalize (sv.serve s _).2 = s' at effect
    cases effect with
    | reprotected present made wrote =>
        obtain ⟨-, key, opened, rfl⟩ := Member.changePassphrase_eq_ok.1 made
        obtain ⟨_, -, -, rfl, rfl⟩ := Store.updateMember_eq_ok.1 wrote
        exact ⟨_, _, present, ⟨key, opened, rfl⟩, rfl⟩
    | answered query => cases query

open SmallCircle in
/-- A grant that nobody holds is deleted. -/
def vain : Call := .deleteGrant (.random (drawn 16 9))

open SmallCircle in
/-- A founding is filed whose last check fails: the identifier of its grant is taken. -/
def clash : Call :=
  .createCircle
    ⟨⟨.random (drawn 16 5), "choir", 0, 0⟩,
      ⟨.random (drawn 16 6), .random (drawn 16 5), .xchacha20Poly1305, .active, 0, 0⟩,
      ⟨.random (drawn 16 4), alice, .random (drawn 16 5), .random (drawn 16 6), .sysop, [], 0, 0⟩⟩

open SmallCircle in
/-- Alice, alone in her circle, revokes her own grant. -/
def resignation : Turn := turn 50 (.removeGrant alice club alice)

open SmallCircle in
/-- Alice founds another circle. -/
def secondFounding : Turn :=
  turn 60
    (.createCircle alice "choir" ⟨drawn 16 5, drawn 32 5, drawn 16 6, drawn 16 7⟩ (granting 8))

open SmallCircle in
/-- Alice changes her passphrase. -/
def renewal : Turn :=
  turn 70 (.changePassphrase alice "correct horse" "battery staple" (protection 5))

open SmallCircle in
theorem failures_leave_no_trace_smallCircle :
    let s := (service.after (founded.take 3)).store
    ((∃ e, vain.refusal? (s.answer 50 vain).1 = some e) ∧ (s.answer 50 vain).2 = s) ∧
    ((∃ e, clash.refusal? (s.answer 50 clash).1 = some e) ∧ (s.answer 50 clash).2 = s) ∧
    ((service.serve s resignation).1 = .error .lastSysop ∧
      (service.serve s resignation).2 = s) ∧
    (∃ circle key owner, (service.serve s secondFounding).1 = .ok (circle, owner) ∧
      s.FiledTogether ⟨circle, key, owner⟩ (service.serve s secondFounding).2) ∧
    ∃ m m', (service.serve s renewal).1 = .ok m' ∧
      Member.Reprotected service m "correct horse" "battery staple" (protection 5) m' := by
  intro s
  obtain ⟨calls, operations, -, foundings, -, passphrases⟩ := failures_leave_no_trace
  have refused : vain.refusal? (s.answer 50 vain).1 =
      some (.missing (.random (drawn 16 9) : GrantId)) := by
    decide +kernel
  have clashed : clash.refusal? (s.answer 50 clash).1 =
      some (.constraint (.grantExists (.random (drawn 16 4)))) := by
    decide +kernel
  have failed : (service.serve s resignation).1 = .error .lastSysop := by
    show ((removeGrant alice club alice).run (fun _ => 50) s).1 = .error .lastSysop
    decide +kernel
  have founds : (service.serve s secondFounding).1.toOption.isSome = true := by
    decide +kernel
  have renews : (service.serve s renewal).1.toOption.isSome = true := by
    decide +kernel
  refine ⟨⟨⟨_, refused⟩, calls s 50 vain _ refused⟩, ⟨⟨_, clashed⟩, calls s 50 clash _ clashed⟩,
    ⟨failed, operations service s resignation _ failed⟩, ?_, ?_⟩
  · cases served : (service.serve s secondFounding).1 with
    | error e =>
        rw [served] at founds
        cases founds
    | ok new =>
        obtain ⟨key, filed⟩ := foundings service s alice _ _ _ _ new.1 new.2 served
        exact ⟨new.1, key, new.2, rfl, filed⟩
  · cases served : (service.serve s renewal).1 with
    | error e =>
        rw [served] at renews
        cases renews
    | ok m' =>
        obtain ⟨m, -, -, changed, -⟩ := passphrases service s alice _ _ _ _ m' served
        exact ⟨_, m', rfl, changed⟩

end Service

end CircleVault
