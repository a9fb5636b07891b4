import CircleVault.Program
import Mathlib.Data.List.Induction
import Mathlib.Logic.Function.Basic

/-!
# Programs that run at the same time

A `Scene` holds the programs of several participants under way, the store that they all run
against, and a log of what was asked and answered.  A step lets one participant perform its next
call, so the calls of different programs alternate in any order, while each call stays one atomic
step.  A schedule says who moves when: every order of calls is a schedule, including those that
never let some participant finish.

What every step of a schedule keeps, the schedule keeps (`Scene.play_invariant`).
-/

namespace CircleVault

/-- A call that a participant asked, and the answer. -/
structure Exchange (ι : Type) where
  participant : ι
  call : Call
  answer : call.Answer

/-- The programs of several participants, under way against one store. -/
structure Scene {ι : Type} (α : ι → Type) where
  store : Store
  programs : ∀ i, Program (α i)
  /-- What was asked so far, oldest first. -/
  log : List (Exchange ι)

namespace Scene

variable {ι : Type} [DecidableEq ι] {α : ι → Type}

/-- What a participant asks next, with the answer, unless it is done. -/
def exchange? (sc : Scene α) (i : ι) (now : Timestamp) : Option (Exchange ι) :=
  match sc.programs i with
  | .done _ => none
  | .ask c _ => some ⟨i, c, (sc.store.answer now c).1⟩

/-- Let a participant perform its next call at a moment. -/
def step (sc : Scene α) (i : ι) (now : Timestamp) : Scene α where
  store := ((sc.programs i).step now sc.store).2
  programs := Function.update sc.programs i ((sc.programs i).step now sc.store).1
  log := sc.log ++ (sc.exchange? i now).toList

/-- Let participants move, each at its moment, one after another. -/
def play (sc : Scene α) (schedule : List (ι × Timestamp)) : Scene α :=
  schedule.foldl (fun sc move => sc.step move.1 move.2) sc

variable {sc : Scene α} {i : ι} {now : Timestamp}

lemma step_of_done {r : Except Failure (α i)} (finished : sc.programs i = .done r) :
    sc.step i now = sc := by
  have same : Function.update sc.programs i (.done r) = sc.programs := by
    rw [← finished, Function.update_eq_self]
  rw [step, exchange?, finished]
  simp only [Program.step, same, Option.toList_none, List.append_nil]

lemma step_of_ask {c : Call} {next : c.Answer → Program (α i)}
    (asks : sc.programs i = .ask c next) :
    sc.step i now =
      { store := (sc.store.answer now c).2
        programs := Function.update sc.programs i (next (sc.store.answer now c).1)
        log := sc.log ++ [⟨i, c, (sc.store.answer now c).1⟩] } := by
  rw [step, exchange?, asks]
  rfl

lemma play_append (sc : Scene α) (schedule more : List (ι × Timestamp)) :
    sc.play (schedule ++ more) = (sc.play schedule).play more :=
  List.foldl_append

/-- What every step of a schedule keeps, the schedule keeps. -/
theorem play_invariant {P : Scene α → Prop} (schedule : List (ι × Timestamp))
    (kept : ∀ early i now, early ++ [(i, now)] <+: schedule → P (sc.play early) →
      P ((sc.play early).step i now)) (h : P sc) : P (sc.play schedule) := by
  induction schedule using List.reverseRecOn with
  | nil => exact h
  | append_singleton early move ih =>
      rw [play_append]
      refine kept early move.1 move.2 (List.prefix_refl _) (ih fun early' i now part => ?_)
      exact kept early' i now (part.trans (List.prefix_append early [move]))

/-- Where one participant moves, one participant asks. -/
lemma participant_of_play {schedule : List (ι × Timestamp)}
    (alone : ∀ move ∈ schedule, move.1 = i) (before : ∀ e ∈ sc.log, e.participant = i) :
    ∀ e ∈ (sc.play schedule).log, e.participant = i := by
  refine play_invariant (P := fun sc => ∀ e ∈ sc.log, e.participant = i) schedule ?_ before
  intro early j now part own e mem
  rw [step, List.mem_append] at mem
  obtain mem | mem := mem
  · exact own e mem
  · have mine : j = i := alone (j, now) (part.subset (by simp))
    rw [exchange?] at mem
    split at mem
    · cases mem
    · obtain rfl := List.mem_singleton.1 mem
      exact mine

end Scene

end CircleVault
