import CircleVault.Store.Call

/-!
# Programs against the store

An operation of the service is a `Program`: it asks one call after another, each chosen from the
answers so far, and ends with a result or a failure.  A program says nothing about what happens
between its calls, so the same program is run alone (`Program.run`) or in steps that alternate with
those of other programs (`Program.step`).

Every call happens at a moment of its own.  The moments of a run are given by a clock, from the
number of the call to the time it shows, and nothing makes a clock go forward.
-/

namespace CircleVault

/-- A sequence of calls, each depending on the answers before it, that ends with a result or a
failure. -/
inductive Program (α : Type) where
  | done (result : Except Failure α)
  | ask (call : Call) (next : call.Answer → Program α)

namespace Program

variable {α β : Type}

/-- Go on with the result of a program, unless it fails. -/
def bind : Program α → (α → Program β) → Program β
  | .done (.ok a), f => f a
  | .done (.error e), _ => .done (.error e)
  | .ask c next, f => .ask c fun a => (next a).bind f

instance : Monad Program where
  pure a := .done (.ok a)
  bind := bind

def fail (e : Failure) : Program α := .done (.error e)

/-- The program that asks a single call. -/
def call (c : Call) : Program c.Answer := .ask c fun a => .done (.ok a)

/-- A result that needs no call. -/
def of (result : Except Failure α) : Program α := .done result

/-- Fail unless a condition holds. -/
def require (condition : Bool) (e : Failure) : Program Unit :=
  if condition then pure () else fail e

/-- What was looked for, or a failure where there is none. -/
def found (e : Failure) : Option α → Program α
  | some a => pure a
  | none => fail e

/-- What a write returned, or the failure of the store. -/
def accepted : Except StoreFailure α → Program α
  | .ok a => pure a
  | .error e => fail (.store e)

/-! ## Running -/

def isDone : Program α → Bool
  | .done _ => true
  | .ask _ _ => false

/-- Perform the next call, if there is one, at a moment. -/
def step (now : Timestamp) (s : Store) : Program α → Program α × Store
  | .done r => (.done r, s)
  | .ask c next => (next (s.answer now c).1, (s.answer now c).2)

/-- Perform all calls, the `k`-th of them at the `k`-th moment of the clock. -/
def run : Program α → (Nat → Timestamp) → Store → Except Failure α × Store
  | .done r, _, s => (r, s)
  | .ask c next, clock, s =>
      (next (s.answer (clock 0) c).1).run (fun k => clock (k + 1)) (s.answer (clock 0) c).2

end Program

end CircleVault
