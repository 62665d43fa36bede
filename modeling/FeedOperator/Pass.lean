import FeedOperator.Aggregator.Basic
import FeedOperator.Store.Call

/-!
# Passes

A pass is what the operator does for one object or one request: it calls the store and the
aggregation service, and goes on as their answers say.

Model of `ControllerContext`: what a pass may call is `ResourceStore` and `AggregatorClient`.

* `Pass`: a tree of calls. A node holds one call and the pass that follows each answer, so a pass
  can be run against any environment, and can be stopped between any two calls.
* `Pass.run`: the run in an environment that answers from a state.
* `Attempt`: a pass that may fail.

Results:
* `run_andThen`: a run of two passes in a row is two runs in a row.
-/

namespace FeedOperator

/-- A call of the operator to its surroundings. -/
inductive Call where
  | store (c : StoreCall)
  | service (c : ServiceCall)

/-- The answer to a call. -/
abbrev Call.Answer : Call → Type
  | .store c => c.Answer
  | .service c => c.Answer

/-- A tree of calls. -/
inductive Pass (α : Type) where
  | done (result : α)
  | ask (call : Call) (next : call.Answer → Pass α)

namespace Pass

variable {α β σ : Type}

/-- Goes on with another pass. -/
def andThen (p : Pass α) (f : α → Pass β) : Pass β :=
  match p with
  | .done a => f a
  | .ask c next => .ask c fun answer => (next answer).andThen f

instance : Monad Pass where
  pure := .done
  bind := .andThen

/-- Answers calls from a state. -/
abbrev Environment (σ : Type) := (c : Call) → σ → c.Answer × σ

/-- Runs a pass in an environment. -/
def run (answer : Environment σ) : Pass α → σ → α × σ
  | .done a, state => (a, state)
  | .ask c next, state =>
    let (a, state) := answer c state
    run answer (next a) state

/-- One call to the store. -/
def store (c : StoreCall) : Pass c.Answer :=
  .ask (.store c) .done

/-- One call to the aggregation service. -/
def service (c : ServiceCall) : Pass c.Answer :=
  .ask (.service c) .done

theorem andThen_done (p : Pass α) : p.andThen .done = p := by
  induction p with
  | done a => rfl
  | ask c next ih => simp [andThen, ih]

theorem andThen_assoc {γ : Type} (p : Pass α) (f : α → Pass β) (g : β → Pass γ) :
    (p.andThen f).andThen g = p.andThen fun a => (f a).andThen g := by
  induction p with
  | done a => rfl
  | ask c next ih => simp [andThen, ih]

instance : LawfulMonad Pass :=
  LawfulMonad.mk' Pass andThen_done (fun _ _ => rfl) andThen_assoc

theorem run_andThen (answer : Environment σ) (p : Pass α) (f : α → Pass β) (state : σ) :
    (p.andThen f).run answer state =
      (f (p.run answer state).1).run answer (p.run answer state).2 := by
  induction p generalizing state with
  | done a => rfl
  | ask c next ih => exact ih _ _

end Pass

/-- A pass that may fail. -/
abbrev Attempt (ε α : Type) := ExceptT ε Pass α

namespace Attempt

variable {ε α : Type}

/-- One call to the store, its error put into words of the pass. -/
def store (onError : StoreError → ε) (c : StoreCall) : Attempt ε c.Result :=
  ExceptT.mk ((·.mapError onError) <$> Pass.store c)

/-- A pass that never fails. -/
def ofPass (p : Pass α) : Attempt ε α :=
  ExceptT.mk (.ok <$> p)

end Attempt

end FeedOperator
