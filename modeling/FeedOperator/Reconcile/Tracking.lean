import FeedOperator.Pass
import FeedOperator.Retry

/-!
# Passes that forget failures

Both controllers share one tracker of failures. A pass forgets the failures of its object where it
goes well, at each of its ends; what counts a failure is the controller.

Model of the field `retry_tracker` of `ControllerContext`, as `reconcile` uses it.

* `Tracking`: a pass that may fail, with the tracker at hand.
* `Attempt.tracked`: a part of it that leaves the tracker alone.
* `Tracking.forget`: forgets the failures of an object.
* `Tracking.pass`: the calls of such a pass and its result, whatever becomes of the tracker.
* `Tracking.Resets`: the failures of an object are forgotten if the pass goes well, and the tracker
  is as it was if it fails.

Results:
* `resets_throw`, `resets_forget`, `Resets.of_tracked`, `Resets.adapt`: what a pass is built of is
  of this kind.
* `pass_bind`, `pass_bind_forget`, `pass_adapt`: what its calls are. To forget failures takes none.
-/

namespace FeedOperator

/-- A pass that may fail, with the tracker of failures at hand. A pass that fails leaves the tracker
as it was at the failure. -/
abbrev Tracking (ε α : Type) := ExceptT ε (StateT Tracker Pass) α

variable {ε α β : Type}

/-- The attempt as a part of a tracked pass. It leaves the tracker alone. -/
def Attempt.tracked (x : Attempt ε α) : Tracking ε α :=
  ExceptT.mk fun t => (·, t) <$> x.run

/-- The tracker after a pass over an object: a pass that goes well has forgotten its failures. -/
def Tracker.after (t : Tracker) (key : String) : Except ε α → Tracker
  | .ok _ => t.reset key
  | .error _ => t

namespace Tracking

/-- Forgets the failures of an object. -/
def forget (key : String) : Tracking ε Unit :=
  ExceptT.mk fun t => pure (.ok (), t.reset key)

/-- The pass without the tracker. -/
def pass (x : Tracking ε α) : Pass (Except ε α) :=
  Prod.fst <$> x.run {}

/-- Whether a pass forgets the failures of an object if it goes well, and leaves the tracker alone
if it fails. -/
def Resets (key : String) (x : Tracking ε α) : Prop :=
  ∀ t : Tracker, x.run t = (fun r => (r, t.after key r)) <$> x.pass

variable {key : String} {x : Attempt ε α} {f : α → Tracking ε β}

theorem run_tracked_bind (t : Tracker) :
    (x.tracked >>= f).run t = x.run >>= fun r =>
      match r with
      | .ok a => (f a).run t
      | .error e => pure (.error e, t) := by
  change ((·, t) <$> x.run) >>= _ = _
  rw [bind_map_left]
  exact bind_congr fun r => by cases r <;> rfl

/-! ## Calls -/

theorem pass_bind : (x.tracked >>= f).pass = (x >>= fun a => ExceptT.mk (f a).pass).run := by
  unfold pass
  rw [run_tracked_bind, map_bind]
  refine bind_congr fun r => ?_
  cases r with
  | ok a => rfl
  | error e => rfl

/-- An attempt after which failures are forgotten makes its own calls. -/
theorem pass_bind_forget {g : α → β} : (x.tracked >>= fun a => forget key >>= fun _ =>
    (pure (g a) : Tracking ε β)).pass = (x >>= fun a => pure (g a)).run := by
  rw [pass_bind]
  rfl

/-! ## What becomes of the tracker -/

theorem resets_throw (key : String) (e : ε) : (throw e : Tracking ε α).Resets key :=
  fun _ => rfl

theorem resets_forget (key : String) (a : α) :
    (forget key >>= fun _ => pure a : Tracking ε α).Resets key :=
  fun _ => rfl

theorem Resets.of_tracked (h : ∀ a, (f a).Resets key) : (x.tracked >>= f).Resets key := by
  intro t
  rw [run_tracked_bind, pass_bind, ExceptT.run_bind, map_bind]
  refine bind_congr fun r => ?_
  cases r with
  | ok a => exact h a t
  | error e => rfl

/-! ## Errors of another type -/

section Adapt

variable {ε' : Type} {y : Tracking ε α} {onError : ε → ε'}

theorem run_adapt (t : Tracker) :
    (ExceptT.adapt onError y).run t = Prod.map (Except.mapError onError) id <$> y.run t := rfl

theorem pass_adapt : pass (ExceptT.adapt onError y) = Except.mapError onError <$> y.pass := by
  unfold pass
  rw [run_adapt, Functor.map_map, Functor.map_map]
  rfl

theorem Resets.adapt (h : y.Resets key) : Resets key (ExceptT.adapt onError y) := by
  intro t
  rw [run_adapt, pass_adapt, h t, Functor.map_map, Functor.map_map]
  refine congrArg (· <$> y.pass) (funext fun r => ?_)
  cases r <;> rfl

end Adapt

end Tracking

end FeedOperator
