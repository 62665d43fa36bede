/-!
# Retrying failed passes

Model of `RetryTracker`, `compute_backoff`, `ErrorKind` and `error_policy` (specification 7
and 10.4).

* `Action`: when to look at an object again.
* `Failure`: whether a failure passes by itself, calls for a fresh read, or stays until the object
  is edited.
* `backoff`: a failure that may pass is retried after 5, 10, 20, … seconds, at most an hour, and is
  never given up.
* `Tracker`: the number of failures in a row of each object.
* `Tracker.settle`: what a controller makes of the outcome of a pass.

Results:
* `backoff_transient_le`: an hour is the longest delay.
* `get_increment`, `get_reset`: what becomes of the numbers.
-/

namespace FeedOperator

/-- When to look at an object again. -/
inductive Action where
  /-- When it changes. -/
  | awaitChange
  /-- When it changes, or after some seconds. -/
  | requeue (seconds : Nat)
  deriving DecidableEq

/-- What a failure calls for. -/
inductive Failure where
  /-- The service or the store is in trouble. -/
  | transient
  /-- The object was written by someone else. -/
  | conflict
  /-- The object has to be edited. -/
  | permanent
  deriving DecidableEq

namespace Failure

/-- The delay after the first failure, in seconds. -/
def baseDelay : Nat := 5

/-- The longest delay, in seconds. -/
def maxDelay : Nat := 3600

/-- The delay after a conflict, in seconds. -/
def conflictDelay : Nat := 1

/-- How often a delay is doubled at most. -/
def maxDoublings : Nat := 20

/-- When to retry after some failures in a row. -/
def backoff (attempts : UInt32) : Failure → Action
  | .conflict => .requeue conflictDelay
  | .transient =>
    .requeue (min (baseDelay * Nat.pow 2 (min (attempts.toNat - 1) maxDoublings)) maxDelay)
  | .permanent => .awaitChange

theorem backoff_transient_le (attempts : UInt32) :
    ∃ s ≤ maxDelay, backoff attempts .transient = .requeue s :=
  ⟨_, Nat.min_le_right _ _, rfl⟩

end Failure

/-- The number of failures in a row of each object, by its key. -/
structure Tracker where
  get : String → UInt32 := fun _ => 0

namespace Tracker

/-- Counts a failure and gives the new number. -/
def increment (t : Tracker) (key : String) : Tracker × UInt32 :=
  let count := t.get key + 1
  (⟨fun k => if k = key then count else t.get k⟩, count)

/-- Forgets the failures. -/
def reset (t : Tracker) (key : String) : Tracker :=
  ⟨fun k => if k = key then 0 else t.get k⟩

/-- What a controller makes of the outcome of a pass: it does as the pass says if that went well,
and a failure is counted and retried as it calls for. To forget failures is up to the pass. -/
def settle {ε : Type} (t : Tracker) (key : String) (failure : ε → Failure) :
    Except ε Action → Tracker × Action
  | .ok action => (t, action)
  | .error e =>
    let (t, attempts) := t.increment key
    (t, (failure e).backoff attempts)

theorem get_increment (t : Tracker) (key k : String) :
    (t.increment key).1.get k = if k = key then t.get key + 1 else t.get k := rfl

theorem get_reset (t : Tracker) (key k : String) :
    (t.reset key).get k = if k = key then 0 else t.get k := rfl

end Tracker

end FeedOperator
