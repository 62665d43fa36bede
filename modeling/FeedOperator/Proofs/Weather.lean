import FeedOperator.Proofs.Run

/-!
# Computed runs in changing weather

* `Faults`: the failures that a store can be told to show.
* `Weather`: what is due from each call of a pass on.
* `Weather.worsening`: conflicts from some call on.
* `Pass.runIn`, `Pass.journalIn`: what comes of a pass with a service whose answer depends on the
  request alone, and its calls.

Results:
* `weathers_runIn`: what is computed is a run in a changing climate.
-/

namespace FeedOperator

/-- The failures that a store is told to show. -/
structure Faults where
  conflicts : Nat := 0
  failStatusWrites : Bool := false
  failLists : Bool := false

/-- What the store is told before the first call, before the second one, and so on. -/
abbrev Weather := Nat → Faults

/-- Weather in which edits of Sources go through before a call, and meet conflicts from it on. -/
def Weather.worsening (call : Nat) : Weather :=
  fun i => { conflicts := if i < call then 0 else 1 }

/-- The store with the failures that it is told to show. -/
def Store.told (s : Store) (faults : Faults) : Store :=
  s.withFaults faults.conflicts faults.failStatusWrites faults.failLists

namespace Pass

variable {α : Type}

/-- A run in changing weather, with a service whose answer depends on the request alone. -/
def runIn (service : (c : ServiceCall) → c.Answer) : Pass α → Weather → Store → α × Store
  | .done a, _, s => (a, s)
  | .ask (.store c) next, weather, s =>
    let t := s.told (weather 0)
    (next (t.answer c).1).runIn service (fun i => weather (i + 1)) (t.answer c).2
  | .ask (.service c) next, weather, s =>
    (next (service c)).runIn service (fun i => weather (i + 1)) s

/-- The calls of such a run with their answers. -/
def journalIn (service : (c : ServiceCall) → c.Answer) : Pass α → Weather → Store → List Event
  | .done _, _, _ => []
  | .ask (.store c) next, weather, s =>
    let t := s.told (weather 0)
    .ofStore c (t.answer c).1 ::
      (next (t.answer c).1).journalIn service (fun i => weather (i + 1)) (t.answer c).2
  | .ask (.service c) next, weather, s =>
    .ofService c (service c) :: (next (service c)).journalIn service (fun i => weather (i + 1)) s

/-- What is computed is a run in a changing climate. -/
theorem weathers_runIn (service : (c : ServiceCall) → c.Answer) (p : Pass α) (weather : Weather)
    (s : Store) : p.Weathers s (p.journalIn service weather s) (p.runIn service weather s).1
      (p.runIn service weather s).2 := by
  induction p generalizing weather s with
  | done a => exact .done a s
  | ask c next ih =>
    cases c with
    | store c => exact .ask (.store c next ⟨_, _, _, rfl⟩) (ih _ _ _)
    | service c => exact .ask (.service c _ next s) (ih _ _ _)

end Pass

end FeedOperator
