import FeedOperator.Proofs.Reconcile.Source
import FeedOperator.Reconcile.Owners

/-!
# Passes call by call

What a pass over a Source and an edit of owners do between two calls, for runs in which the calls of
several of them are mixed.

* `Source.hold`, `Source.tend`: what is left of a pass after the read, and after the finalizer.
* `Pass.advance`: the next call of a pass.

Results:
* `run_reconcile`, `run_hold`, `run_tend`: the calls of a pass, each with what follows its answers.
* `run_editSourceWithin`: the same for an edit.
-/

namespace FeedOperator

namespace Pass

variable {α : Type}

/-- The next call with its answer, what is left of the pass, and the store after it. -/
def advance (service : (c : ServiceCall) → c.Answer) :
    Pass α → Store → Option (Event × Pass α × Store)
  | .done _, _ => none
  | .ask (.store c) next, s =>
    some (.ofStore c (s.answer c).1, next (s.answer c).1, (s.answer c).2)
  | .ask (.service c) next, s => some (.ofService c (service c), next (service c), s)

/-- What each answer of the store keeps, a call keeps. -/
theorem advance_preserves {I : Store → Prop} (keeps : ∀ s c, I s → I (s.answer c).2)
    {service : (c : ServiceCall) → c.Answer} {p rest : Pass α} {s t : Store} {e : Event}
    (h : p.advance service s = some (e, rest, t)) (hs : I s) : I t := by
  cases p with
  | done => cases h
  | ask c next =>
    cases c with
    | store c =>
      cases h
      exact keeps s c hs
    | service c =>
      cases h
      exact hs

theorem ask_congr {c : Call} {next next' : c.Answer → Pass α} (h : ∀ a, next a = next' a) :
    Pass.ask c next = Pass.ask c next' :=
  congrArg _ (funext h)

end Pass

/-- A call to the store and what follows its answers. -/
theorem Attempt.run_store_bind {ε α : Type} (onError : StoreError → ε) (c : StoreCall)
    (f : c.Result → Attempt ε α) :
    (Attempt.store onError c >>= f).run = .ask (.store c) fun answer =>
      match answer with
      | .ok a => (f a).run
      | .error e => .done (.error (onError e)) :=
  Pass.ask_congr fun answer => by cases answer <;> rfl

namespace Source

/-- What is left of a pass once the finalizer was made sure of. -/
def tend (now : String) (mine : Source) : Attempt SourceError Action := do
  if mine.externalId = 0 then register now mine mine.nextKind
  else pushUpdate now mine mine.externalId mine.nextKind
  return .awaitChange

/-- What is left of a pass over a Source that is not marked for deletion. -/
def hold (now : String) (source : Source) : Attempt SourceError Action := do
  tend now (← ensureFinalizer source)

theorem run_reconcile {now ns name : String} {given : Source} (hns : given.metadata.ns = some ns)
    (hname : given.metadata.name = some name) :
    (reconcile now given).pass = .ask (.store (.getSource ns name)) fun found =>
      match found with
      | .error e => .done (.error (.store e))
      | .ok none => .done (.ok .awaitChange)
      | .ok (some source) =>
        if source.metadata.isDeleted then (finalize source).run else (hold now source).run := by
  unfold reconcile
  rw [hns, hname]
  dsimp only
  rw [Tracking.pass_bind, Attempt.run_store_bind]
  refine Pass.ask_congr fun found => ?_
  rcases found with e | _ | source
  · rfl
  · rfl
  · dsimp only
    split
    · rw [ExceptT.run_mk, Tracking.pass_bind_forget, bind_pure]
    · rw [ExceptT.run_mk, Tracking.pass_bind]
      unfold hold tend
      refine congrArg ExceptT.run (bind_congr fun mine => ?_)
      by_cases fresh : mine.externalId = 0
      · rw [if_pos (show mine.statusOrEmpty.id = 0 from fresh)]
        dsimp only
        rw [if_pos fresh]
        exact Tracking.pass_bind_forget
      · rw [if_neg (show mine.statusOrEmpty.id ≠ 0 from fresh)]
        dsimp only
        rw [if_neg fresh]
        exact Tracking.pass_bind_forget

theorem run_hold (now : String) (source : Source) :
    (hold now source).run =
      if source.metadata.hasFinalizer finalizer then (tend now source).run
      else .ask (.store (.replaceSource source.held)) fun answer =>
        match answer with
        | .ok mine => (tend now mine).run
        | .error e => .done (.error (.store e)) := by
  unfold hold ensureFinalizer
  cases h : source.metadata.hasFinalizer finalizer with
  | true =>
    rw [Object.addFinalizer_of_hasFinalizer h, if_pos rfl]
    rfl
  | false =>
    rw [Object.addFinalizer_of_not_hasFinalizer h, if_neg Bool.false_ne_true]
    refine (Attempt.run_store_bind .store (.replaceSource source.held) (tend now)).trans ?_
    exact Pass.ask_congr fun answer => by cases answer <;> rfl

theorem run_tend (now : String) (mine : Source) :
    (tend now mine).run =
      if mine.externalId = 0 then
        .ask (.service (.create mine.spec)) fun answer =>
          .ask (.store (.replaceSourceStatus (mine.registered now mine.nextKind answer)))
            fun write => .done ((outcome answer write).map fun _ => .awaitChange)
      else
        .ask (.service (.update mine.externalId { mine.spec with id := mine.externalId }))
          fun answer =>
            .ask (.store (.replaceSourceStatus (mine.updated now mine.nextKind answer)))
              fun write => .done ((outcome answer write).map fun _ => .awaitChange) := by
  unfold tend
  split
  · refine Pass.ask_congr fun answer => ?_
    cases answer with
    | ok id => exact Pass.ask_congr fun write => by cases write <;> rfl
    | error e => exact Pass.ask_congr fun write => by cases write <;> rfl
  · refine Pass.ask_congr fun answer => ?_
    cases answer with
    | ok => exact Pass.ask_congr fun write => by cases write <;> rfl
    | error e => exact Pass.ask_congr fun write => by cases write <;> rfl

end Source

theorem run_editSourceWithin (ns name : String) (edit : SourceEdit) (rounds : Nat) :
    (editSourceWithin ns name edit (rounds + 1)).run =
      .ask (.store (.getSource ns name)) fun found =>
        match found with
        | .error e => .done (.error e)
        | .ok none => .done (.ok false)
        | .ok (some source) =>
          if (edit source).2 then
            .ask (.store (.replaceSource (edit source).1)) fun answer =>
              match answer with
              | .ok _ => .done (.ok true)
              | .error e =>
                if e.isConflict && rounds != 0 then (editSourceWithin ns name edit rounds).run
                else .done (.error e)
          else .done (.ok false) := by
  rw [editSourceWithin, Attempt.run_store_bind]
  refine Pass.ask_congr fun found => ?_
  rcases found with e | _ | source
  · rfl
  · rfl
  · dsimp only
    rcases hedit : edit source with ⟨edited, changes⟩
    cases changes with
    | false => rfl
    | true =>
      refine Pass.ask_congr fun answer => ?_
      cases answer with
      | ok => rfl
      | error e =>
        change ExceptT.run (if _ then _ else _) = _
        dsimp only
        split <;> rfl

end FeedOperator
