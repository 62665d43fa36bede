import FeedOperator.Proofs.Store.View
import FeedOperator.Proofs.Visit

/-!
# What a pass over a Source comes to in a quiet store

In a store that shows no failure every write of a pass goes through, so what comes of a pass is a
function of the Source and of what the service answers.

* `Source.tended`: the Source after a pass.
* `Source.verdict`: the result of the pass.

Results:
* `Course.tends`: a pass over a live Source has this result, and leaves this in place of the Source.
-/

namespace FeedOperator

namespace Source

variable {f : Service} {now : String}

/-- What the service answers to a pass. -/
def reply (f : Service) (a : Source) : Except ServiceError Unit :=
  if a.externalId = 0 then (f (.create a.spec)).map fun _ => ()
  else f (.update a.externalId { a.spec with id := a.externalId })

theorem reply_unversioned (a : Source) : reply f a.unversioned = a.reply f := rfl

/-- The result of a pass. -/
def verdict (f : Service) (a : Source) : Except SourceError Action :=
  ((a.reply f).mapError .service).map fun _ => .awaitChange

/-- The Source after the service answered. -/
def answered (f : Service) (now : String) (a : Source) : Source :=
  if a.externalId = 0 then a.registered now a.nextKind (f (.create a.spec))
  else a.updated now a.nextKind (f (.update a.externalId { a.spec with id := a.externalId }))

/-- The Source after a pass. -/
def tended (f : Service) (now : String) (a : Source) : Source :=
  a.held.answered f now

/-- The answer changes the status alone. -/
theorem answered_eq (a : Source) :
    a.answered f now = { a with status := (a.answered f now).status } := by
  unfold answered
  split
  · cases f (.create a.spec) <;> rfl
  · cases f (.update a.externalId { a.spec with id := a.externalId }) <;> rfl

theorem unversioned_registered (a : Source) (kind : Condition.Kind)
    (answer : Except ServiceError Int64) :
    (a.registered now kind answer).unversioned = registered now a.unversioned kind answer := by
  cases answer <;> rfl

theorem unversioned_updated (a : Source) (kind : Condition.Kind)
    (answer : Except ServiceError Unit) :
    (a.updated now kind answer).unversioned = updated now a.unversioned kind answer := by
  cases answer <;> rfl

theorem unversioned_answered (a : Source) :
    (a.answered f now).unversioned = answered f now a.unversioned := by
  have hid : externalId a.unversioned = a.externalId := rfl
  unfold answered
  rw [hid]
  split
  · exact unversioned_registered a a.nextKind _
  · exact unversioned_updated a a.nextKind _

theorem unversioned_tended (a : Source) :
    (a.tended f now).unversioned = tended f now a.unversioned := by
  unfold tended
  rw [unversioned_answered, Object.unversioned_heldBy]

@[simp] theorem metadata_answered (a : Source) : (a.answered f now).metadata = a.metadata := by
  rw [answered_eq]

theorem wish_answered (a : Source) : (a.answered f now).wish = a.wish := by
  rw [answered_eq]
  rfl

theorem wish_tended (a : Source) : (a.tended f now).wish = a.wish :=
  (wish_answered a.held).trans (a.refinalized_heldBy finalizer).kept.wish_eq

theorem isDeleted_tended (a : Source) :
    (a.tended f now).metadata.isDeleted = a.metadata.isDeleted := by
  unfold tended
  rw [metadata_answered]
  exact a.isDeleted_heldBy finalizer

theorem not_isUnheld_tended (a : Source) : ¬ (a.tended f now).IsUnheld := by
  intro h
  have hhas := a.hasFinalizer_heldBy finalizer
  have hunheld : a.held.IsUnheld := by
    rw [Object.IsUnheld, tended, metadata_answered] at h
    exact h
  rw [Object.hasFinalizer_of_isUnheld hunheld] at hhas
  cases hhas

/-- The result depends on spec and status alone. -/
theorem verdict_of_unversioned_eq {mine a : Source}
    (h : mine.unversioned = a.held.unversioned) : mine.verdict f = a.verdict f := by
  change verdict f mine.unversioned = verdict f a.held.unversioned
  rw [h]

/-! ## The parts of a pass -/

section Runs

variable {s t u : Store} {es : List Event} {source mine : Source} {ns name : String}

theorem Held.calm {r : Except SourceError Source} (h : Held .settled s source es r t)
    (calm : s.Calm) : t.Calm := by
  cases h with
  | already => exact calm
  | written meets =>
    obtain rfl := Climate.settled_eq meets
    exact calm.answer (.replaceSource _)

/-- In a quiet store the finalizer is made sure of. -/
theorem Held.unversioned_eq {r : Except SourceError Source} (quiet : s.Quiet)
    (stored : s.sources.get? source.key = some source)
    (h : Held .settled s source es r t) :
    ∃ mine, r = .ok mine ∧ mine.unversioned = source.held.unversioned := by
  cases h with
  | already hf => exact ⟨source, rfl, by rw [held, Object.heldBy_of_hasFinalizer hf]⟩
  | written meets hf =>
    obtain rfl := Climate.settled_eq meets
    have hheld := source.refinalized_heldBy finalizer
    have hkey : source.held.key = source.key := hheld.kept.key_eq
    obtain ⟨written, hw, hreplaced⟩ := Store.replaceSource_of_current quiet.calm.sourceConflicts
      (hkey.symm ▸ stored) (source.resourceVersion_heldBy finalizer).symm
    refine ⟨written, ?_, hreplaced.unversioned_written rfl⟩
    rw [held, hw]
    rfl

/-- In a quiet store the write of the status goes through, and the Source is tended. -/
theorem Held.tends (f : Service) (now : String) (quiet : s.Quiet)
    (stored : s.sources.get? source.key = some source)
    (live : source.metadata.isDeleted = false) (h : Held .settled s source es (.ok mine) t) :
    mine.unversioned = source.held.unversioned ∧
    (∃ written, (t.replaceSourceStatus (mine.answered f now)).1 = .ok written) ∧
    s.SameButSources (t.replaceSourceStatus (mine.answered f now)).2 ∧
    ∀ k, (t.replaceSourceStatus (mine.answered f now)).2.sources.view k =
      if k = source.key then (s.sources.view k).map (Source.tended f now)
      else s.sources.view k := by
  obtain ⟨_, hmine, same⟩ := h.unversioned_eq quiet stored
  cases hmine
  have hold := h.holding stored live
  have hkey : mine.key = source.key := hold.refinalized.kept.key_eq
  have hanswered : (mine.answered f now).key = mine.key := by
    rw [Object.key, metadata_answered]
    rfl
  have found : t.sources.get? (mine.answered f now).key = some mine := by
    rw [hanswered, hkey]
    exact hold.stored
  obtain ⟨written, hw, hreplaced⟩ := Store.replaceSourceStatus_of_current
    (h.calm quiet.calm).failStatusWrites found (by rw [metadata_answered])
  refine ⟨same, ⟨written, hw⟩, ?_, fun k => ?_⟩
  · rcases t.replaceSourceStatus_cases (mine.answered f now) with
      ⟨_, _, hsame⟩ | ⟨_, _, _, _, rest⟩
    · exact ⟨hsame.hotNews.trans hold.rest.hotNews, hsame.configMaps.trans hold.rest.configMaps⟩
    · exact ⟨rest.hotNews.trans hold.rest.hotNews, rest.configMaps.trans hold.rest.configMaps⟩
  · rw [hreplaced.view_eq, hanswered, hkey]
    split
    · next hk =>
      rw [hk, Catalog.view_of_get? stored, ← answered_eq, unversioned_answered, same,
        ← unversioned_answered]
      exact congrArg some source.unversioned_tended
    · next hk => rw [Catalog.view, hold.elsewhere k hk, Catalog.view]

/-- **In a quiet store a pass over a live Source tends it**, and does nothing else. -/
theorem Course.tends {r : Except SourceError Action} (quiet : s.Quiet)
    (stored : s.sources.get? ⟨ns, name⟩ = some source) (live : source.metadata.isDeleted = false)
    (h : Course .settled now ns name s es r u) (answers : f.Answers es) :
    r = source.verdict f ∧ s.SameButSources u ∧
      ∀ k, u.sources.view k =
        if k = ⟨ns, name⟩ then (s.sources.view k).map (Source.tended f now)
        else s.sources.view k := by
  have hkey : source.key = ⟨ns, name⟩ := quiet.sound.source_key stored
  have found : ∀ {a}, s.sources.get? ⟨ns, name⟩ = some a → a = source := fun ha =>
    Option.some.inj (ha.symm.trans stored)
  have held : s.sources.get? source.key = some source := hkey ▸ stored
  cases h with
  | absent _ gone =>
    rw [gone] at stored
    cases stored
  | finalized _ stored' deleted =>
    obtain rfl := found stored'
    rw [live] at deleted
    cases deleted
  | unheld meets stored' _ holds =>
    obtain rfl := found stored'
    obtain rfl := Climate.settled_eq meets
    obtain ⟨_, hmine, -⟩ := holds.unversioned_eq quiet held
    cases hmine
  | @registered _ mine _ _ t _ answer meets stored' _ holds fresh writes =>
    obtain rfl := found stored'
    obtain rfl := Climate.settled_eq meets
    obtain rfl := Climate.settled_eq writes
    obtain rfl : answer = f (.create mine.spec) := answers (.create mine.spec) answer (by simp)
    obtain ⟨same, ⟨written, hw⟩, rest, hview⟩ := holds.tends f now quiet held live
    have hanswered : mine.registered now mine.nextKind (f (.create mine.spec)) =
        mine.answered f now := by
      rw [answered, if_pos fresh]
    rw [hanswered, hw]
    refine ⟨?_, rest, hkey ▸ hview⟩
    rw [← verdict_of_unversioned_eq same, verdict, reply, if_pos fresh]
    cases f (.create mine.spec) <;> rfl
  | @updated _ mine _ _ t _ answer meets stored' _ holds known writes =>
    obtain rfl := found stored'
    obtain rfl := Climate.settled_eq meets
    obtain rfl := Climate.settled_eq writes
    obtain rfl : answer = f (.update mine.externalId { mine.spec with id := mine.externalId }) :=
      answers (.update _ _) answer (by simp)
    obtain ⟨same, ⟨written, hw⟩, rest, hview⟩ := holds.tends f now quiet held live
    have hanswered : mine.updated now mine.nextKind
        (f (.update mine.externalId { mine.spec with id := mine.externalId })) =
          mine.answered f now := by
      rw [answered, if_neg known]
    rw [hanswered, hw]
    refine ⟨?_, rest, hkey ▸ hview⟩
    rw [← verdict_of_unversioned_eq same, verdict, reply, if_neg known]
    cases f (.update mine.externalId { mine.spec with id := mine.externalId }) <;> rfl

end Runs

end Source

end FeedOperator
