import FeedOperator.Proofs.Retrying

/-!
# One failure before two controllers

A failure of the store or of the aggregation service reaches each controller in an error of that
controller's own, and each controller says for itself what its errors call for. The two agree but
for one failure: a field of an object that is missing where the store is called. A Source then
waits until it is edited, and a HotNews is retried as after an outage.

* `SameFailure`: errors of the two controllers that come from one failure.
* `PassError.LacksField`: errors that a missing field caused.

Results:
* `SameFailure.failure_cases`: the two controllers classify a failure alike, or a field is missing.
* `SameFailure.backoff_eq_iff`: and so they retry it alike, after any number of failures in a row.
* `PassError.LacksField.backoff_eq_iff`: which failures by a missing field are not retried.
* `scheduled_alike_iff`: what the controllers count and decide, for every failure and tracker.
* `unidentified_retried`: a pass over a HotNews without a UID, which is retried.
-/

namespace FeedOperator

/-- Errors of the two controllers that come from one failure of the store or the service. -/
inductive SameFailure : HotNewsError → SourceError → Prop
  | store (e : StoreError) : SameFailure (.store e) (.store e)
  | ownerReference (e : StoreError) : SameFailure (.ownerReference e) (.store e)
  | updateStatus (e : StoreError) : SameFailure (.updateStatus e) (.store e)
  | fetchArticles (e : ServiceError) : SameFailure (.fetchArticles e) (.service e)

/-- Errors that a missing field caused: in the object that the pass was given, or in one that the
store was called with. -/
inductive PassError.LacksField : PassError → Prop
  | source (field : String) : LacksField (.source (.missingField field))
  | hotNews (field : String) : LacksField (.hotNews (.missingField field))
  | sourceStore (field : String) : LacksField (.source (.store (.missingField field)))
  | hotNewsStore {e : HotNewsError} (field : String)
    (same : SameFailure e (.store (.missingField field))) : LacksField (.hotNews e)

/-- Only a permanent failure is not retried. -/
theorem Failure.backoff_eq_awaitChange_iff {attempts : UInt32} {failure : Failure} :
    failure.backoff attempts = .awaitChange ↔ failure = .permanent := by
  cases failure <;> simp [backoff]

namespace SameFailure

variable {ofHotNews : HotNewsError} {ofSource : SourceError}

/-- A failure is classified alike, unless a field is missing where the store is called. -/
theorem failure_cases (same : SameFailure ofHotNews ofSource) :
    (¬ ∃ field, ofSource = .store (.missingField field)) ∧
        ofHotNews.failure = ofSource.failure ∨
      (∃ field, ofSource = .store (.missingField field)) ∧
        ofHotNews.failure = .transient ∧ ofSource.failure = .permanent := by
  cases same with
  | store e | ownerReference e | updateStatus e =>
    cases e with
    | missingField field => exact .inr ⟨⟨field, rfl⟩, rfl, rfl⟩
    | _ => exact .inl ⟨by simp, rfl⟩
  | fetchArticles e => cases e <;> exact .inl ⟨by simp, rfl⟩

/-- **A failure is retried alike iff it is not such a field.** -/
theorem backoff_eq_iff (same : SameFailure ofHotNews ofSource) (attempts : UInt32) :
    ofHotNews.failure.backoff attempts = ofSource.failure.backoff attempts ↔
      ¬ ∃ field, ofSource = .store (.missingField field) := by
  rcases same.failure_cases with ⟨other, alike⟩ | ⟨missing, transient, permanent⟩
  · exact iff_of_true (by rw [alike]) other
  · refine iff_of_false (fun alike => ?_) (not_not_intro missing)
    rw [permanent] at alike
    cases transient.symm.trans (Failure.backoff_eq_awaitChange_iff.mp alike)

end SameFailure

/-- **A failure by a missing field is not retried**, unless a HotNews meets it where the store is
called. -/
theorem PassError.LacksField.backoff_eq_iff {e : PassError} (lacks : e.LacksField)
    (attempts : UInt32) : e.failure.backoff attempts = .awaitChange ↔
      ¬ ∃ ofHotNews field, e = .hotNews ofHotNews ∧
        SameFailure ofHotNews (.store (.missingField field)) := by
  rw [Failure.backoff_eq_awaitChange_iff]
  cases lacks with
  | source field | sourceStore field => exact iff_of_true rfl (by simp)
  | hotNews field =>
    refine iff_of_true rfl ?_
    rintro ⟨_, _, same, through⟩
    cases same
    cases through
  | hotNewsStore field same =>
    refine iff_of_false (fun permanent => ?_) (not_not_intro ⟨_, field, rfl, same⟩)
    rcases same.failure_cases with ⟨other, -⟩ | ⟨-, transient, -⟩
    · exact other ⟨field, rfl⟩
    · cases transient.symm.trans permanent

/-- **Both controllers schedule one failure alike, but for a missing field.** For objects with one
retry key and any failures counted before, they count one more alike, and decide alike iff the
failure is not a field that is missing where the store is called. A failure by a missing field
waits for a change of the object, unless it is one of those and befell a HotNews. -/
theorem scheduled_alike_iff (t : Tracker) (hotNews : HotNews) (source : Source)
    (sameKey : hotNews.metadata.retryKey = source.metadata.retryKey) :
    (∀ ofHotNews ofSource, SameFailure ofHotNews ofSource →
      let hotNewsSettled :=
        t.settle hotNews.metadata.retryKey HotNewsError.failure (.error ofHotNews)
      let sourceSettled := t.settle source.metadata.retryKey SourceError.failure (.error ofSource)
      hotNewsSettled.1 = sourceSettled.1 ∧
      hotNewsSettled.1.get hotNews.metadata.retryKey = t.get hotNews.metadata.retryKey + 1 ∧
      (hotNewsSettled.2 = sourceSettled.2 ↔
        ¬ ∃ field, ofSource = .store (.missingField field))) ∧
    ∀ key e, e.LacksField →
      ((t.settle key PassError.failure (.error e)).2 = .awaitChange ↔
        ¬ ∃ ofHotNews field, e = .hotNews ofHotNews ∧
          SameFailure ofHotNews (.store (.missingField field))) := by
  refine ⟨fun ofHotNews ofSource same => ?_, fun key e lacks => lacks.backoff_eq_iff _⟩
  dsimp only
  rw [sameKey]
  refine ⟨rfl, ?_, same.backoff_eq_iff _⟩
  exact (t.get_increment _ _).trans (if_pos rfl)

/-- A HotNews and a Source under one retry key, with a conflict behind them and another one now. -/
theorem conflict_scheduled_alike :
    let hotNews : HotNews := { metadata := { name := some "bbc", ns := some "news" }, spec := {} }
    let source : Source := { metadata := { name := some "bbc", ns := some "news" }, spec := {} }
    let t : Tracker := (Tracker.increment {} "news/bbc").1
    hotNews.metadata.retryKey = source.metadata.retryKey ∧
    SameFailure (.updateStatus (.conflict "bbc")) (.store (.conflict "bbc")) ∧
    (t.settle hotNews.metadata.retryKey HotNewsError.failure
        (.error (.updateStatus (.conflict "bbc")))).2 =
      (t.settle source.metadata.retryKey SourceError.failure
        (.error (.store (.conflict "bbc")))).2 ∧
    (PassError.source (.store (.missingField "metadata.namespace"))).LacksField ∧
    (t.settle source.metadata.retryKey PassError.failure
      (.error (.source (.store (.missingField "metadata.namespace"))))).2 = .awaitChange := by
  intro hotNews source t
  have sameKey : hotNews.metadata.retryKey = source.metadata.retryKey := rfl
  have same := SameFailure.updateStatus (.conflict "bbc")
  have lacks := PassError.LacksField.sourceStore "metadata.namespace"
  obtain ⟨alike, waits⟩ := scheduled_alike_iff t hotNews source sameKey
  exact ⟨sameKey, same, (alike _ _ same).2.2.mpr (by simp), lacks, (waits _ _ lacks).mpr (by simp)⟩

/-! ## A HotNews without a UID -/

/-- A store with the feed groups and a HotNews that has neither a name nor a UID. -/
def unidentified : Store :=
  let groups : ConfigMap := { metadata := { name := some "feed-group-source" } }
  (Store.insert {} (.configMap groups)).insert
    (.hotNews { metadata := { ns := some "news" }, spec := {} })

/-- What a pass over it is given. -/
def unidentifiedHotNews : HotNews where
  metadata := { name := some "", ns := some "news" }
  spec := {}

/-- A Source under the same retry key. -/
def unidentifiedSource : Source where
  metadata := { name := some "", ns := some "news" }
  spec := {}

/-- The HotNews cannot become an owner, as a field is missing. It is retried after five seconds,
where the Source waits after the same failure. -/
theorem unidentified_retried :
    (Visit.run agreeable "now" (.hotNews {} unidentifiedHotNews) unidentified).1 =
      .error (.hotNews (.ownerReference (.missingField "metadata.uid"))) ∧
    unidentifiedHotNews.metadata.retryKey = unidentifiedSource.metadata.retryKey ∧
    SameFailure (.ownerReference (.missingField "metadata.uid"))
      (.store (.missingField "metadata.uid")) ∧
    (Tracker.settle {} unidentifiedHotNews.metadata.retryKey HotNewsError.failure
      (.error (.ownerReference (.missingField "metadata.uid")))).2 = .requeue 5 ∧
    (Tracker.settle {} unidentifiedSource.metadata.retryKey SourceError.failure
      (.error (.store (.missingField "metadata.uid")))).2 = .awaitChange :=
  ⟨by decide +kernel, rfl, .ownerReference _, by decide +kernel, rfl⟩

end FeedOperator
