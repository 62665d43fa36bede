import FeedOperator.Proofs.Admission.Verdict

/-!
# Which requests are checked

The handler picks a check by the operation of a request and by the objects that come with it. All
rules check a changed object in the same way as a new one, whatever is stored, and still the handler
asks for the stored object before it checks a change. A request that fits no check is allowed.

* `AdmissionRequest.IsBare`: an update that comes without the stored object.
* `AdmissionRules.Served`: the rules that the handler goes by.
* `AdmissionRules.Judges`: when the answer to a new or changed object is what its check says.

Results:
* `Served.update_eq`: a change is checked like a new object.
* `validate_run`: an answer allows what its verdict allows, after the same calls.
* `changes_are_judged`: a new or changed object is checked, unless the update is bare.
* `bare_update_unchecked`: a bare update is allowed whatever the object is.
-/

namespace FeedOperator

/-- An update that comes without the stored object. -/
def AdmissionRequest.IsBare {α : Type} (request : AdmissionRequest α) : Prop :=
  request.operation = .update ∧ request.oldObject = none

namespace AdmissionRules

variable {α σ : Type} {rules : AdmissionRules α} {target : FeedGroupRef}
variable {review : AdmissionReview α} {request : AdmissionRequest α} {object : α}

/-- The rules that the handler goes by, with the place of the feed groups. -/
inductive Served (target : FeedGroupRef) : {α : Type} → AdmissionRules α → Prop
  | sources : Served target Source.rules
  | hotNews : Served target (HotNews.rules target)
  | configMaps : Served target (ConfigMap.rules target)

/-- A change is checked like a new object, whatever is stored. -/
theorem Served.update_eq (served : Served target rules) (old new : α) :
    rules.update old new = rules.create new := by
  cases served <;> rfl

/-- **An answer allows what its verdict allows**, after the same calls. -/
theorem validate_run (rules : AdmissionRules α) (review : AdmissionReview α)
    (request : AdmissionRequest α) (env : Pass.Environment σ) (state : σ) :
    ((rules.validate review request).run env state).2 =
        ((rules.verdict request).run env state).2 ∧
      (((rules.validate review request).run env state).1.allowed = true ↔
        ((rules.verdict request).run env state).1.isOk = true) := by
  have hrun : (rules.validate review request).run env state = _ :=
    Pass.run_andThen env (rules.verdict request) _ state
  rw [hrun]
  cases ((rules.verdict request).run env state).1 with
  | error denial => exact ⟨rfl, Iff.rfl⟩
  | ok warnings =>
    dsimp only
    split <;> exact ⟨rfl, Iff.rfl⟩

/-- What the handler makes of a request with a new or changed object. -/
structure Judges (rules : AdmissionRules α) (review : AdmissionReview α)
    (request : AdmissionRequest α) (object : α) : Prop where
  /-- A bare update is allowed, and no call is made. -/
  bare : request.IsBare → rules.validate review request = pure (.allow review request)
  /-- Otherwise the object is checked in the namespace of the request, with all the calls that this
  takes, and the answer allows what the check allows. -/
  checked : ¬ request.IsBare → ∀ {σ : Type} (env : Pass.Environment σ) (state : σ),
    ((rules.validate review request).run env state).2 =
        ((rules.create (rules.placed request.ns object)).run env state).2 ∧
      (((rules.validate review request).run env state).1.allowed = true ↔
        ((rules.create (rules.placed request.ns object)).run env state).1.isOk = true)

/-- The verdict on a new or changed object is its check, unless the update is bare. -/
theorem Served.verdict_eq (served : Served target rules) (given : request.object = some object)
    (change : request.operation = .create ∨ request.operation = .update)
    (hbare : ¬ request.IsBare) :
    rules.verdict request = rules.create (rules.placed request.ns object) := by
  unfold verdict
  rcases change with hop | hop
  · rw [hop, given]
  · cases hold : request.oldObject with
    | none => exact absurd ⟨hop, hold⟩ hbare
    | some old =>
      rw [hop, given]
      exact served.update_eq _ _

/-- **A new or changed object is checked**, unless the update is bare. -/
theorem changes_are_judged (served : Served target rules) (review : AdmissionReview α)
    (given : request.object = some object)
    (change : request.operation = .create ∨ request.operation = .update) :
    rules.Judges review request object := by
  refine ⟨fun ⟨hop, hold⟩ => ?_, fun hbare σ env state => ?_⟩
  · have hverdict : rules.verdict request = pure (.ok []) := by
      unfold verdict
      rw [hop, given, hold]
    unfold validate
    rw [hverdict]
    rfl
  · rw [← served.verdict_eq given change hbare]
    exact rules.validate_run review request env state

/-- A Source without a display name. -/
def nameless : Source :=
  { metadata := { name := some "hacker-news", ns := some "default" }
    spec := { link := "https://hn.example.com/rss", shortName := "hn" } }

/-- As a new object it is checked, and so it is denied. -/
theorem nameless_is_judged :
    ∃ request : AdmissionRequest Source, Served {} Source.rules ∧
      request.object = some nameless ∧
      (request.operation = .create ∨ request.operation = .update) ∧ ¬ request.IsBare ∧
      Source.rules.Judges ⟨"", "", none⟩ request nameless := by
  have served : Served {} Source.rules := .sources
  exact ⟨{ uid := "", operation := .create, object := some nameless }, served, rfl, .inl rfl,
    fun h => (nomatch h.1), changes_are_judged served ⟨"", "", none⟩ rfl (.inl rfl)⟩

/-- **A bare update is not checked.** The handler allows it although the check denies the Source. -/
theorem bare_update_unchecked :
    ¬ ∀ (target : FeedGroupRef) (α : Type) (rules : AdmissionRules α), Served target rules →
      ∀ (review : AdmissionReview α) (request : AdmissionRequest α) (object : α),
        request.object = some object →
        request.operation = .create ∨ request.operation = .update → ∀ s : Store,
          (rules.allows review request s = true ↔
            ((rules.create (rules.placed request.ns object)).outcome s).isOk = true) := by
  intro h
  have allowed := h {} Source Source.rules .sources ⟨"", "", none⟩
    { uid := "", operation := .update, object := some nameless } nameless rfl (.inr rfl) {}
  obtain ⟨-, formed, -⟩ := Source.accepts_iff.mp (allowed.mp rfl)
  exact Source.ne_empty_of_nameErrors (Source.formatErrors_eq_nil_iff.mp formed).1 rfl

end AdmissionRules

end FeedOperator
