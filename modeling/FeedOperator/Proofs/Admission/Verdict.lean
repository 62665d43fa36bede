import FeedOperator.Admission.Handler
import FeedOperator.Proofs.Run

/-!
# Verdicts on a store

Admission reads the store and leaves it as it is, so what it says is a function of the store.

* `Pass.outcome`: what a pass comes to on a store.
* `AdmissionRules.allows`: whether the answer to a review allows the request.
* `Source.Apart`: Sources that can stand beside each other.
* `Store.Knows`: a short name that a Source of a namespace has.

Results:
* `allows_iff`: a request is allowed if the verdict on it is good, whatever else the review says.
* `Source.accepts_iff`, `HotNews.accepts_iff`: when the verdict on a new or changed object is good.
-/

namespace FeedOperator

namespace Pass

variable {α β : Type}

/-- What a pass comes to on a store, while the service cannot be reached. -/
def outcome (p : Pass α) (s : Store) : α :=
  (p.run (environment fun _ t => (.error (.transport ""), t)) (s, ())).1

@[simp] theorem outcome_pure (a : α) (s : Store) : (pure a : Pass α).outcome s = a := rfl

/-- The second of two passes in a row starts from the store that the first one leaves. -/
theorem outcome_bind (p : Pass α) (f : α → Pass β) (s : Store) :
    ∃ t, (p >>= f).outcome s = (f (p.outcome s)).outcome t :=
  ⟨_, congrArg Prod.fst (run_andThen _ p f (s, ()))⟩

/-- A call that leaves the store as it is. -/
theorem outcome_read_bind {c : StoreCall} {f : c.Answer → Pass β} {s : Store}
    (reads : (s.answer c).2 = s) :
    (Pass.store c >>= f).outcome s = (f (s.answer c).1).outcome s := by
  change ((f (s.answer c).1).run _ ((s.answer c).2, ())).1 = _
  rw [reads]
  rfl

end Pass

namespace AdmissionRules

variable {α : Type}

/-- Whether the answer to a review allows the request. -/
def allows (rules : AdmissionRules α) (review : AdmissionReview α) (request : AdmissionRequest α)
    (s : Store) : Bool :=
  ((rules.validate review request).outcome s).allowed

/-- **A request is allowed if the verdict on it is good**, whatever else the review says. -/
theorem allows_iff {rules : AdmissionRules α} {review : AdmissionReview α}
    {request : AdmissionRequest α} {s : Store} :
    rules.allows review request s = true ↔ ((rules.verdict request).outcome s).isOk = true := by
  unfold allows validate
  obtain ⟨t, heq⟩ := Pass.outcome_bind (rules.verdict request) _ s
  rw [heq]
  cases (rules.verdict request).outcome s with
  | error denial => exact Iff.rfl
  | ok warnings =>
    change (if _ then _ else _ : AdmissionAnswer).allowed = true ↔ _
    split <;> exact Iff.rfl

end AdmissionRules

theorem Verdict.isOk_of_iff {type : ResourceType} {m : Meta} {errors : List FieldError}
    {warnings : List String} : (Verdict.of type m errors warnings).isOk = true ↔ errors = [] := by
  cases errors with
  | nil => exact ⟨fun _ => rfl, fun _ => rfl⟩
  | cons e rest => exact ⟨fun h => (nomatch h), fun h => (nomatch h)⟩

/-! ## Sources -/

namespace Source

/-- Sources that can stand beside each other. -/
structure Apart (a b : Source) : Prop where
  name : a.spec.name ≠ b.spec.name
  shortName : a.spec.shortName ≠ b.spec.shortName
  link : a.spec.link ≠ b.spec.link

variable {a b : Source} {s : Store}

theorem Apart.symm (h : a.Apart b) : b.Apart a :=
  ⟨h.name.symm, h.shortName.symm, h.link.symm⟩

theorem Apart.congr {a' b' : Source} (h : a.Apart b) (ha : a'.spec = a.spec)
    (hb : b'.spec = b.spec) : a'.Apart b' := by
  obtain ⟨name, shortName, link⟩ := h
  rw [← ha, ← hb] at name shortName link
  exact ⟨name, shortName, link⟩

theorem duplicateErrors_eq_nil_iff {field : String} (value : SourceSpec → String)
    {spec : SourceSpec} {others : List Source} (given : value spec ≠ "") :
    duplicateErrors field value spec others = [] ↔ ∀ o ∈ others, value spec ≠ value o.spec := by
  have hgiven : (value spec).isEmpty = false := by
    rw [Bool.eq_false_iff]
    exact fun h => given (String.isEmpty_iff.mp h)
  unfold duplicateErrors
  rw [hgiven, Bool.not_false, Bool.true_and]
  split
  · next h =>
    obtain ⟨o, ho, heq⟩ := List.any_eq_true.mp h
    exact ⟨fun h => (nomatch h), fun h => absurd (eq_of_beq heq).symm (h o ho)⟩
  · next h =>
    refine ⟨fun _ o ho heq => h ?_, fun _ => rfl⟩
    exact List.any_eq_true.mpr ⟨o, ho, beq_iff_eq.mpr heq.symm⟩

theorem ne_empty_of_nameErrors {field value : String} (h : nameErrors field value = []) :
    value ≠ "" := by
  rintro rfl
  cases h

theorem ne_empty_of_linkErrors {value : String} (h : linkErrors value = []) : value ≠ "" := by
  rintro rfl
  cases h

theorem formatErrors_eq_nil_iff : a.formatErrors = [] ↔
    nameErrors "spec.name" a.spec.name = [] ∧ nameErrors "spec.shortName" a.spec.shortName = [] ∧
      linkErrors a.spec.link = [] := by
  unfold formatErrors
  rw [List.append_eq_nil_iff, List.append_eq_nil_iff, and_assoc]

theorem formatErrors_congr (h : b.spec = a.spec) : b.formatErrors = a.formatErrors := by
  unfold formatErrors
  rw [h]

/-- **Nothing repeats what another Source has**, for Sources that are well formed by themselves. -/
theorem uniquenessErrors_eq_nil_iff {existing : List Source} (formed : a.formatErrors = []) :
    uniquenessErrors a existing = [] ↔
      ∀ b ∈ existing, b.metadata.name ≠ a.metadata.name → a.Apart b := by
  obtain ⟨hname, hshort, hlink⟩ := formatErrors_eq_nil_iff.mp formed
  have others : ∀ b, b ∈ existing.filter (·.metadata.name != a.metadata.name) ↔
      b ∈ existing ∧ b.metadata.name ≠ a.metadata.name := by
    intro b
    rw [List.mem_filter, bne_iff_ne]
  unfold uniquenessErrors
  rw [List.append_eq_nil_iff, List.append_eq_nil_iff,
    duplicateErrors_eq_nil_iff (·.name) (ne_empty_of_nameErrors hname),
    duplicateErrors_eq_nil_iff (·.shortName) (ne_empty_of_nameErrors hshort),
    duplicateErrors_eq_nil_iff (·.link) (ne_empty_of_linkErrors hlink)]
  constructor
  · rintro ⟨⟨h, h'⟩, h''⟩ b hb hne
    have hmem := (others b).mpr ⟨hb, hne⟩
    exact ⟨h b hmem, h' b hmem, h'' b hmem⟩
  · intro h
    refine ⟨⟨fun b hb => ?_, fun b hb => ?_⟩, fun b hb => ?_⟩
    · exact (h b ((others b).mp hb).1 ((others b).mp hb).2).name
    · exact (h b ((others b).mp hb).1 ((others b).mp hb).2).shortName
    · exact (h b ((others b).mp hb).1 ((others b).mp hb).2).link

/-- **When a Source is accepted.** The list of Sources can be read, the Source is well formed, and
it is apart from those of its namespace that have another name. -/
theorem accepts_iff : ((validate a).outcome s).isOk = true ↔
    s.failLists = false ∧ a.formatErrors = [] ∧
      ∀ b ∈ s.sources.inNamespace (a.metadata.ns.getD defaultNamespace),
        b.metadata.name ≠ a.metadata.name → a.Apart b := by
  unfold validate
  rw [Pass.outcome_read_bind rfl]
  cases hl : s.failLists with
  | true =>
    simp only [Store.answer, hl, if_true, Pass.outcome_pure]
    rw [Verdict.isOk_of_iff, List.append_eq_nil_iff]
    exact ⟨fun h => (nomatch h.2), fun h => (nomatch h.1)⟩
  | false =>
    simp only [Store.answer, hl, Bool.false_eq_true, if_false, Pass.outcome_pure]
    rw [Verdict.isOk_of_iff, List.append_eq_nil_iff]
    constructor
    · rintro ⟨formed, unique⟩
      exact ⟨trivial, formed, (uniquenessErrors_eq_nil_iff formed).mp unique⟩
    · rintro ⟨-, formed, apart⟩
      exact ⟨formed, (uniquenessErrors_eq_nil_iff formed).mpr apart⟩

end Source

/-! ## HotNews -/

/-- Whether some Source of a namespace has a short name. -/
def Store.Knows (s : Store) (ns name : String) : Prop :=
  ∃ a ∈ s.sources.inNamespace ns, a.spec.shortName = name

namespace HotNews

variable {target : FeedGroupRef} {hotNews : HotNews} {spec : HotNewsSpec} {s : Store}
variable {known : List String}

theorem missingSources_eq_nil_iff :
    missingSources spec known = [] ↔ ∀ name ∈ spec.sources, name ∈ known := by
  unfold missingSources
  rw [List.map_eq_nil_iff, List.filter_eq_nil_iff]
  constructor
  · intro h name hname
    obtain ⟨i, hi, heq⟩ := List.getElem_of_mem hname
    have := h (name, i) (List.mem_zipIdx_iff_getElem?.mpr (by simp [← heq, hi]))
    simpa using this
  · rintro h ⟨name, i⟩ hmem
    have hname := h name (List.fst_mem_of_mem_zipIdx hmem)
    simpa using hname

theorem missingInGroup_eq_nil_iff {groups : FeedGroups} {group : String} {i : Nat} :
    missingInGroup groups known group i = [] ↔
      ∀ name ∈ groups.resolveGroup group, name ∈ known := by
  unfold missingInGroup
  rw [List.map_eq_nil_iff, List.filter_eq_nil_iff]
  exact forall₂_congr fun name _ => by simp

theorem groupErrors_eq_nil_iff {groups : FeedGroups} :
    groupErrors spec groups (some known) = [] ↔
      ∀ group ∈ spec.feedGroups, ∀ name ∈ groups.resolveGroup group, name ∈ known := by
  unfold groupErrors
  rw [List.flatMap_eq_nil_iff]
  constructor
  · intro h group hgroup
    obtain ⟨i, hi, heq⟩ := List.getElem_of_mem hgroup
    exact missingInGroup_eq_nil_iff.mp
      (h (group, i) (List.mem_zipIdx_iff_getElem?.mpr (by simp [← heq, hi])))
  · rintro h ⟨group, i⟩ hmem
    exact missingInGroup_eq_nil_iff.mpr (h group (List.fst_mem_of_mem_zipIdx hmem))

/-- Every short name that a HotNews searches, by itself or by its feed groups, is known. -/
structure Covered (target : FeedGroupRef) (s : Store) (ns : String) (spec : HotNewsSpec) :
    Prop where
  named : ∀ name ∈ spec.sources, s.Knows ns name
  grouped : ∀ cm, s.configMaps.get? ⟨target.ns, target.name⟩ = some cm →
    ∀ group ∈ spec.feedGroups, ∀ name ∈ FeedGroups.resolveGroup cm.texts group, s.Knows ns name

/-- The errors at feed groups: none if the ConfigMap is not there. -/
theorem outcome_groupFindings_eq_nil_iff :
    ((groupFindings target spec (some known)).outcome s).1 = [] ↔
      ∀ cm, s.configMaps.get? ⟨target.ns, target.name⟩ = some cm → ∀ group ∈ spec.feedGroups,
        ∀ name ∈ FeedGroups.resolveGroup cm.texts group, name ∈ known := by
  unfold groupFindings
  split
  · next hempty =>
    refine ⟨fun _ _ _ group hgroup => ?_, fun _ => rfl⟩
    rw [List.isEmpty_iff.mp hempty] at hgroup
    cases hgroup
  · rw [Pass.outcome_read_bind rfl]
    simp only [Store.answer]
    cases hcm : s.configMaps.get? ⟨target.ns, target.name⟩ with
    | none => exact ⟨fun _ _ h => (nomatch h), fun _ => rfl⟩
    | some cm =>
      refine groupErrors_eq_nil_iff.trans ⟨?_, fun h => h cm rfl⟩
      rintro h _ ⟨⟩
      exact h

/-- **When a HotNews is accepted.** The list of Sources can be read, keywords and dates are in
order, and every short name that it searches is known in its namespace. -/
theorem accepts_iff : ((validate target hotNews).outcome s).isOk = true ↔
    s.failLists = false ∧ specErrors hotNews.spec = [] ∧
      Covered target s (hotNews.metadata.ns.getD defaultNamespace) hotNews.spec := by
  unfold validate
  rw [Pass.outcome_read_bind rfl]
  cases hl : s.failLists with
  | true =>
    simp only [Store.answer, hl, if_true]
    obtain ⟨t, heq⟩ := Pass.outcome_bind (groupFindings target hotNews.spec none) _ s
    rw [heq, Pass.outcome_pure, Verdict.isOk_of_iff]
    simp
  | false =>
    simp only [Store.answer, hl, Bool.false_eq_true, if_false]
    obtain ⟨t, heq⟩ := Pass.outcome_bind (groupFindings target hotNews.spec
      (some ((s.sources.inNamespace _).map (·.spec.shortName)))) _ s
    rw [heq, Pass.outcome_pure, Verdict.isOk_of_iff, List.append_eq_nil_iff,
      List.append_eq_nil_iff, missingSources_eq_nil_iff, outcome_groupFindings_eq_nil_iff]
    simp only [List.mem_map]
    constructor
    · rintro ⟨⟨stated, named⟩, grouped⟩
      exact ⟨trivial, stated, named, grouped⟩
    · rintro ⟨-, stated, named, grouped⟩
      exact ⟨⟨stated, named⟩, grouped⟩

end HotNews

end FeedOperator
