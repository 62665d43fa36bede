import FeedOperator.Proofs.Admission.Linking
import FeedOperator.Proofs.Json.Distinct

/-!
# Feed groups that are admitted

The ConfigMap with the feed groups and the HotNews that name them are judged one at a time, each
against the Sources. What is said of the ConfigMap covers every group of it, so a HotNews that is
admitted while it is away is admitted when it is there.

* `ConfigMap.Strays`: the short names in feed groups that no Source has, group by group.
* `ConfigMap.Judged`: what a check of the ConfigMap says, and what it means for HotNews.

Results:
* `ConfigMap.outcome_validate`: the verdict on the ConfigMap.
* `ConfigMap.strays_of_ascending`: the errors are those at the strays, in the order of the keys.
* `HotNews.accepted_after`: what a good verdict promises to a HotNews.
* `ConfigMap.groups_judged`: all of it, for a ConfigMap that is new or changed.
-/

namespace FeedOperator

instance (s : Store) (ns name : String) : Decidable (s.Knows ns name) :=
  inferInstanceAs (Decidable (∃ a ∈ s.sources.inNamespace ns, a.spec.shortName = name))

namespace ConfigMap

variable {target : FeedGroupRef} {s : Store} {cm : ConfigMap} {groups : FeedGroups}

/-! ## Strays -/

/-- Short names in feed groups that no Source of a namespace has, each with its key: the keys
ascend, and under each of them the names stand as its text lists them, as often as it does. -/
structure Strays (s : Store) (ns : String) (groups : FeedGroups)
    (strays : List (String × String)) : Prop where
  ascending : strays.Pairwise (·.1 ≤ ·.1)
  grouped : ∀ group value, (group, value) ∈ groups →
    (strays.filter (·.1 = group)).map Prod.snd = (shortNames value).filter (¬ s.Knows ns ·)
  within : ∀ e ∈ strays, e.1 ∈ groups.map Prod.fst

/-- The strays of one group. -/
def straysOf (s : Store) (ns : String) (entry : String × String) : List (String × String) :=
  ((shortNames entry.2).filter (¬ s.Knows ns ·)).map (entry.1, ·)

theorem fst_of_mem_straysOf {ns : String} {entry e : String × String}
    (h : e ∈ straysOf s ns entry) : e.1 = entry.1 := by
  obtain ⟨_, -, rfl⟩ := List.mem_map.mp h
  rfl

theorem filter_straysOf {ns : String} {entry : String × String} (group : String) :
    (straysOf s ns entry).filter (·.1 = group) =
      if entry.1 = group then straysOf s ns entry else [] := by
  split
  · next same =>
    exact List.filter_eq_self.mpr fun e he => by simp [fst_of_mem_straysOf he, same]
  · next other =>
    exact List.filter_eq_nil_iff.mpr fun e he => by simp [fst_of_mem_straysOf he, other]

/-- The strays of all groups, one group after the other. -/
def straysIn (s : Store) (ns : String) (groups : FeedGroups) : List (String × String) :=
  groups.flatMap (straysOf s ns)

theorem straysIn_eq_nil_iff {ns : String} : straysIn s ns groups = [] ↔
    ∀ group value, (group, value) ∈ groups → ∀ name ∈ shortNames value, s.Knows ns name := by
  simp [straysIn, straysOf, List.flatMap_eq_nil_iff]

theorem strays_of_ascending {ns : String} (keys : Ascending groups) :
    Strays s ns groups (straysIn s ns groups) := by
  refine ⟨List.pairwise_flatMap.mpr ⟨fun entry _ => ?_, ?_⟩, fun group value here => ?_,
    fun e he => ?_⟩
  · refine List.pairwise_of_forall_mem_list fun a ha b hb => ?_
    rw [fst_of_mem_straysOf ha, fst_of_mem_straysOf hb]
  · refine keys.imp fun {a b} before x hx y hy => ?_
    rw [fst_of_mem_straysOf hx, fst_of_mem_straysOf hy]
    exact le_of_lt before
  · obtain ⟨front, back, rfl⟩ := List.append_of_mem here
    have others : ∀ l : FeedGroups, (∀ e ∈ l, e.1 ≠ group) →
        l.flatMap (fun e => (straysOf s ns e).filter (·.1 = group)) = [] := fun l apart =>
      List.flatMap_eq_nil_iff.mpr fun e he => by rw [filter_straysOf, if_neg (apart e he)]
    have before := (List.pairwise_append.mp keys).2.2
    have after := (List.pairwise_cons.mp (List.pairwise_append.mp keys).2.1).1
    rw [straysIn, List.filter_flatMap, List.flatMap_append, List.flatMap_cons, others front,
      others back, filter_straysOf, if_pos rfl, List.nil_append, List.append_nil, straysOf,
      List.map_map]
    · exact List.map_id' _
    · exact fun e he => (ne_of_lt (after e he)).symm
    · exact fun e he => ne_of_lt (before e he _ List.mem_cons_self)
  · obtain ⟨entry, here, inside⟩ := List.mem_flatMap.mp he
    exact fst_of_mem_straysOf inside ▸ List.mem_map_of_mem here

/-! ## The verdict -/

/-- The error at a stray. -/
def strayError (stray : String × String) : FieldError :=
  .notFound ("data[" ++ stray.1 ++ "]") stray.2

theorem missingNames_eq {ns : String} :
    missingNames groups ((s.sources.inNamespace ns).map (·.spec.shortName)) =
      (straysIn s ns groups).map strayError := by
  have unknown (name : String) :
      (!((s.sources.inNamespace ns).map (·.spec.shortName)).contains name) =
        decide (¬ s.Knows ns name) := by
    rw [decide_not, List.contains_eq_mem]
    simp only [List.mem_map]
    rfl
  rw [missingNames, straysIn, List.map_flatMap]
  simp only [unknown, straysOf, List.map_map]
  rfl

/-- **The verdict on the feed groups** has an error for each stray. -/
theorem outcome_validate (here : cm.isTarget target = true) (lists : s.failLists = false) :
    (cm.validate target).outcome s =
      Verdict.of type cm.metadata ((straysIn s target.ns cm.texts).map strayError) [] := by
  have place : cm.metadata.ns.getD defaultNamespace = target.ns := by
    rw [isTarget, FeedGroupRef.isAt, Bool.and_eq_true, beq_iff_eq] at here
    rw [here.1, Option.getD_some]
  unfold validate
  rw [if_neg (by simp [here]), Pass.outcome_read_bind rfl, place]
  simp only [Store.answer, lists, Bool.false_eq_true, if_false, Pass.outcome_pure, missingNames_eq]

theorem accepts_iff (here : cm.isTarget target = true) (lists : s.failLists = false) :
    ((cm.validate target).outcome s).isOk = true ↔
      ∀ group value, (group, value) ∈ cm.texts →
        ∀ name ∈ shortNames value, s.Knows target.ns name := by
  rw [outcome_validate here lists, Verdict.isOk_of_iff, List.map_eq_nil_iff, straysIn_eq_nil_iff]

end ConfigMap

/-! ## HotNews -/

/-- The store without the ConfigMap with the feed groups. -/
def Store.withoutGroups (s : Store) (target : FeedGroupRef) : Store :=
  { s with configMaps := s.configMaps.erase ⟨target.ns, target.name⟩ }

theorem FeedGroups.mem_of_mem_resolveGroup {groups : FeedGroups} {group name : String}
    (h : name ∈ groups.resolveGroup group) :
    ∃ value, (group, value) ∈ groups ∧ name ∈ shortNames value := by
  unfold resolveGroup at h
  cases hvalue : groups.lookup group with
  | none => simp [hvalue] at h
  | some value =>
    rw [hvalue] at h
    obtain ⟨front, back, rfl, -⟩ := List.lookup_eq_some_iff.mp hvalue
    exact ⟨value, by simp, h⟩

/-- What is found of a ConfigMap with feed groups once it is stored. -/
theorem Store.get?_insertConfigMap {s : Store} {target : FeedGroupRef} {cm found : ConfigMap}
    (here : cm.isTarget target = true)
    (h : (s.insertConfigMap cm).configMaps.get? ⟨target.ns, target.name⟩ = some found) :
    found.texts = cm.texts := by
  obtain ⟨ns, name⟩ : cm.metadata.ns = some target.ns ∧ cm.metadata.name = some target.name := by
    simpa [ConfigMap.isTarget, FeedGroupRef.isAt] using here
  simp only [insertConfigMap, nextVersion, Catalog.get?_insert, ObjectKey.ofMeta, stamp, ns, name,
    Option.getD_some, if_true, Option.some.injEq] at h
  exact h ▸ rfl

/-- **What a good verdict on the feed groups promises.** A HotNews that is admitted without them is
admitted with them, if it is in their namespace. -/
theorem HotNews.accepted_after {target : FeedGroupRef} {s : Store} {cm : ConfigMap}
    {hotNews : HotNews} (here : cm.isTarget target = true) (lists : s.failLists = false)
    (good : ((cm.validate target).outcome s).isOk = true)
    (place : hotNews.metadata.ns.getD defaultNamespace = target.ns)
    (without : ((hotNews.validate target).outcome (s.withoutGroups target)).isOk = true) :
    ((hotNews.validate target).outcome (s.insertConfigMap cm)).isOk = true := by
  obtain ⟨-, stated, covered⟩ := accepts_iff.mp without
  refine accepts_iff.mpr ⟨lists, stated, covered.named, fun found hfound group _ name hname => ?_⟩
  rw [Store.get?_insertConfigMap here hfound] at hname
  obtain ⟨value, hvalue, listed⟩ := FeedGroups.mem_of_mem_resolveGroup hname
  rw [place]
  exact (ConfigMap.accepts_iff here lists).mp good group value hvalue name listed

/-! ## Both together -/

namespace ConfigMap

/-- What a check of the feed groups says, and what a good verdict means for HotNews. -/
structure Judged (target : FeedGroupRef) (s : Store) (check : ConfigMap → Pass Verdict)
    (cm : ConfigMap) : Prop where
  /-- It passes iff each short name in a group is that of a Source beside it. -/
  accepted : ((check cm).outcome s).isOk = true ↔
    ∀ group value, (group, value) ∈ cm.texts →
      ∀ name ∈ shortNames value, s.Knows target.ns name
  /-- Otherwise there is an error for each stray, and there are no warnings. -/
  errors : ∃ strays, Strays s target.ns cm.texts strays ∧
    (check cm).outcome s = Verdict.of type cm.metadata (strays.map strayError) []
  /-- What is admitted without feed groups is admitted with these, if it is new. -/
  created : ((check cm).outcome s).isOk = true → ∀ hotNews : HotNews,
    hotNews.metadata.ns.getD defaultNamespace = target.ns →
    (((HotNews.rules target).create hotNews).outcome (s.withoutGroups target)).isOk = true →
    (((HotNews.rules target).create hotNews).outcome (s.insertConfigMap cm)).isOk = true
  /-- It is also if it is changed. -/
  updated : ((check cm).outcome s).isOk = true → ∀ old hotNews : HotNews,
    hotNews.metadata.ns.getD defaultNamespace = target.ns →
    (((HotNews.rules target).update old hotNews).outcome (s.withoutGroups target)).isOk = true →
    (((HotNews.rules target).update old hotNews).outcome (s.insertConfigMap cm)).isOk = true

theorem judged_validate {target : FeedGroupRef} {s : Store} {cm : ConfigMap}
    (lists : s.failLists = false) (here : cm.isTarget target = true)
    (keys : Ascending cm.texts) : Judged target s (validate target) cm where
  accepted := accepts_iff here lists
  errors := ⟨_, strays_of_ascending keys, outcome_validate here lists⟩
  created good _ place without := HotNews.accepted_after here lists good place without
  updated good _ _ place without := HotNews.accepted_after here lists good place without

/-- **Feed groups that are admitted cost no HotNews its admission.** -/
theorem groups_judged {target : FeedGroupRef} {s : Store} {cm : ConfigMap}
    (lists : s.failLists = false) (here : cm.isTarget target = true)
    (keys : Ascending cm.texts) :
    Judged target s (rules target).create cm ∧
      ∀ old, Judged target s ((rules target).update old) cm :=
  ⟨judged_validate lists here keys, fun _ => judged_validate lists here keys⟩

/-- Feed groups for the newsroom, one of which is the one that the press names. -/
def wires : ConfigMap where
  metadata := { name := some "wires", ns := some "news" }
  data := some [("morning", "bbc, ,bbc"), ("wire", " bbc")]

/-- The press is admitted before there are feed groups, and so it is with them. -/
theorem wires_judged : newsroom.failLists = false ∧ wires.isTarget ⟨"news", "wires"⟩ = true ∧
    Ascending wires.texts ∧
    (Judged ⟨"news", "wires"⟩ newsroom (rules ⟨"news", "wires"⟩).create wires ∧
      ∀ old, Judged ⟨"news", "wires"⟩ newsroom ((rules ⟨"news", "wires"⟩).update old) wires) ∧
    (((rules ⟨"news", "wires"⟩).create wires).outcome newsroom).isOk = true ∧
    (((HotNews.rules ⟨"news", "wires"⟩).create HotNews.pressing).outcome
      (newsroom.withoutGroups ⟨"news", "wires"⟩)).isOk = true := by
  have lists : newsroom.failLists = false := by decide +kernel
  have here : wires.isTarget ⟨"news", "wires"⟩ = true := by decide
  have keys : Ascending wires.texts := by unfold Ascending; decide
  exact ⟨lists, here, keys, groups_judged lists here keys, by decide +kernel, by decide +kernel⟩

/-- Each occurrence of a stray is an error of its own. -/
example : ((({ wires with data := some [("a", "dpa,bbc,dpa"), ("b", "afp")] } : ConfigMap).validate
    ⟨"news", "wires"⟩).outcome newsroom) = .error ⟨"ConfigMap", "wires",
      [.notFound "data[a]" "dpa", .notFound "data[a]" "dpa", .notFound "data[b]" "afp"]⟩ := by
  decide +kernel

end ConfigMap

end FeedOperator
