import FeedOperator.Cluster
import FeedOperator.Proofs.Store.Catalog
import Mathlib.Data.List.Induction

/-!
# Which HotNews a change affects

Two computations decide what a HotNews searches: a pass joins its own short names with those of its
feed groups, and a watch asks whether a change may matter to such a pass. A watch of Sources asks
for one short name and is exact. A watch of the ConfigMap only asks whether some group stands for
something, now or at the change before; it may answer too much, and never too little.

* `ObjectKey.Ascends`: keys in strictly ascending order.
* `GroupChange`, `GroupWatch`: a change of a ConfigMap, and the watch with what it remembers.
* `GroupWatch.Reports`: what the answer to a change says, given the changes before.

Results:
* `mem_ascending`, `ascends_ascending`, `ascending_congr`: sorting keys keeps the members, and
  depends on nothing else.
* `affectedBySource_exact`: a change of a Source affects the HotNews that search it.
* `tellConfigMap_eq`: a cluster takes one step of the watch.
* `anyResolves_of_effective_ne`: what is searched changes only with groups that stand for something.
* `remembered_after`: the watch remembers the last change that concerns it.
* `reports_after`: no change of what is searched is missed, whatever came before.
-/

namespace FeedOperator

/-! ## Keys in order -/

namespace ObjectKey

/-- Keys in strictly ascending order. -/
def Ascends (keys : List ObjectKey) : Prop :=
  keys.Pairwise fun a b => a.before b = true

variable {k key : ObjectKey} {keys others : List ObjectKey}

theorem mem_insert : k ∈ insert key keys ↔ k = key ∨ k ∈ keys := by
  induction keys with
  | nil => simp [insert]
  | cons first rest ih =>
    unfold insert
    split
    · next heq => simp [heq]
    · split
      · exact List.mem_cons
      · rw [List.mem_cons, ih, List.mem_cons]
        exact or_left_comm

theorem Ascends.insert (h : Ascends keys) (key : ObjectKey) : Ascends (insert key keys) := by
  induction keys with
  | nil => exact List.pairwise_singleton _ _
  | cons first rest ih =>
    obtain ⟨hfirst, hrest⟩ := List.pairwise_cons.mp h
    unfold ObjectKey.insert
    split
    · exact h
    · next hne =>
      split
      · next hlt =>
        refine List.pairwise_cons.mpr ⟨fun k hk => ?_, h⟩
        rcases List.mem_cons.mp hk with rfl | hk
        · exact hlt
        · exact before_trans hlt (hfirst k hk)
      · next hlt =>
        refine List.pairwise_cons.mpr ⟨fun k hk => ?_, ih hrest⟩
        rcases mem_insert.mp hk with rfl | hk
        · exact before_of_ne hne hlt
        · exact hfirst k hk

theorem mem_ascending : k ∈ ascending keys ↔ k ∈ keys := by
  induction keys with
  | nil => exact Iff.rfl
  | cons first rest ih =>
    change k ∈ insert first (ascending rest) ↔ _
    rw [mem_insert, ih, List.mem_cons]

theorem ascends_ascending (keys : List ObjectKey) : Ascends (ascending keys) := by
  induction keys with
  | nil => exact .nil
  | cons first _ ih => exact ih.insert first

/-- Neither order nor repetition matters. -/
theorem ascending_congr (h : ∀ k, k ∈ keys ↔ k ∈ others) : ascending keys = ascending others :=
  eq_of_mem_iff (ascends_ascending keys) (ascends_ascending others) fun k => by
    rw [mem_ascending, mem_ascending, h]

/-- Those of some HotNews that are picked, by their keys. -/
theorem mem_ascending_picked {hotNews : List HotNews} {picks : HotNews → Bool} :
    key ∈ ascending ((hotNews.filter picks).filterMap (ofMeta? ·.metadata)) ↔
      ∃ h ∈ hotNews, picks h = true ∧ ofMeta? h.metadata = some key := by
  simp only [mem_ascending, List.mem_filterMap, List.mem_filter, and_assoc]

end ObjectKey

/-! ## Changes of Sources -/

section Sources

variable {source : Source} {hotNews : List HotNews} {groups : Option FeedGroups}

/-- Feed groups that could not be read stand for nothing. -/
theorem mem_effectiveSources_getD {n : String} {sources chosen : List String} :
    n ∈ FeedGroups.effectiveSources (groups.getD []) sources chosen ↔
      n ∈ sources ∨ ∃ g, groups = some g ∧ n ∈ FeedGroups.resolveGroups g chosen := by
  rw [FeedGroups.mem_effectiveSources]
  cases groups with
  | none => simp [FeedGroups.resolveGroup]
  | some g => simp [FeedGroups.mem_resolveGroups]

theorem mem_affectedBySource (named : source.spec.shortName ≠ "") {key : ObjectKey} :
    key ∈ affectedBySource source hotNews groups ↔
      ∃ h ∈ hotNews, ObjectKey.ofMeta? h.metadata = some key ∧
        h.metadata.ns = source.metadata.ns ∧
        source.spec.shortName ∈ FeedGroups.effectiveSources (groups.getD []) h.spec.sources
          h.spec.feedGroups := by
  have hnamed : source.spec.shortName.isEmpty = false := by
    simpa [String.isEmpty_iff] using named
  simp only [affectedBySource, hnamed, Bool.false_eq_true, if_false]
  rw [ObjectKey.mem_ascending_picked]
  refine exists_congr fun h => and_congr_right fun _ => ?_
  rw [mem_effectiveSources_getD, and_comm]
  simp [Option.any_eq_true]

theorem affectedBySource_congr {others : List HotNews} (h : ∀ a, a ∈ others ↔ a ∈ hotNews) :
    affectedBySource source others groups = affectedBySource source hotNews groups := by
  unfold affectedBySource
  dsimp only
  split
  · rfl
  · exact ObjectKey.ascending_congr fun k => by simp only [List.mem_filterMap, List.mem_filter, h]

/-- **A change of a Source affects the HotNews of its namespace that search it**, each once and in
order, however they are listed. -/
theorem affectedBySource_exact (source : Source) (hotNews : List HotNews)
    (groups : Option FeedGroups) (named : source.spec.shortName ≠ "") :
    (∀ key, key ∈ affectedBySource source hotNews groups ↔
      ∃ h ∈ hotNews, h.metadata.ns = some key.ns ∧ h.metadata.name = some key.name ∧
        h.metadata.ns = source.metadata.ns ∧
        source.spec.shortName ∈ FeedGroups.effectiveSources (groups.getD []) h.spec.sources
          h.spec.feedGroups) ∧
    ObjectKey.Ascends (affectedBySource source hotNews groups) ∧
    ∀ others : List HotNews, (∀ h, h ∈ others ↔ h ∈ hotNews) →
      affectedBySource source others groups = affectedBySource source hotNews groups := by
  refine ⟨fun key => ?_, ?_, fun others => affectedBySource_congr⟩
  · simp only [mem_affectedBySource named, ObjectKey.ofMeta?_eq_some_iff, and_assoc]
  · unfold affectedBySource
    dsimp only
    split
    · exact .nil
    · exact ObjectKey.ascends_ascending _

/-- A Source that two HotNews search, one by its short name and one by a feed group. -/
theorem affectedBySource_exact_bbc :
    let source : Source := { metadata := { name := some "bbc", ns := some "news" }
                             spec := { shortName := "bbc" } }
    let search := fun name : String => fun spec : HotNewsSpec =>
      ({ metadata := { name := some name, ns := some "news" }, spec := spec } : HotNews)
    let hotNews := [search "world" { sources := ["bbc"] }, search "sport" { feedGroups := ["uk"] },
      search "local" { feedGroups := ["us"] }, search "world" { sources := ["bbc"] }]
    let groups := some [("uk", " itv , bbc"), ("us", "nyt")]
    source.spec.shortName ≠ "" ∧
      affectedBySource source hotNews groups = [⟨"news", "sport"⟩, ⟨"news", "world"⟩] ∧
      ((∀ key, key ∈ affectedBySource source hotNews groups ↔
        ∃ h ∈ hotNews, h.metadata.ns = some key.ns ∧ h.metadata.name = some key.name ∧
          h.metadata.ns = source.metadata.ns ∧
          source.spec.shortName ∈ FeedGroups.effectiveSources (groups.getD []) h.spec.sources
            h.spec.feedGroups) ∧
      ObjectKey.Ascends (affectedBySource source hotNews groups) ∧
      ∀ others : List HotNews, (∀ h, h ∈ others ↔ h ∈ hotNews) →
        affectedBySource source others groups = affectedBySource source hotNews groups) := by
  intro source search hotNews groups
  have named : source.spec.shortName ≠ "" := by decide
  exact ⟨named, by decide +kernel, affectedBySource_exact source hotNews groups named⟩

end Sources

/-! ## Changes of ConfigMaps -/

/-- A change of a ConfigMap, with the HotNews as they are listed then. -/
structure GroupChange where
  configMap : ConfigMap
  hotNews : List HotNews

namespace GroupChange

/-- Whether the change is one of the ConfigMap with the feed groups. -/
def concerns (target : FeedGroupRef) (c : GroupChange) : Bool :=
  target.isAt c.configMap.metadata.ns c.configMap.metadata.name

/-- The last of some changes that is one of the ConfigMap with the feed groups. -/
def last? (target : FeedGroupRef) (past : List GroupChange) : Option GroupChange :=
  (past.filter (concerns target)).getLast?

end GroupChange

/-- The watch of the ConfigMap with the feed groups: which one it is, and the texts it had at the
change before. -/
structure GroupWatch where
  target : FeedGroupRef
  remembered : Option FeedGroups := none

namespace GroupWatch

/-- The HotNews that a change affects. -/
def answer (w : GroupWatch) (c : GroupChange) : List ObjectKey :=
  affectedByFeedGroups c.configMap w.target c.hotNews w.remembered

/-- The watch after a change. -/
def next (w : GroupWatch) (c : GroupChange) : GroupWatch :=
  { w with remembered := rememberedFeedGroups c.configMap w.target w.remembered }

/-- The watch after some changes in a row. -/
def after (w : GroupWatch) (past : List GroupChange) : GroupWatch :=
  past.foldl next w

/-- **A cluster that is told of a change of a ConfigMap takes one step of the watch**, and makes due
what the watch answers. -/
theorem tellConfigMap_eq (c : Cluster) (cm : ConfigMap) :
    let w : GroupWatch := ⟨c.settings.feedGroup, c.previousGroups⟩
    let change : GroupChange := ⟨cm, c.allHotNews⟩
    c.tellConfigMap cm =
      { c.wakeHotNews (w.answer change) with previousGroups := (w.next change).remembered } := by
  unfold Cluster.tellConfigMap Cluster.wakeHotNews
  dsimp only
  split <;> rfl

variable {w : GroupWatch} {c : GroupChange} {past : List GroupChange} {h : HotNews}
variable {key : ObjectKey} {target : FeedGroupRef}

theorem next_of_other (other : c.concerns w.target = false) : w.next c = w := by
  have hother : w.target.isAt c.configMap.metadata.ns c.configMap.metadata.name = false := other
  simp [next, rememberedFeedGroups, hother]

theorem next_of_concerns (matching : c.concerns w.target = true) :
    w.next c = { w with remembered := some c.configMap.texts } := by
  have hmatching : w.target.isAt c.configMap.metadata.ns c.configMap.metadata.name = true :=
    matching
  simp [next, rememberedFeedGroups, hmatching]

theorem answer_of_other (other : c.concerns w.target = false) : w.answer c = [] := by
  have hother : w.target.isAt c.configMap.metadata.ns c.configMap.metadata.name = false := other
  simp [answer, affectedByFeedGroups, hother]

theorem mem_answer_iff (matching : c.concerns w.target = true) :
    key ∈ w.answer c ↔ ∃ h ∈ c.hotNews, ObjectKey.ofMeta? h.metadata = some key ∧
      (FeedGroups.anyResolves c.configMap.texts h.spec.feedGroups = true ∨
        ∃ old, w.remembered = some old ∧ FeedGroups.anyResolves old h.spec.feedGroups = true) := by
  have hmatching : w.target.isAt c.configMap.metadata.ns c.configMap.metadata.name = true :=
    matching
  simp only [answer, affectedByFeedGroups, hmatching, if_true, ObjectKey.mem_ascending_picked,
    Bool.or_eq_true, Option.any_eq_true]
  exact exists_congr fun h => and_congr_right fun _ => and_comm

theorem ascends_answer (w : GroupWatch) (c : GroupChange) : ObjectKey.Ascends (w.answer c) := by
  unfold answer affectedByFeedGroups
  split
  · exact ObjectKey.ascends_ascending _
  · exact .nil

/-- What is searched differs only if, before or after, some group stands for something. -/
theorem anyResolves_of_effective_ne {old new : FeedGroups} {sources chosen : List String}
    (differs : old.effectiveSources sources chosen ≠ new.effectiveSources sources chosen) :
    FeedGroups.anyResolves new chosen = true ∨ FeedGroups.anyResolves old chosen = true := by
  by_contra none
  obtain ⟨hnew, hold⟩ := not_or.mp none
  rw [Bool.not_eq_true] at hnew hold
  apply differs
  rw [FeedGroups.effectiveSources_of_unresolved hold,
    FeedGroups.effectiveSources_of_unresolved hnew]

/-! ## Changes in a row -/

theorem last?_append_of_concerns (matching : c.concerns target = true) :
    GroupChange.last? target (past ++ [c]) = some c := by
  simp [GroupChange.last?, List.filter_append, matching]

theorem last?_append_of_other (other : c.concerns target = false) :
    GroupChange.last? target (past ++ [c]) = GroupChange.last? target past := by
  simp [GroupChange.last?, List.filter_append, other]

theorem target_after (w : GroupWatch) (past : List GroupChange) :
    (w.after past).target = w.target := by
  induction past generalizing w with
  | nil => rfl
  | cons c more ih => exact ih (w.next c)

/-- **The watch remembers the texts of the last change that concerns it**, whatever else changed
since. -/
theorem remembered_after (target : FeedGroupRef) (past : List GroupChange) :
    ((⟨target, none⟩ : GroupWatch).after past).remembered =
      (GroupChange.last? target past).map (·.configMap.texts) := by
  -- From the end: the last change is remembered if it concerns the watch, and else passed over.
  induction past using List.reverseRec with
  | nil => rfl
  | append_singleton past c ih =>
    have htarget := target_after ⟨target, none⟩ past
    rw [after, List.foldl_append]
    change ((after ⟨target, none⟩ past).next c).remembered = _
    cases hc : c.concerns target with
    | true => rw [next_of_concerns (htarget ▸ hc), last?_append_of_concerns hc]; rfl
    | false => rw [next_of_other (htarget ▸ hc), last?_append_of_other hc, ih]

/-- What a watch has to say of a change, given the changes before it. -/
structure Reports (past : List GroupChange) (c : GroupChange) (w : GroupWatch) : Prop where
  /-- What it remembers are the texts of the last change that concerned it. -/
  remembered : w.remembered = (GroupChange.last? w.target past).map (·.configMap.texts)
  /-- It names each HotNews once, in order. -/
  ascends : ObjectKey.Ascends (w.answer c)
  /-- A change of another ConfigMap affects nothing and is not remembered. -/
  others : c.concerns w.target = false → w.answer c = [] ∧ w.next c = w
  /-- It names HotNews with a group that stands for something, now or in what it remembers. -/
  backed : ∀ key ∈ w.answer c, ∃ h ∈ c.hotNews,
    h.metadata.ns = some key.ns ∧ h.metadata.name = some key.name ∧ ∃ group ∈ h.spec.feedGroups,
      FeedGroups.resolveGroup c.configMap.texts group ≠ [] ∨
        ∃ old, w.remembered = some old ∧ FeedGroups.resolveGroup old group ≠ []
  /-- It names every HotNews that searches something else than at the change before. -/
  complete : c.concerns w.target = true → ∀ before, GroupChange.last? w.target past = some before →
    ∀ h ∈ c.hotNews, ∀ key : ObjectKey,
      h.metadata.ns = some key.ns → h.metadata.name = some key.name →
      FeedGroups.effectiveSources before.configMap.texts h.spec.sources h.spec.feedGroups ≠
        FeedGroups.effectiveSources c.configMap.texts h.spec.sources h.spec.feedGroups →
      key ∈ w.answer c

/-- **No change of what a HotNews searches is missed**, whatever ConfigMaps changed before and in
between, and whatever HotNews there were then. -/
theorem reports_after (target : FeedGroupRef) (past : List GroupChange) (c : GroupChange) :
    Reports past c ((⟨target, none⟩ : GroupWatch).after past) := by
  have hremembered := remembered_after target past
  have htarget := target_after ⟨target, none⟩ past
  generalize (⟨target, none⟩ : GroupWatch).after past = w at hremembered htarget
  obtain rfl : w.target = target := htarget
  refine ⟨hremembered, ascends_answer w c,
    fun other => ⟨answer_of_other other, next_of_other other⟩, fun key hkey => ?_,
    fun matching before hlast h hh key hns hname hne => ?_⟩
  · cases hc : c.concerns w.target with
    | false =>
      rw [answer_of_other hc] at hkey
      cases hkey
    | true =>
      obtain ⟨h, hh, hplace, hresolves⟩ := (mem_answer_iff hc).mp hkey
      obtain ⟨hns, hname⟩ := ObjectKey.ofMeta?_eq_some_iff.mp hplace
      refine ⟨h, hh, hns, hname, ?_⟩
      rcases hresolves with hnew | ⟨old, hold, hresolves⟩
      · obtain ⟨group, hgroup, hsome⟩ := FeedGroups.anyResolves_iff.mp hnew
        exact ⟨group, hgroup, .inl hsome⟩
      · obtain ⟨group, hgroup, hsome⟩ := FeedGroups.anyResolves_iff.mp hresolves
        exact ⟨group, hgroup, .inr ⟨old, hold, hsome⟩⟩
  · have hplace := ObjectKey.ofMeta?_eq_some_iff.mpr ⟨hns, hname⟩
    rw [hlast, Option.map_some] at hremembered
    refine (mem_answer_iff matching).mpr ⟨h, hh, hplace, ?_⟩
    exact (anyResolves_of_effective_ne hne).imp_right fun hold => ⟨_, hremembered, hold⟩

/-- A group is removed, and another ConfigMap changes in between. -/
theorem removed_group_reported :
    let change := fun name : String => fun data : FeedGroups =>
      ({ configMap := { metadata := { name := some name, ns := some "default" }, data := some data }
         hotNews := [{ metadata := { name := some "sport", ns := some "news" }
                       spec := { feedGroups := ["uk"] } }] } : GroupChange)
    let past := [change "feed-group-source" [("uk", "itv")], change "other" [("uk", "bbc")]]
    let c := change "feed-group-source" []
    let w := (⟨{}, none⟩ : GroupWatch).after past
    c.concerns w.target = true ∧
      (∃ before, GroupChange.last? w.target past = some before ∧
        before.configMap.texts = [("uk", "itv")]) ∧
      w.answer c = [⟨"news", "sport"⟩] ∧ Reports past c w := by
  intro change past c w
  exact ⟨by decide +kernel, ⟨_, rfl, rfl⟩, by decide +kernel, reports_after {} past c⟩

end GroupWatch

end FeedOperator
