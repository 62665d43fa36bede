import FeedOperator.Proofs.Admission.Verdict
import FeedOperator.Proofs.Reconcile.Joining
import FeedOperator.Proofs.Visit

/-!
# What is admitted is what can be linked

Admission looks up the short names of a HotNews and those of each of its feed groups one by one. A
pass joins them first, each once, and then looks for a Source with each of them. Both come to the
same.

* `Store.Offers`: a name of a Source that a short name stands for.
* `HotNews.Admits`: what a check of HotNews says of a store.

Results:
* `covered_iff_of_some`, `covered_iff_of_none`: what admission looks up is what a pass looks for.
* `linkSources_finds`: linking finds one Source for each short name that is known.
* `admits_create_update`: a HotNews is admitted iff linking finds all of its Sources.
-/

namespace FeedOperator

/-! ## Short names -/

namespace FeedGroups

variable {groups : FeedGroups} {group : String}

/-- A group that is not defined stands for nothing. -/
theorem resolveGroup_eq_nil (h : groups.defines group = false) :
    groups.resolveGroup group = [] := by
  have hnone : groups.lookup group = none := by simpa [defines] using h
  simp [resolveGroup, hnone]

end FeedGroups

/-! ## Linking -/

namespace Store

/-- A name of a Source that a short name stands for. -/
def Offers (s : Store) (ns shortName name : String) : Prop :=
  ∃ a, s.sources.get? ⟨ns, name⟩ = some a ∧ a.metadata.name = some name ∧
    a.spec.shortName = shortName

theorem Offers.knows {s : Store} (hs : s.Sound) {ns shortName name : String}
    (h : s.Offers ns shortName name) : s.Knows ns shortName := by
  obtain ⟨a, ha, -, hshort⟩ := h
  exact ⟨a, (Catalog.mem_inNamespace_iff hs.sources.ordered).mpr ⟨_, ha, rfl⟩, hshort⟩

end Store

section Runs

variable {ns name : String} {edit : SourceEdit} {uid : String} {owners : List OwnerReference}
variable {owner : OwnerReference} {s t u : Store} {es : List Event}

/-- Where no conflict is due an edit goes through, also one of a Source that is to go. -/
theorem editSource_goesThrough (relinks : edit.Relinks uid owners) (sound : s.Sound)
    (calm : s.sourceConflicts = 0) {r : Except StoreError Bool}
    (h : (editSource ns name edit).run.Leads s es r u) : ∃ written, r = .ok written := by
  have round : (editSourceWithin ns name edit (4 + 1)).run.Leads s es r u := h
  cases editRound_leads round with
  | missing | idle | written => exact ⟨_, rfl⟩
  | @refused _ a _ _ _ meets stored _ writes refused
  | @again _ a _ _ _ _ _ _ meets stored _ writes refused =>
    obtain rfl := Climate.settled_eq meets
    obtain rfl := Climate.settled_eq writes
    have hkey : (edit a).1.key = ⟨ns, name⟩ :=
      (relinks.relinked a).key_eq.trans (sound.source_key stored)
    obtain ⟨written, hw, -⟩ := Store.replaceSource_of_current calm (hkey.symm ▸ stored)
      (relinks.version_eq a).symm
    cases hw.symm.trans refused

/-- The Sources are looked for in what was listed at first, whatever the edits make of it. -/
theorem linkListed_finds {names : List String} {r : Except StoreError (List String)}
    (start : s.Sound) (named : ∀ k a, s.sources.get? k = some a → a.metadata.name ≠ none)
    (known : ∀ n ∈ names, s.Knows ns n) (sound : t.Sound) (calm : t.sourceConflicts = 0)
    (h : (linkListed ns owner (s.sources.inNamespace ns) names).run.Leads t es r u) :
    ∃ linked, r = .ok linked ∧ List.Forall₂ (s.Offers ns) names linked := by
  induction names generalizing t es r with
  | nil =>
    obtain ⟨-, rfl, -⟩ := Attempt.leads_pure_iff.mp h
    exact ⟨[], rfl, .nil⟩
  | cons n more ih =>
    have hmore := fun m hm => known m (List.mem_cons_of_mem n hm)
    obtain ⟨b, hb, hshort⟩ := known n List.mem_cons_self
    have offers : ∀ {source name}, findByShortName (s.sources.inNamespace ns) n = some source →
        source.metadata.name = some name → s.Offers ns n name := by
      intro source name hfound hname
      refine ⟨source, start.get?_of_listed (List.mem_of_find?_eq_some hfound) hname, hname, ?_⟩
      simpa using List.find?_some hfound
    cases linkRound_of_leads h with
    | passed missing rest =>
      cases hfound : findByShortName (s.sources.inNamespace ns) n with
      | none =>
        have := List.find?_eq_none.mp hfound b hb
        simp [hshort] at this
      | some source =>
        obtain ⟨k, hk, -⟩ := (Catalog.mem_inNamespace_iff start.sources.ordered).mp
          (List.mem_of_find?_eq_some hfound)
        rw [hfound] at missing
        exact absurd missing (named k source hk)
    | stopped _ _ _ edit =>
      obtain ⟨_, hok⟩ := editSource_goesThrough (addOwner_relinks owner) sound calm edit
      cases hok
    | edited hfound hname _ edit rest =>
      obtain ⟨_, rfl, hall⟩ := ih hmore (edit.sound sound) (edit.sourceConflicts_eq_zero calm) rest
      exact ⟨_, rfl, .cons (offers hfound hname) hall⟩
    | owned hfound hname _ rest =>
      obtain ⟨_, rfl, hall⟩ := ih hmore sound calm rest
      exact ⟨_, rfl, .cons (offers hfound hname) hall⟩

/-- **Linking finds one Source for each short name that is known.** -/
theorem linkSources_finds {hotNews : HotNews} {names : List String}
    {r : Except StoreError (List String)} (sound : s.Sound)
    (named : ∀ k a, s.sources.get? k = some a → a.metadata.name ≠ none)
    (lists : s.failLists = false) (calm : s.sourceConflicts = 0)
    (howner : hotNews.ownerReference? ≠ none) (known : ∀ n ∈ names, s.Knows ns n)
    (h : (linkSources ns hotNews names).run.Leads s es r u) :
    ∃ linked, r = .ok linked ∧ List.Forall₂ (s.Offers ns) names linked := by
  rcases linkSources_cases lists h with ⟨hnone, -⟩ | ⟨owner, rest, -, -, hlink⟩
  · exact absurd hnone howner
  · exact linkListed_finds sound named known sound calm hlink

end Runs

/-! ## Admission -/

namespace HotNews

variable {target : FeedGroupRef} {ns : String} {spec : HotNewsSpec} {s : Store} {cm : ConfigMap}

/-- **What admission looks up is what a pass looks for.** -/
theorem covered_iff_of_some (hcm : s.configMaps.get? ⟨target.ns, target.name⟩ = some cm) :
    Covered target s ns spec ↔
      ∀ n ∈ FeedGroups.effectiveSources cm.texts spec.sources spec.feedGroups, s.Knows ns n := by
  constructor
  · rintro ⟨named, grouped⟩ n hn
    rcases FeedGroups.mem_effectiveSources.mp hn with hn | ⟨group, hgroup, hn⟩
    · exact named n hn
    · exact grouped cm hcm group hgroup n hn
  · intro h
    refine ⟨fun n hn => h n (FeedGroups.mem_effectiveSources.mpr (.inl hn)), ?_⟩
    intro cm' hcm' group hgroup n hn
    obtain rfl := Option.some.inj (hcm.symm.trans hcm')
    exact h n (FeedGroups.mem_effectiveSources.mpr (.inr ⟨group, hgroup, hn⟩))

/-- Without the ConfigMap only the short names that a HotNews has itself are looked up. -/
theorem covered_iff_of_none (hcm : s.configMaps.get? ⟨target.ns, target.name⟩ = none) :
    Covered target s ns spec ↔ ∀ n ∈ spec.sources, s.Knows ns n := by
  refine ⟨fun h => h.named, fun h => ⟨h, fun cm hsome => ?_⟩⟩
  rw [hcm] at hsome
  cases hsome

/-- Feed groups that are not defined need no Sources. -/
theorem Covered.of_undefined (h : Covered target s ns spec) {groups : List String}
    (hgroups : ∀ group ∈ groups, group ∈ spec.feedGroups ∨
      ∀ cm, s.configMaps.get? ⟨target.ns, target.name⟩ = some cm →
        FeedGroups.defines cm.texts group = false) :
    Covered target s ns { spec with feedGroups := groups } := by
  refine ⟨h.named, fun cm hcm group hgroup n hn => ?_⟩
  rcases hgroups group hgroup with hold | hundefined
  · exact h.grouped cm hcm group hold n hn
  · rw [FeedGroups.resolveGroup_eq_nil (hundefined cm hcm)] at hn
    cases hn

/-- What a check says of a HotNews in a namespace, and what linking it would do. -/
structure Admits (target : FeedGroupRef) (s : Store) (ns : String) (check : HotNews → Pass Verdict)
    (h : HotNews) : Prop where
  /-- With the ConfigMap, it passes iff each short name that a pass looks for is known. -/
  grouped : s.failLists = false → ∀ cm, s.configMaps.get? ⟨target.ns, target.name⟩ = some cm →
    (((check h).outcome s).isOk = true ↔ specErrors h.spec = [] ∧
      ∀ n ∈ FeedGroups.effectiveSources cm.texts h.spec.sources h.spec.feedGroups, s.Knows ns n)
  /-- Where no conflict is due, it passes iff linking finds one Source for each of them, in
  order. -/
  linked : s.failLists = false → ∀ cm, s.configMaps.get? ⟨target.ns, target.name⟩ = some cm →
    s.sourceConflicts = 0 → h.metadata.name ≠ none → h.metadata.uid ≠ none →
    (((check h).outcome s).isOk = true ↔ specErrors h.spec = [] ∧ ∃ names,
      (linkSources ns h (FeedGroups.effectiveSources cm.texts h.spec.sources
        h.spec.feedGroups)).run.outcome s = .ok names ∧
      List.Forall₂ (s.Offers ns)
        (FeedGroups.effectiveSources cm.texts h.spec.sources h.spec.feedGroups) names)
  /-- Without the ConfigMap, it passes iff each short name that it has itself is known. -/
  ungrouped : s.failLists = false → s.configMaps.get? ⟨target.ns, target.name⟩ = none →
    (((check h).outcome s).isOk = true ↔
      specErrors h.spec = [] ∧ ∀ n ∈ h.spec.sources, s.Knows ns n)
  /-- It does not pass if the Sources cannot be listed. -/
  unlisted : s.failLists = true → ((check h).outcome s).isOk = false
  /-- What passes also passes with feed groups that are not defined. -/
  undefined : ((check h).outcome s).isOk = true → ∀ groups : List String,
    (∀ group ∈ groups, group ∈ h.spec.feedGroups ∨
      ∀ cm, s.configMaps.get? ⟨target.ns, target.name⟩ = some cm →
        FeedGroups.defines cm.texts group = false) →
    ((check { h with spec := { h.spec with feedGroups := groups } }).outcome s).isOk = true

theorem ownerReference?_ne_none {h : HotNews} (name : h.metadata.name ≠ none)
    (uid : h.metadata.uid ≠ none) : h.ownerReference? ≠ none := by
  obtain ⟨name, hname⟩ := Option.ne_none_iff_exists'.mp name
  obtain ⟨uid, huid⟩ := Option.ne_none_iff_exists'.mp uid
  simp [ownerReference?, hname, huid]

theorem admits_validate {h : HotNews} (sound : s.Sound)
    (named : ∀ k a, s.sources.get? k = some a → a.metadata.name ≠ none)
    (placed : h.metadata.ns = some ns) : Admits target s ns (validate target) h := by
  have accepts : ∀ spec, ((validate target { h with spec := spec }).outcome s).isOk = true ↔
      s.failLists = false ∧ specErrors spec = [] ∧ Covered target s ns spec := by
    intro spec
    rw [accepts_iff, placed, Option.getD_some]
  have grouped : s.failLists = false → ∀ cm,
      s.configMaps.get? ⟨target.ns, target.name⟩ = some cm →
      (((validate target h).outcome s).isOk = true ↔ specErrors h.spec = [] ∧
        ∀ n ∈ FeedGroups.effectiveSources cm.texts h.spec.sources h.spec.feedGroups,
          s.Knows ns n) := by
    intro lists cm hcm
    rw [accepts h.spec, covered_iff_of_some hcm]
    exact and_iff_right lists
  refine ⟨grouped, fun lists cm hcm calm name uid => ?_, fun lists hcm => ?_, fun fails => ?_, ?_⟩
  · have run := Pass.leads_journal (fun _ t => (.error (.transport ""), t))
      (linkSources ns h (FeedGroups.effectiveSources cm.texts h.spec.sources
        h.spec.feedGroups)).run (s, ())
    rw [grouped lists cm hcm]
    refine and_congr_right fun _ => ⟨fun known => ?_, fun ⟨names, _, finds⟩ n hn => ?_⟩
    · exact linkSources_finds sound named lists calm (ownerReference?_ne_none name uid) known run
    · have both := finds.imp fun _ _ offers => And.intro (offers.knows sound) offers
      exact ((List.forall₂_and_left _ _).mp both).1 n hn
  · rw [accepts h.spec, covered_iff_of_none hcm]
    exact and_iff_right lists
  · rw [Bool.eq_false_iff]
    intro hok
    have lists := ((accepts h.spec).mp hok).1
    rw [fails] at lists
    cases lists
  · intro hok groups hgroups
    obtain ⟨lists, stated, covered⟩ := (accepts h.spec).mp hok
    exact (accepts _).mpr ⟨lists, stated, covered.of_undefined hgroups⟩

/-- **A HotNews is admitted iff linking finds all of its Sources.** -/
theorem admits_create_update (target : FeedGroupRef) {ns : String} {s : Store} {h : HotNews}
    (built : s.Built) (named : ∀ k a, s.sources.get? k = some a → a.metadata.name ≠ none)
    (placed : h.metadata.ns = some ns) :
    Admits target s ns (rules target).create h ∧
      ∀ old, Admits target s ns ((rules target).update old) h :=
  ⟨admits_validate built.sound named placed, fun _ => admits_validate built.sound named placed⟩

/-- A HotNews for the newsroom, with a feed group that is not defined. -/
def pressing : HotNews :=
  { metadata := { name := some "press", ns := some "news", uid := some "uid-press" }
    spec := { keywords := ["budget"], sources := ["bbc"], feedGroups := ["wire"] } }

theorem pressing_admits : newsroom.Built ∧
    (∀ k a, newsroom.sources.get? k = some a → a.metadata.name ≠ none) ∧
    pressing.metadata.ns = some "news" ∧
    (Admits {} newsroom "news" (rules {}).create pressing ∧
      ∀ old, Admits {} newsroom "news" ((rules {}).update old) pressing) ∧
    (((rules {}).create pressing).outcome newsroom).isOk = true := by
  have named : ∀ k a, newsroom.sources.get? k = some a → a.metadata.name ≠ none := by
    have entries : ∀ e ∈ newsroom.sources.entries, e.2.metadata.name ≠ none := by decide +kernel
    exact fun k a ha => entries (k, a) (Catalog.mem_of_lookup ha)
  exact ⟨built_newsroom, named, rfl, admits_create_update {} built_newsroom named rfl,
    by decide +kernel⟩

end HotNews

end FeedOperator
