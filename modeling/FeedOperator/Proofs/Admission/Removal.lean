import FeedOperator.Admission.FeedGroup
import FeedOperator.Proofs.Admission.Verdict
import FeedOperator.Proofs.Mirroring

/-!
# What the deletion of the feed groups does to HotNews

The ConfigMap with the feed groups can be deleted while no HotNews names a feed group. Then nobody
minds what it says; but a pass over a live HotNews looks it up all the same, and fails if it is not
there.

* `Store.Ungrouped`: no stored HotNews names a feed group.
* `HotNews.SameSummary`: a HotNews with the same wishes and the same summary.

Results:
* `ConfigMap.deletable_iff`: when the verdict on the deletion is good.
* `HotNews.reconcile_mirrors`: a pass over a HotNews without feed groups goes the same, whatever the
  ConfigMap says.
* `HotNews.Course.unconfigured`: all that a pass does without the ConfigMap.
* `Visit.unused_groups_matter_not`: so what a good verdict promises.
-/

namespace FeedOperator

/-- No stored HotNews names a feed group. -/
def Store.Ungrouped (s : Store) : Prop :=
  ∀ k a, s.hotNews.get? k = some a → a.spec.feedGroups = []

theorem ConfigMap.useErrors_eq_nil_iff {all : List HotNews} :
    useErrors all = [] ↔ ∀ a ∈ all, a.spec.feedGroups = [] := by
  unfold useErrors
  cases hfind : all.find? fun h => !h.spec.feedGroups.isEmpty with
  | none =>
    refine iff_of_true rfl fun a ha => ?_
    have hunused := List.find?_eq_none.mp hfind a ha
    simpa using hunused
  | some a =>
    refine iff_of_false (fun h => by cases h) fun hall => ?_
    have hused := List.find?_some hfind
    rw [hall a (List.mem_of_find?_eq_some hfind)] at hused
    cases hused

/-- **When the feed groups can be deleted.** The list of HotNews can be read, and none of them names
a feed group. -/
theorem ConfigMap.deletable_iff {s : Store} {target : FeedGroupRef} {cm : ConfigMap}
    (hs : s.Sound) (htarget : cm.isTarget target = true) :
    ((cm.validateDelete target).outcome s).isOk = true ↔ s.failLists = false ∧ s.Ungrouped := by
  have hungrouped : useErrors s.hotNews.toList = [] ↔ s.Ungrouped := by
    rw [useErrors_eq_nil_iff]
    constructor
    · intro h k a ha
      exact h a (List.mem_map.mpr ⟨(k, a), hs.hotNews.ordered.mem_iff.mpr ha, rfl⟩)
    · intro h a ha
      obtain ⟨e, he, rfl⟩ := List.mem_map.mp ha
      exact h e.1 e.2 (hs.hotNews.ordered.mem_iff.mp he)
  unfold validateDelete
  rw [if_neg (by simp [htarget]), Pass.outcome_read_bind rfl]
  cases hl : s.failLists with
  | true =>
    simp only [Store.answer, hl, if_true, Pass.outcome_pure]
    rw [Verdict.isOk_of_iff]
    exact iff_of_false (List.cons_ne_nil _ _) fun h => Bool.noConfusion h.1
  | false =>
    simp only [Store.answer, hl, Bool.false_eq_true, if_false, Pass.outcome_pure]
    rw [Verdict.isOk_of_iff, hungrouped]
    exact (and_iff_right trivial).symm

namespace HotNews

variable {f : Service} {m : Catalog ConfigMap} {s : Store} {settings : Settings} {now : String}
variable {mine : HotNews}

/-- Without feed groups a HotNews searches the same, whatever the ConfigMap says. -/
theorem effective_of_ungrouped (h : mine.spec.feedGroups = []) (cm cm' : ConfigMap) :
    mine.effective cm' = mine.effective cm := by
  unfold effective FeedGroups.effectiveSources FeedGroups.resolveGroups
  rw [h]
  rfl

theorem plain_of_editsSources {c : Call} (h : c.EditsSources) : c.IsPlain := by
  unfold Call.EditsSources at h
  split at h
  · exact trivial
  · exact trivial
  · exact trivial
  · exact h.elim

theorem plain_linkSources (ns : String) (names : List String) :
    (linkSources ns mine names).run.Within Call.IsPlain :=
  (within_linkSources ns mine names).mono fun _ => plain_of_editsSources

theorem plain_fail {α : Type} {kind : Condition.Kind} {reason : Condition.Reason}
    {error : HotNewsError} :
    (fail now mine kind reason error : Attempt HotNewsError α).run.Within Call.IsPlain :=
  Attempt.within_bind (Attempt.within_store trivial) fun _ => trivial

theorem plain_ensureFinalizer : (ensureFinalizer mine).run.Within Call.IsPlain := by
  unfold ensureFinalizer
  split
  · exact Attempt.within_store trivial
  · exact trivial

/-- What refreshing does with the short names that it is to search. -/
def proceed (now ns : String) (hotNews : HotNews) (names : List String) :
    Attempt HotNewsError Unit := do
  let conditions := hotNews.statusOrEmpty.conditions
  let kind := Condition.Kind.next conditions
  match ← Attempt.ofPass (linkSources ns hotNews names).run with
  | .error e => fail now hotNews kind .ownerReferenceFailed (.ownerReference e)
  | .ok _ =>
    let query : ArticleQuery := {
      keywords := hotNews.spec.keywords
      dateStart := hotNews.spec.dateStart
      dateEnd := hotNews.spec.dateEnd
      sources := names }
    match ← Attempt.ofPass (Pass.service (.fetch query)) with
    | .error e => fail now hotNews kind .fetchArticlesFailed (.fetchArticles e)
    | .ok found =>
      let updated := { hotNews with status := some (summarized now hotNews.spec conditions found) }
      match ← Attempt.ofPass (Pass.store (.replaceHotNewsStatus updated)) with
      | .error e => fail now updated kind .updateStatusFailed (.updateStatus e)
      | .ok _ => return ()

theorem plain_proceed (ns : String) (names : List String) :
    (proceed now ns mine names).run.Within Call.IsPlain := by
  refine Attempt.within_bind (Attempt.within_ofPass (plain_linkSources ns names)) fun linked => ?_
  cases linked with
  | error e => exact plain_fail
  | ok =>
    refine Attempt.within_bind (Attempt.within_ofPass (Pass.within_service trivial)) fun found => ?_
    cases found with
    | error e => exact plain_fail
    | ok found =>
      refine Attempt.within_bind (Attempt.within_ofPass (Pass.within_store trivial)) fun write => ?_
      cases write with
      | error e => exact plain_fail
      | ok => exact trivial

/-- Refreshing is mirrored if there is a ConfigMap on both sides. -/
theorem refresh_mirrors (ungrouped : mine.spec.feedGroups = []) {cm cm' : ConfigMap}
    (config : s.configMaps.get? ⟨settings.feedGroup.ns, settings.feedGroup.name⟩ = some cm)
    (config' : m.get? ⟨settings.feedGroup.ns, settings.feedGroup.name⟩ = some cm') :
    Pass.Mirrors f m s (refresh settings now mine).run (refresh settings now mine).run := by
  unfold refresh
  cases mine.metadata.ns with
  | none => exact Pass.mirrors_done _
  | some ns =>
    refine Pass.mirrors_lookup ?_
    rw [config, config']
    change Pass.Mirrors f m s (proceed now ns mine (mine.effective cm)).run
      (proceed now ns mine (mine.effective cm')).run
    rw [effective_of_ungrouped ungrouped cm cm']
    exact Pass.mirrors_of_within (plain_proceed ns _)

/-- **A pass over a live HotNews without feed groups is mirrored** if there is a ConfigMap on both
sides, whatever it says. -/
theorem reconcile_mirrors {key : ObjectKey} {given a : HotNews} (hs : s.Sound)
    (hns : given.metadata.ns = some key.ns) (hname : given.metadata.name = some key.name)
    (stored : s.hotNews.get? key = some a) (live : a.metadata.isDeleted = false)
    (ungrouped : a.spec.feedGroups = []) {cm cm' : ConfigMap}
    (config : s.configMaps.get? ⟨settings.feedGroup.ns, settings.feedGroup.name⟩ = some cm)
    (config' : m.get? ⟨settings.feedGroup.ns, settings.feedGroup.name⟩ = some cm') :
    Pass.Mirrors f m s (reconcile settings now given).pass
      (reconcile settings now given).pass := by
  unfold reconcile
  rw [hns, hname]
  dsimp only
  rw [Tracking.pass_bind]
  refine Attempt.mirrors_bind (Pass.mirrors_of_within (Attempt.within_store trivial))
    fun found t es hread => ?_
  obtain ⟨_, meets, -, hfound, rfl⟩ := Attempt.leads_store_iff.mp hread
  obtain rfl := Climate.settled_eq meets
  obtain rfl : found = s.hotNews.get? key := Except.ok.inj hfound
  rw [stored]
  dsimp only
  rw [if_neg (by simp [live]), ExceptT.run_mk, Tracking.pass_bind]
  refine Attempt.mirrors_bind (Pass.mirrors_of_within plain_ensureFinalizer)
    fun mine t es hhold => ?_
  have held := ensureFinalizer_leads hhold
  have hspec : mine.spec = a.spec :=
    (held.holding ((hs.hotNews_key stored).symm ▸ stored) live).refinalized.kept.spec_eq
  have hconfig : t.configMaps = s.configMaps := hhold.configMaps_eq
  rw [ExceptT.run_mk, Tracking.pass_bind]
  refine Attempt.mirrors_bind (refresh_mirrors (hspec ▸ ungrouped) (hconfig ▸ config) config')
    fun _ _ _ _ => Pass.mirrors_done _

/-! ## A pass without the ConfigMap -/

/-- The same wishes and the same summary. -/
structure SameSummary (a b : HotNews) : Prop where
  spec_eq : b.spec = a.spec
  articlesCount_eq : b.statusOrEmpty.articlesCount = a.statusOrEmpty.articlesCount
  newsLink_eq : b.statusOrEmpty.newsLink = a.statusOrEmpty.newsLink
  articlesTitles_eq : b.statusOrEmpty.articlesTitles = a.statusOrEmpty.articlesTitles

section Unconfigured

variable {u : Store} {es : List Event} {a : HotNews} {ns name : String}

/-- A HotNews that is refreshed says where it is, and its status can be written. -/
theorem Refreshed.placed (h : Refreshed .settled settings now s mine es (.ok ()) u) :
    mine.metadata.ns ≠ none ∧ s.failStatusWrites = false ∧
      ∃ cm, s.configMaps.get? ⟨settings.feedGroup.ns, settings.feedGroup.name⟩ = some cm := by
  generalize hr : (Except.ok () : Except HotNewsError Unit) = r at h
  cases h with
  | unplaced => cases hr
  | unconfigured _ _ _ fails | unlinked _ _ _ _ fails | unfetched _ _ _ _ fails
  | unwritten _ _ _ _ _ _ fails => cases fails with
    | reported => cases hr
  | @summarized _ cm _ _ _ t _ found written placed meets config linking writes write =>
    obtain rfl := Climate.settled_eq meets
    obtain rfl := Climate.settled_eq writes
    refine ⟨by rw [placed]; exact Option.some_ne_none _, ?_, cm, config⟩
    rw [← linking.failStatusWrites_eq]
    unfold Store.replaceHotNewsStatus at write
    split at write
    · cases write
    · next h => exact Bool.eq_false_iff.mpr h

/-- Nothing keeps the finalizer from being added to a stored HotNews. -/
theorem Held.isOk {r : Except HotNewsError HotNews} (h : Held .settled s a es r u)
    (stored : s.hotNews.get? a.key = some a) : ∃ mine, r = .ok mine := by
  cases h with
  | already => exact ⟨a, rfl⟩
  | written meets =>
    obtain rfl := Climate.settled_eq meets
    have hkey : a.held.key = a.key := (a.refinalized_heldBy finalizer).kept.key_eq
    have hversion : a.metadata.resourceVersion = a.held.metadata.resourceVersion := by
      unfold held Object.heldBy Meta.addFinalizer
      split <;> rfl
    obtain ⟨written, hok, -⟩ := Store.replaceHotNews_of_current (hkey.symm ▸ stored) hversion
    rw [hok]
    exact ⟨written, rfl⟩

/-- A failure that is written to the status of a stored HotNews keeps the summary. -/
theorem Failed.sameSummary {kind : Condition.Kind} {reason : Condition.Reason}
    {error : HotNewsError} {r : Except HotNewsError Unit}
    (h : Failed .settled now s mine kind reason error es r u)
    (stored : s.hotNews.get? mine.key = some mine) (calm : s.failStatusWrites = false) :
    r = .error error ∧ u.sources = s.sources ∧
      ∃ b, u.hotNews.get? mine.key = some b ∧ mine.SameSummary b := by
  obtain ⟨hr, version, hu⟩ := h.written stored calm
  exact ⟨hr, h.restated.rest.sources, _, hu, rfl, rfl, rfl, rfl⟩

theorem SameSummary.of_refinalized (h : a.Refinalized mine) : a.SameSummary mine := by
  obtain ⟨finalizers, version, rfl⟩ := h
  exact ⟨rfl, rfl, rfl, rfl⟩

theorem SameSummary.trans {b c : HotNews} (hab : a.SameSummary b) (hbc : b.SameSummary c) :
    a.SameSummary c :=
  ⟨hbc.spec_eq.trans hab.spec_eq, hbc.articlesCount_eq.trans hab.articlesCount_eq,
    hbc.newsLink_eq.trans hab.newsLink_eq, hbc.articlesTitles_eq.trans hab.articlesTitles_eq⟩

/-- A pass over a live HotNews that goes well has found the ConfigMap. -/
theorem Course.configured {action : Action} (hs : s.Sound)
    (h : Course .settled settings now ns name s es (.ok action) u)
    (stored : s.hotNews.get? ⟨ns, name⟩ = some a) (live : a.metadata.isDeleted = false) :
    a.metadata.ns ≠ none ∧ s.failStatusWrites = false ∧
      ∃ cm, s.configMaps.get? ⟨settings.feedGroup.ns, settings.feedGroup.name⟩ = some cm := by
  generalize hr : (Except.ok action : Except HotNewsError Action) = r at h
  cases h with
  | absent _ gone => cases stored.symm.trans gone
  | finalized _ stored' deleted =>
    cases stored.symm.trans stored'
    cases live.symm.trans deleted
  | unheld => cases hr
  | @refreshed _ mine _ _ _ _ r _ meets stored' _ held goes =>
    obtain rfl := Climate.settled_eq meets
    cases stored.symm.trans stored'
    have holding := held.holding ((hs.hotNews_key stored).symm ▸ stored) live
    cases r with
    | error e => cases hr
    | ok =>
      obtain ⟨placed, calm, cm, config⟩ := goes.placed
      rw [holding.refinalized.kept.ns_eq] at placed
      rw [held.failStatusWrites_eq] at calm
      rw [holding.rest.configMaps] at config
      exact ⟨placed, calm, cm, config⟩

/-- **Without the ConfigMap a pass over a live HotNews fails** before it links or searches anything,
and writes of that beside the summary. -/
theorem Course.unconfigured {r : Except HotNewsError Action} (hkey : a.key = ⟨ns, name⟩)
    (h : Course .settled settings now ns name s es r u)
    (stored : s.hotNews.get? ⟨ns, name⟩ = some a)
    (live : a.metadata.isDeleted = false) (placed : a.metadata.ns ≠ none)
    (calm : s.failStatusWrites = false)
    (missing : s.configMaps.get? ⟨settings.feedGroup.ns, settings.feedGroup.name⟩ = none) :
    r = .error (.configMapNotFound settings.feedGroup) ∧
      (∀ c answer, .ofService c answer ∉ es) ∧ u.sources = s.sources ∧
        ∃ b, u.hotNews.get? ⟨ns, name⟩ = some b ∧ a.SameSummary b := by
  cases h with
  | absent _ gone => cases stored.symm.trans gone
  | finalized _ stored' deleted =>
    cases stored.symm.trans stored'
    cases live.symm.trans deleted
  | unheld meets stored' _ holds =>
    obtain rfl := Climate.settled_eq meets
    cases stored.symm.trans stored'
    obtain ⟨_, hr⟩ := holds.isOk (hkey ▸ stored)
    cases hr
  | @refreshed _ mine holds rest _ t r u meets stored' _ held goes =>
    obtain rfl := Climate.settled_eq meets
    cases stored.symm.trans stored'
    have holding := held.holding (hkey ▸ stored) live
    have hmine : mine.key = ⟨ns, name⟩ := holding.key_eq.trans hkey
    have calm' : t.failStatusWrites = false := held.failStatusWrites_eq.trans calm
    have missing' : t.configMaps.get? ⟨settings.feedGroup.ns, settings.feedGroup.name⟩ = none := by
      rw [holding.rest.configMaps]
      exact missing
    cases goes with
    | unplaced h => exact absurd (holding.refinalized.kept.ns_eq.symm.trans h) placed
    | unlinked _ _ config | unfetched _ _ config | unwritten _ _ config
    | summarized _ _ config =>
      cases missing'.symm.trans config
    | unconfigured _ meets _ fails =>
      obtain rfl := Climate.settled_eq meets
      have quiet := fails.withoutRequests
      obtain ⟨rfl, hsources, b, hb, hsame⟩ := fails.sameSummary holding.stands calm'
      refine ⟨rfl, fun c answer hmem => ?_, hsources.trans held.sources_eq, b, hmine ▸ hb,
        (SameSummary.of_refinalized holding.refinalized).trans hsame⟩
      rcases List.mem_cons.mp hmem with hread | hmem
      · cases hread
      · rcases List.mem_append.mp hmem with hhold | hmem
        · exact held.withoutRequests c answer hhold
        · rcases List.mem_cons.mp hmem with hlookup | hmem
          · cases hlookup
          · exact quiet c answer hmem

end Unconfigured

end HotNews

/-! ## Admission and passes -/

namespace Visit

variable {s : Store} {settings : Settings} {cm : ConfigMap} {visit : Visit} {key : ObjectKey}
variable {f : Service} {now : String} {action : Action}

/-- The course of a visit to a HotNews. -/
theorem hotNewsCourse (about : visit.subject? = some (.hotNews settings key)) (f : Service)
    (now : String) (s : Store) : ∃ r, (visit.run f now s).1 = r.mapError .hotNews ∧
      HotNews.Course .settled settings now key.ns key.name s (visit.journal f now s) r
        (visit.run f now s).2 := by
  have hcourse := course_of_leads about (visit.leads_run f now s)
  generalize (visit.run f now s).1 = r, (visit.run f now s).2 = u at hcourse ⊢
  cases hcourse with
  | hotNews h => exact ⟨_, rfl, h⟩

/-- A visit to a live HotNews without feed groups is mirrored if there is a ConfigMap on both
sides. -/
theorem mirrored (hs : s.Sound) (about : visit.subject? = some (.hotNews settings key))
    (live : Subject.IsLive s (.hotNews settings key)) (ungrouped : s.Ungrouped) {cm cm' : ConfigMap}
    (config : s.configMaps.get? ⟨settings.feedGroup.ns, settings.feedGroup.name⟩ = some cm)
    {m : Catalog ConfigMap}
    (config' : m.get? ⟨settings.feedGroup.ns, settings.feedGroup.name⟩ = some cm') :
    Pass.Mirrors f m s (visit.pass now) (visit.pass now) := by
  obtain ⟨a, stored, live⟩ := live
  cases visit with
  | source given =>
    obtain ⟨_, _, heq⟩ := Option.map_eq_some_iff.mp about
    cases heq
  | hotNews settings' given =>
    obtain ⟨_, hkey, heq⟩ := Option.map_eq_some_iff.mp about
    cases heq
    obtain ⟨hns, hname⟩ := ObjectKey.ofMeta?_eq_some_iff.mp hkey
    exact Pass.mirrors_map _ (HotNews.reconcile_mirrors hs hns hname stored live
      (ungrouped _ _ stored) config config')

/-- **What the verdict on the deletion of the feed groups promises.** If it is good, no HotNews
names a feed group, and a pass over a live HotNews that goes well with the ConfigMap goes as well
whatever the ConfigMap says instead, with the same calls, the same result and the same objects.
Without any ConfigMap it fails because of that, links and searches nothing, and leaves the
summary. -/
theorem unused_groups_matter_not (built : s.Built)
    (target : cm.isTarget settings.feedGroup = true)
    (admitted : ((cm.validateDelete settings.feedGroup).outcome s).isOk = true)
    (about : visit.subject? = some (.hotNews settings key))
    (live : Subject.IsLive s (.hotNews settings key))
    (well : (visit.run f now s).1 = .ok action) :
    s.Ungrouped ∧
      (∀ m cm', m.get? ⟨settings.feedGroup.ns, settings.feedGroup.name⟩ = some cm' →
        visit.run f now (s.withConfigMaps m) =
            (.ok action, (visit.run f now s).2.withConfigMaps m) ∧
          (visit.journal f now (s.withConfigMaps m)).map Event.call =
            (visit.journal f now s).map Event.call) ∧
      ∀ m, m.get? ⟨settings.feedGroup.ns, settings.feedGroup.name⟩ = none →
        let done := visit.run f now (s.withConfigMaps m)
        done.1 = .error (.hotNews (.configMapNotFound settings.feedGroup)) ∧
          (∀ c answer, .ofService c answer ∉ visit.journal f now (s.withConfigMaps m)) ∧
            done.2.sources = s.sources ∧
              ∃ a b, s.hotNews.get? key = some a ∧ done.2.hotNews.get? key = some b ∧
                a.SameSummary b := by
  have hs := built.sound
  have ungrouped := ((ConfigMap.deletable_iff hs target).mp admitted).2
  obtain ⟨a, stored, unmarked⟩ := id live
  obtain ⟨r, hr, hcourse⟩ := hotNewsCourse about f now s
  obtain rfl : r = .ok action := by
    cases r with
    | error e => cases hr.symm.trans well
    | ok => exact congrArg _ (Except.ok.inj (hr.symm.trans well))
  obtain ⟨placed, calm, _, config⟩ := hcourse.configured hs stored unmarked
  refine ⟨ungrouped, fun m cm' config' => ?_, fun m missing => ?_⟩
  · have mirrors : Pass.Mirrors f m s (visit.pass now) (visit.pass now) :=
      mirrored hs about live ungrouped config config'
    refine ⟨?_, mirrors.calls_eq⟩
    rw [← well]
    unfold run
    rw [mirrors.run_eq]
  · obtain ⟨r', hr', hcourse'⟩ := hotNewsCourse about f now (s.withConfigMaps m)
    obtain ⟨rfl, quiet, hsources, b, hb, hsame⟩ :=
      hcourse'.unconfigured (hs.hotNews_key stored) stored unmarked placed calm missing
    exact ⟨hr', quiet, hsources, a, b, stored, hb, hsame⟩

/-- The ConfigMap with the feed groups of the newsroom. -/
def newsroomGroups : ConfigMap where
  metadata := { name := some "feed-group-source", ns := some "default" }

/-- The newsroom once it was deleted. -/
def groupless : Store :=
  newsroom.withConfigMaps (newsroom.configMaps.erase ⟨"default", "feed-group-source"⟩)

/-- The deletion is admitted, and ends a pass that goes well before it. -/
theorem groupless_pass_fails :
    newsroomGroups.isTarget {} = true ∧
      ((newsroomGroups.validateDelete {}).outcome newsroom).isOk = true ∧
        (worldVisit.run agreeable "now" newsroom).1 = .ok (.requeue 300) ∧
          (worldVisit.run agreeable "now" groupless).1 =
            .error (.hotNews (.configMapNotFound {})) := by
  decide +kernel

/-- An emptied ConfigMap would not. -/
theorem newsroom_matters_not :
    (worldVisit.run agreeable "now" (newsroom.withConfigMaps
      (newsroom.configMaps.insert ⟨"default", "feed-group-source"⟩ newsroomGroups))).1 =
        .ok (.requeue 300) ∧
      ∀ c answer, .ofService c answer ∉ worldVisit.journal agreeable "now" groupless := by
  have live : Subject.IsLive newsroom (.hotNews {} ⟨"news", "world"⟩) := by
    obtain ⟨a, ha, hlive⟩ := Option.map_eq_some_iff.mp
      (show (newsroom.hotNews.get? ⟨"news", "world"⟩).map (·.metadata.isDeleted) = some false by
        decide +kernel)
    exact ⟨a, ha, hlive⟩
  have target : newsroomGroups.isTarget {} = true := by decide
  have admitted : ((newsroomGroups.validateDelete {}).outcome newsroom).isOk = true := by
    decide +kernel
  have well : (worldVisit.run agreeable "now" newsroom).1 = .ok (.requeue 300) := by
    decide +kernel
  obtain ⟨-, emptied, removed⟩ :=
    unused_groups_matter_not built_newsroom target admitted rfl live well
  refine ⟨?_, (removed _ ?_).2.1⟩
  · rw [(emptied _ newsroomGroups ?_).1]
    rw [Catalog.get?_insert]
    exact if_pos rfl
  · rw [Catalog.get?_erase]
    exact if_pos rfl

end Visit

end FeedOperator
