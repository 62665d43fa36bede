import FeedOperator.Proofs.Reconcile.Joining
import FeedOperator.Proofs.Visit

/-!
# What a pass over a HotNews comes to in a quiet store

In a store that shows no failure every write of a pass goes through, so what comes of a pass is a
function of what is stored and of what the service answers.

* `HotNews.finding`: what a pass has to report: articles, or why there are none.
* `HotNews.worked`, `HotNews.verdict`: the HotNews after a pass, and the result of the pass.
* `HotNews.newOwner?`: the owner that a pass gives to a Source.
* `HotNews.Ready`: the store once the finalizer is made sure of.

Results:
* `Course.works`: a pass over a live HotNews has this result, leaves this in place of the HotNews,
  and gives these owners to Sources.
-/

namespace FeedOperator

namespace HotNews

variable {f : Service} {settings : Settings} {now : String}

/-- What a pass has to report: the articles that were found, or the reason and the error if there
are none. -/
def finding (f : Service) (settings : Settings) (cm? : Option ConfigMap) (h : HotNews) :
    Except (Condition.Reason × HotNewsError) ArticleSummary :=
  match cm?, h.ownerReference? with
  | none, _ => .error (.configMapNotFound, .configMapNotFound settings.feedGroup)
  | some _, none => .error (.ownerReferenceFailed, .ownerReference (.missingField "metadata.uid"))
  | some cm, some _ =>
    (f (.fetch (h.query cm))).mapError fun e => (.fetchArticlesFailed, .fetchArticles e)

/-- The HotNews with the report in its status. -/
def reporting (now : String) (h : HotNews) :
    Except (Condition.Reason × HotNewsError) ArticleSummary → HotNews
  | .error (reason, e) => h.failed now h.nextKind reason e
  | .ok found => h.searched now found

/-- The HotNews after a pass; one without a namespace has no report. -/
def worked (f : Service) (settings : Settings) (cm? : Option ConfigMap) (now : String)
    (h : HotNews) : HotNews :=
  if h.metadata.ns = none then h.held else h.held.reporting now (h.finding f settings cm?)

/-- The result of a pass. -/
def verdict (f : Service) (settings : Settings) (cm? : Option ConfigMap) (h : HotNews) :
    Except HotNewsError Action :=
  if h.metadata.ns = none then .error (.missingField "metadata.namespace")
  else ((h.finding f settings cm?).mapError (·.2)).map fun _ => .requeue settings.resync

/-- The owner that a pass gives to the Source under a key. -/
def newOwner? (settings : Settings) (s : Store) (h : HotNews) (k : ObjectKey) :
    Option OwnerReference := do
  let ns ← h.metadata.ns
  let cm ← config? settings s
  let owner ← h.ownerReference?
  if s.FoundBy ns (h.effective cm) k then some owner else none

/-- With groups and an owner to be made, a pass reports what the service answers. -/
theorem finding_of_owner {cm? : Option ConfigMap} {cm : ConfigMap} {h : HotNews}
    (config : cm? = some cm) (howner : h.ownerReference? ≠ none) :
    h.finding f settings cm? =
      (f (.fetch (h.query cm))).mapError fun e => (.fetchArticlesFailed, .fetchArticles e) := by
  obtain ⟨owner, howner⟩ := Option.ne_none_iff_exists'.mp howner
  simp [finding, config, howner]

section Congruence

variable {a b : HotNews} {s t : Store} {cm? : Option ConfigMap}

theorem ownerReference?_congr (wish : b.wish = a.wish) :
    b.ownerReference? = a.ownerReference? := by
  have hname : b.metadata.name = a.metadata.name := congrArg Wish.name wish
  have huid : b.metadata.uid = a.metadata.uid := congrArg Wish.uid wish
  unfold ownerReference?
  rw [hname, huid]

/-- What a pass has to report depends on name and wish alone. -/
theorem finding_congr (wish : b.wish = a.wish) :
    b.finding f settings cm? = a.finding f settings cm? := by
  have hspec : b.spec = a.spec := congrArg Wish.spec wish
  unfold finding query effective
  rw [ownerReference?_congr wish, hspec]

theorem verdict_congr (wish : b.wish = a.wish) :
    b.verdict f settings cm? = a.verdict f settings cm? := by
  have hns : b.metadata.ns = a.metadata.ns := congrArg Wish.ns wish
  unfold verdict
  rw [finding_congr wish, hns]

theorem verdict_unversioned (h : HotNews) :
    verdict f settings cm? h.unversioned = h.verdict f settings cm? :=
  verdict_congr rfl

/-- The owners that a pass gives depend on names and wishes alone. -/
theorem newOwner?_congr (wish : b.wish = a.wish) (maps : t.configMaps = s.configMaps)
    (named : ∀ ns n, t.firstNamed ns n = s.firstNamed ns n) (k : ObjectKey) :
    b.newOwner? settings t k = a.newOwner? settings s k := by
  have hns : b.metadata.ns = a.metadata.ns := congrArg Wish.ns wish
  have hspec : b.spec = a.spec := congrArg Wish.spec wish
  have found : ∀ ns cm, t.FoundBy ns (b.effective cm) k ↔ s.FoundBy ns (a.effective cm) k := by
    intro ns cm
    unfold Store.FoundBy effective
    simp only [named, hspec]
  unfold newOwner? config?
  rw [ownerReference?_congr wish, hns, maps]
  refine bind_congr fun ns => bind_congr fun cm => bind_congr fun owner => ?_
  exact if_congr (found ns cm) rfl rfl

end Congruence

/-- A report changes the status alone. -/
theorem reporting_eq (h : HotNews) (x : Except (Condition.Reason × HotNewsError) ArticleSummary) :
    h.reporting now x = { h with status := (h.reporting now x).status } := by
  cases x <;> rfl

@[simp] theorem metadata_reporting (h : HotNews)
    (x : Except (Condition.Reason × HotNewsError) ArticleSummary) :
    (h.reporting now x).metadata = h.metadata := by
  cases x <;> rfl

theorem unversioned_reporting (h : HotNews)
    (x : Except (Condition.Reason × HotNewsError) ArticleSummary) :
    (h.reporting now x).unversioned = reporting now h.unversioned x := by
  cases x <;> rfl

theorem wish_reporting (h : HotNews)
    (x : Except (Condition.Reason × HotNewsError) ArticleSummary) :
    (h.reporting now x).wish = h.wish := by
  cases x <;> rfl

theorem unversioned_worked (cm? : Option ConfigMap) (h : HotNews) :
    (h.worked f settings cm? now).unversioned = worked f settings cm? now h.unversioned := by
  have hns : h.unversioned.metadata.ns = h.metadata.ns := rfl
  unfold worked
  rw [hns]
  split
  · exact h.unversioned_heldBy finalizer
  · rw [unversioned_reporting, Object.unversioned_heldBy]
    rfl

theorem wish_worked (cm? : Option ConfigMap) (h : HotNews) :
    (h.worked f settings cm? now).wish = h.wish := by
  have hheld := (h.refinalized_heldBy finalizer).kept.wish_eq
  unfold worked
  split
  · exact hheld
  · rw [wish_reporting]
    exact hheld

theorem isDeleted_worked (cm? : Option ConfigMap) (h : HotNews) :
    (h.worked f settings cm? now).metadata.isDeleted = h.metadata.isDeleted := by
  have hheld := h.isDeleted_heldBy finalizer
  unfold worked
  split
  · exact hheld
  · rw [metadata_reporting]
    exact hheld

theorem not_isUnheld_worked (cm? : Option ConfigMap) (h : HotNews) :
    ¬ (h.worked f settings cm? now).IsUnheld := by
  intro hunheld
  have hhas := h.hasFinalizer_heldBy finalizer
  have : h.held.IsUnheld := by
    rw [Object.IsUnheld, worked] at hunheld
    split at hunheld
    · exact hunheld
    · rw [metadata_reporting] at hunheld
      exact hunheld
  rw [Object.hasFinalizer_of_isUnheld this] at hhas
  cases hhas

/-! ## The parts of a pass -/

section Runs

variable {s t u : Store} {es : List Event} {hotNews mine : HotNews} {ns name : String}

theorem Held.calm {r : Except HotNewsError HotNews} (h : Held .settled s hotNews es r t)
    (calm : s.Calm) : t.Calm := by
  cases h with
  | already => exact calm
  | written meets =>
    obtain rfl := Climate.settled_eq meets
    exact calm.answer (.replaceHotNews _)

/-- In a quiet store the finalizer is made sure of. -/
theorem Held.unversioned_eq {r : Except HotNewsError HotNews}
    (stored : s.hotNews.get? hotNews.key = some hotNews) (h : Held .settled s hotNews es r t) :
    ∃ mine, r = .ok mine ∧ mine.unversioned = hotNews.held.unversioned := by
  cases h with
  | already hf => exact ⟨hotNews, rfl, by rw [held, Object.heldBy_of_hasFinalizer hf]⟩
  | written meets hf =>
    obtain rfl := Climate.settled_eq meets
    have hheld := hotNews.refinalized_heldBy finalizer
    have hkey : hotNews.held.key = hotNews.key := hheld.kept.key_eq
    obtain ⟨written, hw, hreplaced⟩ := Store.replaceHotNews_of_current (hkey.symm ▸ stored)
      (hotNews.resourceVersion_heldBy finalizer).symm
    refine ⟨written, ?_, hreplaced.unversioned_written rfl⟩
    rw [held, hw]
    rfl

/-- A store in which a HotNews was made sure to have the finalizer, and the HotNews as it is
there. -/
structure Ready (s : Store) (hotNews mine : HotNews) (t : Store) : Prop where
  quiet : t.Quiet
  stored : t.hotNews.get? mine.key = some mine
  key_eq : mine.key = hotNews.key
  wish_eq : mine.wish = hotNews.wish
  unversioned_eq : mine.unversioned = hotNews.held.unversioned
  elsewhere : ∀ k, k ≠ hotNews.key → t.hotNews.view k = s.hotNews.view k
  rest : s.SameButHotNews t

/-- In a quiet store the finalizer is made sure of, and it stays quiet. -/
theorem Held.ready (quiet : s.Quiet) (stored : s.hotNews.get? hotNews.key = some hotNews)
    (live : hotNews.metadata.isDeleted = false) (h : Held .settled s hotNews es (.ok mine) t) :
    Ready s hotNews mine t := by
  have hold := h.holding stored live
  obtain ⟨_, hmine, same⟩ := h.unversioned_eq stored
  cases hmine
  have stay : t.NoneLeaving := by
    refine ⟨hold.rest.sources ▸ quiet.stay.sources, fun k b hb hl => ?_⟩
    by_cases hk : k = hotNews.key
    · obtain rfl := Option.some.inj ((hk ▸ hb).symm.trans hold.stored)
      have hmarked : b.metadata.isDeleted = true := hl.isMarked
      rw [hold.refinalized.kept.isDeleted_eq, live] at hmarked
      cases hmarked
    · rw [hold.elsewhere k hk] at hb
      exact quiet.stay.hotNews k b hb hl
  exact {
    quiet := ⟨h.sound quiet.sound, h.calm quiet.calm, stay⟩
    stored := hold.stands
    key_eq := hold.refinalized.kept.key_eq
    wish_eq := hold.refinalized.kept.wish_eq
    unversioned_eq := same
    elsewhere := fun k hk => by rw [Catalog.view, hold.elsewhere k hk, Catalog.view]
    rest := hold.rest }

namespace Ready

theorem config?_eq (h : Ready s hotNews mine t) : config? settings t = config? settings s := by
  unfold config?
  rw [h.rest.configMaps]

theorem finding_eq (h : Ready s hotNews mine t) :
    mine.finding f settings (config? settings t) =
      hotNews.finding f settings (config? settings s) := by
  rw [h.config?_eq, finding_congr h.wish_eq]

/-- The owners to be given are told by the store before. -/
theorem newOwner?_eq (h : Ready s hotNews mine t) (k : ObjectKey) :
    mine.newOwner? settings t k = hotNews.newOwner? settings s k := by
  refine newOwner?_congr h.wish_eq h.rest.configMaps (fun ns n => ?_) k
  unfold Store.firstNamed
  rw [h.rest.sources]

end Ready

/-- In a quiet store a report is written. -/
theorem writes_report (now : String) (calm : t.Calm) (stored : t.hotNews.get? mine.key = some mine)
    (x : Except (Condition.Reason × HotNewsError) ArticleSummary) :
    (∃ written, (t.replaceHotNewsStatus (mine.reporting now x)).1 = .ok written) ∧
    t.SameButHotNews (t.replaceHotNewsStatus (mine.reporting now x)).2 ∧
    ∀ k, (t.replaceHotNewsStatus (mine.reporting now x)).2.hotNews.view k =
      if k = mine.key then some (mine.reporting now x).unversioned else t.hotNews.view k := by
  have hkey : (mine.reporting now x).key = mine.key := by
    rw [Object.key, metadata_reporting]
    rfl
  obtain ⟨written, hw, hreplaced⟩ := Store.replaceHotNewsStatus_of_current
    calm.failStatusWrites (hkey.symm ▸ stored) (by rw [metadata_reporting])
  refine ⟨⟨written, hw⟩, ?_, fun k => ?_⟩
  · rcases t.replaceHotNewsStatus_cases (mine.reporting now x) with
      ⟨_, _, hsame⟩ | ⟨_, _, _, _, rest⟩
    · exact ⟨hsame.sources, hsame.configMaps⟩
    · exact rest
  · rw [hreplaced.view_eq, hkey, ← reporting_eq]

/-- In a quiet store a failure is reported. -/
theorem Failed.reports {reason : Condition.Reason} {error : HotNewsError}
    {r : Except HotNewsError Unit} (calm : t.Calm) (stored : t.hotNews.get? mine.key = some mine)
    (h : Failed .settled now t mine mine.nextKind reason error es r u) :
    r = .error error ∧ t.SameButHotNews u ∧
    ∀ k, u.hotNews.view k = if k = mine.key
      then some (mine.reporting now (.error (reason, error))).unversioned
      else t.hotNews.view k := by
  obtain ⟨⟨written, hw⟩, rest, hview⟩ := writes_report now calm stored (.error (reason, error))
  cases h with
  | reported meets =>
    obtain rfl := Climate.settled_eq meets
    refine ⟨?_, rest, hview⟩
    change Except.error (HotNews.reported error
      (t.replaceHotNewsStatus (mine.reporting now (.error (reason, error)))).1) = _
    rw [hw]
    rfl

/-- What a pass makes of a quiet store, once the finalizer is made sure of. -/
structure Reported (f : Service) (settings : Settings) (now : String) (t : Store) (mine : HotNews)
    (r : Except HotNewsError Unit) (u : Store) : Prop where
  result : r = ((mine.finding f settings (config? settings t)).mapError (·.2)).map fun _ => ()
  hotNews : ∀ k, u.hotNews.view k = if k = mine.key
    then some (mine.reporting now (mine.finding f settings (config? settings t))).unversioned
    else t.hotNews.view k
  sources : ∀ k, u.sources.view k =
    (t.sources.view k).map (Source.withOwner? · (mine.newOwner? settings t k))
  configMaps : u.configMaps = t.configMaps

/-- It is enough to know what the pass has to report. -/
theorem Reported.of_finding {x : Except (Condition.Reason × HotNewsError) ArticleSummary}
    (finding : mine.finding f settings (config? settings t) = x)
    (hotNews : ∀ k, u.hotNews.view k =
      if k = mine.key then some (mine.reporting now x).unversioned else t.hotNews.view k)
    (sources : ∀ k, u.sources.view k =
      (t.sources.view k).map (Source.withOwner? · (mine.newOwner? settings t k)))
    (configMaps : u.configMaps = t.configMaps) :
    Reported f settings now t mine ((x.mapError (·.2)).map fun _ => ()) u := by
  subst finding
  exact ⟨rfl, hotNews, sources, configMaps⟩

theorem newOwner?_eq_none {k : ObjectKey}
    (h : config? settings s = none ∨ hotNews.ownerReference? = none) :
    hotNews.newOwner? settings s k = none := by
  unfold newOwner?
  rcases h with h | h
  · simp [h]
  · simp [h]

/-- Linking gives owners to Sources, if it goes well. -/
theorem sources_of_linking {cm : ConfigMap} {links : List Event} {linked : List String}
    (quiet : t.Quiet) (placed : mine.metadata.ns = some ns) (config : config? settings t = some cm)
    (h : (linkSources ns mine (mine.effective cm)).run.Leads t links (.ok linked) u) :
    mine.ownerReference? ≠ none ∧ t.SameButSources u ∧
    ∀ k, u.sources.view k =
      (t.sources.view k).map (Source.withOwner? · (mine.newOwner? settings t k)) := by
  rcases linkSources_joins quiet h with ⟨-, hr, -⟩ | ⟨owner, howner, -, joins⟩
  · cases hr
  · refine ⟨by simp [howner], joins.rest, fun k => ?_⟩
    have hnew : mine.newOwner? settings t k =
        if t.FoundBy ns (mine.effective cm) k then some owner else none := by
      simp [newOwner?, placed, config, howner]
    rw [hnew]
    split
    · next hk => exact joins.joined k hk
    · next hk =>
      rw [joins.elsewhere k hk]
      cases t.sources.view k <;> rfl

theorem Refreshed.unplaced_eq {r : Except HotNewsError Unit} (hns : mine.metadata.ns = none)
    (h : Refreshed .settled settings now t mine es r u) :
    r = .error (.missingField "metadata.namespace") ∧ u = t := by
  cases h with
  | unplaced => exact ⟨rfl, rfl⟩
  | unconfigured placed | unlinked placed | unfetched placed | unwritten placed
  | summarized placed =>
    rw [hns] at placed
    cases placed

/-- **In a quiet store all that follows the finalizer goes through.** -/
theorem Refreshed.reports {r : Except HotNewsError Unit} (quiet : t.Quiet)
    (stored : t.hotNews.get? mine.key = some mine) (placed : mine.metadata.ns ≠ none)
    (h : Refreshed .settled settings now t mine es r u) (answers : f.Answers es) :
    Reported f settings now t mine r u := by
  have unlinked : ∀ {v : Store}, (config? settings t = none ∨ mine.ownerReference? = none) →
      v.sources = t.sources → ∀ k, v.sources.view k =
        (t.sources.view k).map (Source.withOwner? · (mine.newOwner? settings t k)) := by
    intro v hnone hv k
    rw [newOwner?_eq_none hnone, hv]
    cases t.sources.view k <;> rfl
  cases h with
  | unplaced hnone => exact absurd hnone placed
  | unconfigured _ meets missing fails =>
    obtain rfl := Climate.settled_eq meets
    obtain ⟨rfl, rest, hview⟩ := fails.reports quiet.calm stored
    have hfinding : mine.finding f settings (config? settings t) =
        .error (.configMapNotFound, .configMapNotFound settings.feedGroup) := by
      simp [finding, config?, missing]
    exact .of_finding hfinding hview (unlinked (.inl missing) rest.sources) rest.configMaps
  | @unlinked _ cm _ _ _ _ _ _ _ _ meets config linking fails =>
    obtain rfl := Climate.settled_eq meets
    have config : config? settings t = some cm := config
    rcases linkSources_joins quiet linking with ⟨hnone, herror, hv⟩ | ⟨_, _, ⟨_, hok⟩, _⟩
    · cases herror
      rw [hv] at fails
      obtain ⟨rfl, rest, hview⟩ := fails.reports quiet.calm stored
      have hfinding : mine.finding f settings (config? settings t) =
          .error (.ownerReferenceFailed, .ownerReference (.missingField "metadata.uid")) := by
        simp [finding, config, hnone]
      exact .of_finding hfinding hview (unlinked (.inr hnone) rest.sources) rest.configMaps
    · cases hok
  | @unfetched _ cm _ _ _ _ v e _ _ placed meets config linking fails =>
    obtain rfl := Climate.settled_eq meets
    have config : config? settings t = some cm := config
    obtain ⟨howner, rest, hsources⟩ := sources_of_linking quiet placed config linking
    have hanswer : .error e = f (.fetch (mine.query cm)) := answers _ _ (by simp)
    have hfinding : mine.finding f settings (config? settings t) =
        .error (.fetchArticlesFailed, .fetchArticles e) := by
      rw [finding_of_owner config howner, ← hanswer]
      rfl
    obtain ⟨rfl, rest', hview⟩ := fails.reports (linking.calm quiet.calm) (rest.hotNews ▸ stored)
    refine .of_finding hfinding (rest.hotNews ▸ hview) (fun k => ?_)
      (rest'.configMaps.trans rest.configMaps)
    rw [rest'.sources, hsources]
  | unwritten placed meets config linking writes refused =>
    obtain rfl := Climate.settled_eq meets
    obtain rfl := Climate.settled_eq writes
    obtain ⟨-, rest, -⟩ := sources_of_linking quiet placed config linking
    obtain ⟨⟨_, hw⟩, -, -⟩ := writes_report now (linking.calm quiet.calm)
      (rest.hotNews ▸ stored) (.ok _)
    cases hw.symm.trans refused
  | @summarized _ cm _ _ _ v _ found _ placed meets config linking writes write =>
    obtain rfl := Climate.settled_eq meets
    obtain rfl := Climate.settled_eq writes
    have config : config? settings t = some cm := config
    obtain ⟨howner, rest, hsources⟩ := sources_of_linking quiet placed config linking
    have hanswer : .ok found = f (.fetch (mine.query cm)) := answers _ _ (by simp)
    have hfinding : mine.finding f settings (config? settings t) = .ok found := by
      rw [finding_of_owner config howner, ← hanswer]
      rfl
    obtain ⟨-, rest', hview⟩ := writes_report now (linking.calm quiet.calm)
      (rest.hotNews ▸ stored) (.ok found)
    refine .of_finding hfinding (rest.hotNews ▸ hview) (fun k => ?_)
      (rest'.configMaps.trans rest.configMaps)
    exact (congrFun (congrArg Catalog.view rest'.sources) k).trans (hsources k)

/-- **In a quiet store a pass over a live HotNews goes through.** -/
theorem Course.works {r : Except HotNewsError Action} (quiet : s.Quiet)
    (stored : s.hotNews.get? ⟨ns, name⟩ = some hotNews) (live : hotNews.metadata.isDeleted = false)
    (h : Course .settled settings now ns name s es r u) (answers : f.Answers es) :
    r = hotNews.verdict f settings (config? settings s) ∧
    (∀ k, u.hotNews.view k = if k = ⟨ns, name⟩
      then (s.hotNews.view k).map (HotNews.worked f settings (config? settings s) now)
      else s.hotNews.view k) ∧
    (∀ k, u.sources.view k =
      (s.sources.view k).map (Source.withOwner? · (hotNews.newOwner? settings s k))) ∧
    u.configMaps = s.configMaps := by
  have hkey : hotNews.key = ⟨ns, name⟩ := quiet.sound.hotNews_key stored
  have found : ∀ {a}, s.hotNews.get? ⟨ns, name⟩ = some a → a = hotNews := fun ha =>
    Option.some.inj (ha.symm.trans stored)
  have stored' : s.hotNews.get? hotNews.key = some hotNews := hkey ▸ stored
  cases h with
  | absent _ gone =>
    rw [gone] at stored
    cases stored
  | finalized _ there deleted =>
    obtain rfl := found there
    rw [live] at deleted
    cases deleted
  | unheld meets there _ holds =>
    obtain rfl := found there
    obtain rfl := Climate.settled_eq meets
    obtain ⟨_, hmine, -⟩ := holds.unversioned_eq stored'
    cases hmine
  | @refreshed a mine holds es _ t r _ meets there _ held goes =>
    obtain rfl : a = hotNews := found there
    obtain rfl := Climate.settled_eq meets
    have ready := held.ready quiet stored' live
    have hns : mine.metadata.ns = a.metadata.ns := congrArg Wish.ns ready.wish_eq
    have hmkey : mine.key = ⟨ns, name⟩ := ready.key_eq.trans hkey
    have elsewhere : ∀ k, k ≠ ⟨ns, name⟩ → t.hotNews.view k = s.hotNews.view k := fun k hk =>
      ready.elsewhere k (hkey ▸ hk)
    cases placed : mine.metadata.ns with
    | none =>
      obtain ⟨rfl, rfl⟩ := goes.unplaced_eq placed
      refine ⟨?_, fun k => ?_, fun k => ?_, ready.rest.configMaps⟩
      · rw [verdict, if_pos (hns ▸ placed)]
        rfl
      · split
        · next hk =>
          rw [hk, Catalog.view_of_get? stored, ← hmkey, Catalog.view_of_get? ready.stored,
            ready.unversioned_eq, Option.map_some, worked, if_pos (hns ▸ placed)]
          exact congrArg some (a.unversioned_heldBy finalizer)
        · next hk => exact elsewhere k hk
      · have hnone : a.newOwner? settings s k = none := by simp [newOwner?, hns ▸ placed]
        rw [hnone, ready.rest.sources]
        cases s.sources.view k <;> rfl
    | some _ =>
      have hplaced : mine.metadata.ns ≠ none := by simp [placed]
      have reports := goes.reports (f := f) ready.quiet ready.stored hplaced
        fun c answer hmem => answers c answer (by simp [hmem])
      refine ⟨?_, fun k => ?_, fun k => ?_, reports.configMaps.trans ready.rest.configMaps⟩
      · rw [reports.result, ready.finding_eq, verdict, if_neg (hns ▸ hplaced)]
        cases a.finding f settings (config? settings s) <;> rfl
      · rw [reports.hotNews, hmkey]
        split
        · next hk =>
          rw [hk, Catalog.view_of_get? stored, Option.map_some, ready.finding_eq,
            unversioned_reporting, ready.unversioned_eq, ← unversioned_reporting,
            ← unversioned_worked, worked, if_neg (hns ▸ hplaced)]
        · next hk => exact elsewhere k hk
      · rw [reports.sources, ready.rest.sources, ready.newOwner?_eq]

end Runs

end HotNews

end FeedOperator
