import FeedOperator.Proofs.Admission.Defaulting
import FeedOperator.Proofs.Registering
import FeedOperator.Proofs.Settling

/-!
# What a pass over a HotNews that goes well leaves

The pass searches once, sums up in the status what was found, and makes the HotNews an owner of the
first Source of each short name that was searched. The number of titles counts as ten if it is not
given, so it makes no difference whether the default was written to the HotNews.

* `HotNewsStatus.SumsUp`: a status that sums up articles.
* `HotNews.Summary`: the calls, the status and the owners that such a pass leaves.
* `Store.Defaulted`: a store in which the default was written to a HotNews.
* `Visit.Agree`: passes over two stores that do the same for a HotNews.

Results:
* `HotNews.Course.searches`: a pass that goes well searches once, and does not touch a Source that
  no short name stands for.
* `HotNews.status_worked_withDefaults`: with the default written, a pass leaves the same status.
* `Visit.summary`, `Visit.agree_of_defaulted`: the two halves, for a store that is quiet.
* `Visit.summary_written`: a pass that goes well leaves such a summary, with the default written or
  without.
-/

namespace FeedOperator

/-- A status that sums up the articles that were found. -/
structure HotNewsStatus.SumsUp (spec : HotNewsSpec) (found : ArticleSummary)
    (status : HotNewsStatus) : Prop where
  count : status.articlesCount = found.articles.length
  link : status.newsLink = found.requestUrl
  titles : status.articlesTitles = (found.articles.map (·.title)).take
    (min found.articles.length
      (if spec.summaryConfig.titlesCount = 0 then 10 else spec.summaryConfig.titlesCount.toNat))

/-- Calls without requests in front make no difference. -/
theorem SendsOnly.after {c : ServiceCall} {front es : List Event} (h : SendsOnly c es)
    (silent : WithoutRequests front) : SendsOnly c (front ++ es) := by
  obtain ⟨before, answer, back, rfl, first, last⟩ := h
  exact ⟨front ++ before, answer, back, by simp, silent.append first, last⟩

namespace HotNews

/-- What a pass over a HotNews that goes well has done, from its first call to its last. -/
structure Summary (f : Service) (key : ObjectKey) (a : HotNews) (cm : ConfigMap) (uid : String)
    (found : ArticleSummary) (s : Store) (es : List Event) (u : Store) : Prop where
  /-- It made one request, to search what the HotNews asks for. -/
  searches : SendsOnly (.fetch (a.query cm)) es
  answer : f (.fetch (a.query cm)) = .ok found
  /-- The status sums up the answer. -/
  told : ∃ b status, u.hotNews.get? key = some b ∧ b.status = some status ∧
    status.SumsUp a.spec found
  /-- The first Source of each short name is owned. -/
  linked : ∀ n ∈ a.effective cm, ∀ b, findByShortName (s.sources.inNamespace key.ns) n = some b →
    ∃ c, u.sources.get? b.key = some c ∧ c.isOwnedBy uid = true ∧
      (b.isOwnedBy uid = false → c.metadata.owners.countP (·.uid == uid) = 1)
  /-- No other Source has changed. -/
  elsewhere : ∀ k, (∀ n ∈ a.effective cm, ∀ b,
      findByShortName (s.sources.inNamespace key.ns) n = some b → b.key ≠ k) →
    u.sources.get? k = s.sources.get? k

variable {f : Service} {settings : Settings} {now ns name : String} {s t u : Store}
variable {es : List Event} {a b mine : HotNews} {cm : ConfigMap} {cm? : Option ConfigMap}
variable {action : Action} {found : ArticleSummary} {k : ObjectKey}

/-! ## The status -/

theorem sumsUp_summarized (now : String) (spec : HotNewsSpec) (conditions : List Condition)
    (found : ArticleSummary) : (summarized now spec conditions found).SumsUp spec found where
  count := rfl
  link := rfl
  titles := by
    change (found.articles.take spec.titlesCount).map (·.title) = _
    rw [List.map_take, List.take_eq_take_iff, List.length_map]
    change min spec.titlesCount _ = min (min _ spec.titlesCount) _
    omega

theorem status_searched (now : String) (a : HotNews) (found : ArticleSummary) :
    (a.held.searched now found).status =
      some (summarized now a.spec a.statusOrEmpty.conditions found) :=
  rfl

/-- A pass that finds articles has groups and an owner to make. -/
theorem of_finding_eq_ok (h : a.finding f settings cm? = .ok found) :
    ∃ cm owner, cm? = some cm ∧ a.ownerReference? = some owner ∧
      f (.fetch (a.query cm)) = .ok found := by
  cases cm? with
  | none => cases h
  | some cm =>
    cases howner : a.ownerReference? with
    | none =>
      simp only [finding, howner] at h
      cases h
    | some owner =>
      rw [finding_of_owner rfl (by simp [howner])] at h
      cases hf : f (.fetch (a.query cm)) with
      | error e =>
        rw [hf] at h
        cases h
      | ok answer =>
        rw [hf] at h
        cases h
        exact ⟨cm, owner, rfl, rfl, hf⟩

/-- A pass that has groups, an owner to make and articles goes well. -/
theorem verdict_of_found (placed : a.metadata.ns ≠ none) (howner : a.ownerReference? ≠ none)
    (config : cm? = some cm) (answer : f (.fetch (a.query cm)) = .ok found) :
    a.verdict f settings cm? = .ok (.requeue settings.resync) := by
  rw [verdict, if_neg placed, finding_of_owner config howner, answer]
  rfl

/-! ## The calls -/

theorem query_congr (wish : b.wish = a.wish) : b.query cm = a.query cm := by
  have spec : b.spec = a.spec := congrArg Wish.spec wish
  rw [query, query, effective, effective, spec]

/-- Refreshing that goes well searches once, and touches no Source that is not searched. -/
theorem Refreshed.searches (quiet : t.Quiet)
    (h : Refreshed .settled settings now t mine es (.ok ()) u) :
    ∃ ns cm, mine.metadata.ns = some ns ∧ config? settings t = some cm ∧
      SendsOnly (.fetch (mine.query cm)) es ∧
      ∀ k, ¬ t.FoundBy ns (mine.effective cm) k → u.sources.get? k = t.sources.get? k := by
  generalize hr : (Except.ok () : Except HotNewsError Unit) = r at h
  cases h with
  | unplaced => cases hr
  | unconfigured _ _ _ fails | unlinked _ _ _ _ fails | unfetched _ _ _ _ fails
  | unwritten _ _ _ _ _ _ fails =>
    cases fails
    cases hr
  | @summarized ns cm links _ _ v _ found _ placed meets config linking writes =>
    obtain rfl := Climate.settled_eq meets
    have quiet' : WithoutRequests links := withoutRequests_of_linking linking
    refine ⟨ns, cm, placed, config, ⟨_ :: _, _, _, rfl, quiet'.cons_store, .cons_store .nil⟩, ?_⟩
    intro k other
    have written : Restated mine.key v _ :=
      restated_of_writeStatus writes (show (mine.searched now found).key = mine.key from rfl)
    rw [written.rest.sources]
    exact linkSources_elsewhere quiet other linking

/-- **A pass over a live HotNews that goes well searches once**, and touches no Source that is not
searched. -/
theorem Course.searches (quiet : s.Quiet) (stored : s.hotNews.get? ⟨ns, name⟩ = some a)
    (live : a.metadata.isDeleted = false)
    (h : Course .settled settings now ns name s es (.ok action) u) :
    ∃ cm, config? settings s = some cm ∧ SendsOnly (.fetch (a.query cm)) es ∧
      ∀ k, ¬ s.FoundBy ns (a.effective cm) k → u.sources.get? k = s.sources.get? k := by
  have hkey : a.key = ⟨ns, name⟩ := quiet.sound.hotNews_key stored
  have known : ∀ {b : HotNews}, s.hotNews.get? ⟨ns, name⟩ = some b → b = a :=
    fun hb => Option.some.inj (hb.symm.trans stored)
  generalize hr : (Except.ok action : Except HotNewsError Action) = r at h
  cases h with
  | absent _ gone => cases gone.symm.trans stored
  | unheld => cases hr
  | finalized _ stored' deleted =>
    obtain rfl := known stored'
    cases live.symm.trans deleted
  | @refreshed _ mine holds es _ t r _ meets stored' _ held goes =>
    obtain rfl := known stored'
    obtain rfl := Climate.settled_eq meets
    have ready := held.ready quiet (hkey.symm ▸ stored) live
    cases r with
    | error => cases hr
    | ok =>
      obtain ⟨ns', cm, placed, config, sends, elsewhere⟩ := goes.searches ready.quiet
      have hns := congrArg ObjectKey.ns (ready.key_eq.trans hkey)
      obtain rfl : ns' = ns := by simpa [Object.key, ObjectKey.ofMeta, placed] using hns
      have query : mine.query cm = _ := query_congr ready.wish_eq
      have effective : mine.effective cm = _ := congrArg ArticleQuery.sources query
      have found : ∀ names k, s.FoundBy ns' names k = t.FoundBy ns' names k := fun names k => by
        simp only [Store.FoundBy, Store.firstNamed, ready.rest.sources]
      have sends : SendsOnly (.fetch (mine.query cm)) (firstRead s ns' name :: holds ++ es) :=
        sends.after held.withoutRequests.cons_store
      refine ⟨cm, ready.config?_eq ▸ config, query ▸ sends, fun k other => ?_⟩
      rw [elsewhere k (by rwa [effective, ← found]), held.sources_eq]

/-! ## Owners -/

/-- The owner that a pass gives to the Source that a short name stands for. -/
theorem newOwner?_of_found {owner : OwnerReference} {n nm : String}
    (placed : a.metadata.ns = some ns) (config : config? settings s = some cm)
    (howner : a.ownerReference? = some owner) (hn : n ∈ a.effective cm)
    (hfound : s.firstNamed ns n = some nm) : a.newOwner? settings s ⟨ns, nm⟩ = some owner := by
  have : s.FoundBy ns (a.effective cm) ⟨ns, nm⟩ := ⟨rfl, n, hn, hfound⟩
  simp [newOwner?, placed, config, howner, this]

/-! ## The default -/

/-- The default changes nothing but how much a summary shows. -/
theorem exists_withDefaults (a : HotNews) :
    ∃ config, a.withDefaults = { a with spec := { a.spec with summaryConfig := config } } := by
  by_cases unset : a.spec.summaryConfig.titlesCount = 0
  · exact ⟨_, withDefaults_of_eq_zero unset⟩
  · exact ⟨_, withDefaults_of_ne_zero unset⟩

theorem query_withDefaults (a : HotNews) (cm : ConfigMap) :
    a.withDefaults.query cm = a.query cm := by
  obtain ⟨_, heq⟩ := a.exists_withDefaults
  rw [heq]
  rfl

theorem finding_withDefaults (a : HotNews) (cm? : Option ConfigMap) :
    a.withDefaults.finding f settings cm? = a.finding f settings cm? := by
  obtain ⟨_, heq⟩ := a.exists_withDefaults
  rw [heq]
  rfl

theorem verdict_withDefaults (a : HotNews) (cm? : Option ConfigMap) :
    a.withDefaults.verdict f settings cm? = a.verdict f settings cm? := by
  obtain ⟨_, heq⟩ := a.exists_withDefaults
  rw [heq]
  rfl

theorem newOwner?_withDefaults (a : HotNews) (s : Store) (k : ObjectKey) :
    a.withDefaults.newOwner? settings s k = a.newOwner? settings s k := by
  obtain ⟨_, heq⟩ := a.exists_withDefaults
  rw [heq]
  rfl

/-- The default is the number of titles that is shown without it. -/
theorem titlesCount_withDefaults (a : HotNews) :
    a.withDefaults.spec.titlesCount = a.spec.titlesCount := by
  by_cases unset : a.spec.summaryConfig.titlesCount = 0
  · rw [withDefaults_of_eq_zero unset, HotNewsSpec.titlesCount, HotNewsSpec.titlesCount,
      if_pos unset]
    rfl
  · rw [withDefaults_of_ne_zero unset]

/-- **With the default written, a pass leaves the same status.** -/
theorem status_worked_withDefaults (now : String) (well : a.verdict f settings cm? = .ok action) :
    (a.withDefaults.worked f settings cm? now).status = (a.worked f settings cm? now).status := by
  obtain ⟨found, hfound, hworked⟩ := worked_of_ok now well
  obtain ⟨found', hfound', hworked'⟩ :=
    worked_of_ok now ((a.verdict_withDefaults cm?).trans well)
  obtain rfl : found' = found := by
    rw [finding_withDefaults, hfound] at hfound'
    exact (Except.ok.inj hfound').symm
  rw [hworked, hworked', status_searched, status_searched, summarized, summarized,
    titlesCount_withDefaults]
  rfl

theorem ns_of_verdict (well : a.verdict f settings cm? = .ok action) : a.metadata.ns ≠ none := by
  intro hns
  rw [verdict, if_pos hns] at well
  cases well

end HotNews

/-! ## Sources -/

/-- A Source that is listed under a short name stands under its own name. -/
theorem Store.firstNamed_of_found {s : Store} {ns n : String} {b : Source} (hs : s.Sound)
    (named : ∀ k b, s.sources.get? k = some b → b.metadata.name ≠ none)
    (hfound : findByShortName (s.sources.inNamespace ns) n = some b) :
    ∃ nm, s.firstNamed ns n = some nm ∧ b.key = ⟨ns, nm⟩ ∧ s.sources.get? ⟨ns, nm⟩ = some b := by
  have listed := List.mem_of_find?_eq_some hfound
  obtain ⟨k, hb, -⟩ := (Catalog.mem_inNamespace_iff hs.sources.ordered).mp listed
  obtain ⟨nm, hname⟩ := Option.ne_none_iff_exists'.mp (named k b hb)
  have hb := hs.get?_of_listed listed hname
  exact ⟨nm, by rw [firstNamed, hfound]; exact hname, hs.source_key hb, hb⟩

/-- An owner that is new to a Source is there once. -/
theorem Source.countP_withOwner {b : Source} {owner : OwnerReference}
    (free : b.isOwnedBy owner.uid = false) :
    (b.withOwner owner).metadata.owners.countP (·.uid == owner.uid) = 1 := by
  have none : b.metadata.owners.countP (·.uid == owner.uid) = 0 := by
    rw [List.countP_eq_zero]
    exact List.any_eq_false.mp free
  rw [Meta.owners, owners_withOwner free, Option.getD_some, List.countP_append, none]
  simp

/-! ## What an effect tells -/

namespace Subject.Effect

variable {f : Service} {now : String} {settings : Settings} {key k : ObjectKey} {s u : Store}
variable {r : Except PassError Action}

/-- The status that a pass leaves. -/
theorem status_eq {a : HotNews} (h : (Subject.hotNews settings key).Effect f now s r u)
    (stored : s.hotNews.get? key = some a) :
    (u.hotNews.get? key).map (·.status) =
      some (a.worked f settings (HotNews.config? settings s) now).status := by
  obtain ⟨b, hb, heq⟩ := h.hotNews_after stored
  rw [onHotNews, if_pos rfl, ← HotNews.unversioned_worked] at heq
  rw [hb]
  have := congrArg (some ·.status) heq
  exact this

/-- The owners that a pass leaves where it gives one. -/
theorem owners_eq {b : Source} {owner : OwnerReference}
    (h : (Subject.hotNews settings key).Effect f now s r u)
    (new : s.newOwner? settings key k = some owner) (stored : s.sources.get? k = some b) :
    ∃ c, u.sources.get? k = some c ∧ c.metadata.owners = (b.withOwner owner).metadata.owners := by
  obtain ⟨c, hc, heq⟩ := h.source_after stored
  rw [onSource, new] at heq
  have same : c.unversioned = (b.withOwner owner).unversioned :=
    heq.trans (b.unversioned_withOwner owner).symm
  have owners := congrArg (·.metadata.owners) same
  exact ⟨c, hc, owners⟩

end Subject.Effect

/-! ## Visits -/

namespace Visit

variable {visit : Visit} {settings : Settings} {key : ObjectKey} {s : Store} {a : HotNews}
variable {action : Action}

/-- A visit to a live HotNews of a quiet store that goes well searches once, and touches no Source
that is not searched. -/
theorem searches (f : Service) (now : String) (quiet : s.Quiet)
    (about : visit.subject? = some (.hotNews settings key)) (stored : s.hotNews.get? key = some a)
    (live : a.metadata.isDeleted = false) (ok : (visit.run f now s).1 = .ok action) :
    ∃ cm, HotNews.config? settings s = some cm ∧
      SendsOnly (.fetch (a.query cm)) (visit.journal f now s) ∧
      ∀ k, ¬ s.FoundBy key.ns (a.effective cm) k →
        (visit.run f now s).2.sources.get? k = s.sources.get? k := by
  have course := course_of_leads about (visit.leads_run f now s)
  generalize (visit.run f now s).1 = r at course ok
  cases course with
  | @hotNews _ _ _ r _ h =>
    cases r with
    | error => cases ok
    | ok => exact h.searches quiet stored live

/-- **A visit to a live HotNews of a quiet store that goes well leaves a summary.** -/
theorem summary (f : Service) (now : String) (quiet : s.Quiet)
    (named : ∀ k b, s.sources.get? k = some b → b.metadata.name ≠ none)
    (about : visit.subject? = some (.hotNews settings key)) (stored : s.hotNews.get? key = some a)
    (live : a.metadata.isDeleted = false) (ok : (visit.run f now s).1 = .ok action) :
    ∃ cm owner found, HotNews.config? settings s = some cm ∧ a.ownerReference? = some owner ∧
      HotNews.Summary f key a cm owner.uid found s (visit.journal f now s)
        (visit.run f now s).2 := by
  have effect := Visit.effect f now quiet about ⟨a, stored, live⟩
  obtain ⟨_, well⟩ := Subject.verdict_of_ok stored (ok ▸ effect.result)
  obtain ⟨found, hfound, hworked⟩ := HotNews.worked_of_ok now well
  obtain ⟨cm, owner, config, howner, answer⟩ := HotNews.of_finding_eq_ok hfound
  have placed : a.metadata.ns = some key.ns := by
    obtain ⟨ns, hns⟩ := Option.ne_none_iff_exists'.mp (HotNews.ns_of_verdict well)
    rw [← quiet.sound.hotNews_key stored, hns]
    simp [Object.key, ObjectKey.ofMeta, hns]
  -- The effect tells what becomes of the Sources that are found. It leaves the versions open, so
  -- that the others are not touched at all is read off the calls.
  obtain ⟨cm', config', sends, elsewhere⟩ := searches f now quiet about stored live ok
  obtain rfl := Option.some.inj (config.symm.trans config')
  refine ⟨cm, owner, found, config, howner, sends, answer, ?_, ?_, ?_⟩
  · obtain ⟨b, hb, status⟩ := Option.map_eq_some_iff.mp (effect.status_eq stored)
    rw [hworked] at status
    exact ⟨b, _, hb, status, HotNews.sumsUp_summarized ..⟩
  · intro n hn b hfound
    obtain ⟨nm, hname, hkey, hb⟩ := Store.firstNamed_of_found quiet.sound named hfound
    have new : s.newOwner? settings key ⟨key.ns, nm⟩ = some owner := by
      rw [Store.newOwner?, stored]
      exact HotNews.newOwner?_of_found placed config howner hn hname
    obtain ⟨c, hc, owners⟩ := effect.owners_eq new hb
    refine ⟨c, hkey ▸ hc, ?_, fun free => ?_⟩
    · change c.metadata.owners.any (·.uid == owner.uid) = true
      rw [owners]
      exact (Source.isOwnedBy_withOwner b owner owner.uid).trans (by simp)
    · rw [owners, Source.countP_withOwner free]
  · intro k other
    refine elsewhere k ?_
    rintro ⟨hns, n, hn, hname⟩
    obtain ⟨b, hfound, hbname⟩ := Option.bind_eq_some_iff.mp hname
    refine other n hn b hfound ?_
    obtain ⟨nm, hname', hkey, -⟩ := Store.firstNamed_of_found quiet.sound named hfound
    obtain rfl := Option.some.inj (hname.symm.trans hname')
    rw [hkey, ← hns]

end Visit

/-! ## The default, stored -/

namespace Store

variable {settings : Settings} {key : ObjectKey} {s t : Store} {a b : HotNews}

/-- A store in which the default was written to the HotNews under a key. -/
structure Defaulted (key : ObjectKey) (a b : HotNews) (s t : Store) : Prop where
  stored : t.hotNews.get? key = some b
  same : b.unversioned = a.withDefaults.unversioned
  elsewhere : ∀ k, k ≠ key → t.hotNews.get? k = s.hotNews.get? k
  rest : s.SameButHotNews t

/-- What is stored with a namespace and a UID keeps them when it is stored again. -/
theorem stamp_of_some {m : Meta} (version : String) (placed : m.ns ≠ none)
    (identified : m.uid ≠ none) : stamp version m = { m with resourceVersion := some version } := by
  obtain ⟨ns, hns⟩ := Option.ne_none_iff_exists'.mp placed
  obtain ⟨uid, huid⟩ := Option.ne_none_iff_exists'.mp identified
  simp [stamp, hns, huid]

theorem defaulted_insert (hs : s.Sound) (stored : s.hotNews.get? key = some a)
    (placed : a.metadata.ns ≠ none) (identified : a.metadata.uid ≠ none) :
    ∃ b, Defaulted key a b s (s.insert (.hotNews a.withDefaults)) := by
  have hkey : ObjectKey.ofMeta a.metadata = key := hs.hotNews_key stored
  have hstamp := stamp_of_some (versionText (s.version + 1)) placed identified
  have same : ObjectKey.ofMeta (stamp (versionText (s.version + 1)) a.metadata) = key := by
    rw [hstamp]
    exact hkey
  have hget := fun k => Catalog.get?_insert s.hotNews
    (.ofMeta (stamp (versionText (s.version + 1)) a.metadata)) k
    { a.withDefaults with metadata := stamp (versionText (s.version + 1)) a.metadata }
  refine ⟨_, (hget key).trans (if_pos same.symm), ?_, fun k hk => ?_, rfl, rfl⟩
  · rw [hstamp]
    rfl
  · exact (hget k).trans (if_neg fun h => hk (h.trans same))

namespace Defaulted

theorem wish_eq (h : Defaulted key a b s t) : b.wish = a.withDefaults.wish := by
  have := congrArg Object.wish h.same
  exact this

theorem isDeleted_eq (h : Defaulted key a b s t) :
    b.metadata.isDeleted = a.metadata.isDeleted := by
  have := congrArg (·.metadata.isDeleted) h.same
  exact this

theorem stay (h : Defaulted key a b s t) (live : a.metadata.isDeleted = false)
    (hs : s.NoneLeaving) : t.NoneLeaving := by
  refine ⟨h.rest.sources ▸ hs.sources, fun k c hc leaving => ?_⟩
  by_cases hk : k = key
  · -- What was written again is as live as it was.
    obtain rfl := Option.some.inj ((hk ▸ hc).symm.trans h.stored)
    cases leaving.isMarked.symm.trans (h.isDeleted_eq.trans live)
  · rw [h.elsewhere k hk] at hc
    exact hs.hotNews k c hc leaving

theorem config?_eq (h : Defaulted key a b s t) :
    HotNews.config? settings t = HotNews.config? settings s := by
  unfold HotNews.config?
  rw [h.rest.configMaps]

theorem verdict_eq (f : Service) (h : Defaulted key a b s t) :
    b.verdict f settings (HotNews.config? settings t) =
      a.verdict f settings (HotNews.config? settings s) := by
  rw [HotNews.verdict_congr h.wish_eq, HotNews.verdict_withDefaults, h.config?_eq]

theorem status_worked_eq {f : Service} {action : Action} (now : String)
    (h : Defaulted key a b s t)
    (well : a.verdict f settings (HotNews.config? settings s) = .ok action) :
    (b.worked f settings (HotNews.config? settings t) now).status =
      (a.worked f settings (HotNews.config? settings s) now).status := by
  have same : (b.worked f settings (HotNews.config? settings s) now).unversioned =
      (a.withDefaults.worked f settings (HotNews.config? settings s) now).unversioned := by
    rw [HotNews.unversioned_worked, HotNews.unversioned_worked, h.same]
  rw [h.config?_eq]
  exact (congrArg Object.status same).trans (HotNews.status_worked_withDefaults now well)

theorem newOwner?_eq (h : Defaulted key a b s t) (stored : s.hotNews.get? key = some a)
    (k : ObjectKey) : t.newOwner? settings key k = s.newOwner? settings key k := by
  rw [newOwner?, newOwner?, h.stored, stored, Option.bind_some, Option.bind_some,
    ← a.newOwner?_withDefaults]
  refine HotNews.newOwner?_congr h.wish_eq h.rest.configMaps (fun ns n => ?_) k
  unfold firstNamed
  rw [h.rest.sources]

end Defaulted

end Store

namespace Visit

/-- Passes over two stores that do the same for the HotNews under a key: they have the same result,
make the same request and no other, and leave the same status, and the same Sources but for their
versions. -/
structure Agree (f : Service) (now : String) (visit : Visit) (key : ObjectKey) (c : ServiceCall)
    (s t : Store) : Prop where
  result : (visit.run f now t).1 = (visit.run f now s).1
  request : SendsOnly c (visit.journal f now s) ∧ SendsOnly c (visit.journal f now t)
  status : ((visit.run f now t).2.hotNews.get? key).map (·.status) =
    ((visit.run f now s).2.hotNews.get? key).map (·.status)
  sources : ∀ k, (visit.run f now t).2.sources.view k = (visit.run f now s).2.sources.view k

variable {visit : Visit} {settings : Settings} {key : ObjectKey} {s t : Store} {a b : HotNews}
variable {action : Action} {cm : ConfigMap}

/-- **It makes no difference whether the default is written** to the HotNews before a visit. -/
theorem agree_of_defaulted (f : Service) (now : String) (quiet : s.Quiet) (quiet' : t.Quiet)
    (h : Store.Defaulted key a b s t) (about : visit.subject? = some (.hotNews settings key))
    (stored : s.hotNews.get? key = some a) (live : a.metadata.isDeleted = false)
    (ok : (visit.run f now s).1 = .ok action) (config : HotNews.config? settings s = some cm) :
    visit.Agree f now key (.fetch (a.query cm)) s t := by
  have live' : b.metadata.isDeleted = false := h.isDeleted_eq.trans live
  have effect := Visit.effect f now quiet about ⟨a, stored, live⟩
  have effect' := Visit.effect f now quiet' about ⟨b, h.stored, live'⟩
  have result : (visit.run f now t).1 = (visit.run f now s).1 := by
    rw [effect.result, effect'.result, Subject.verdict, Subject.verdict, stored, h.stored,
      Option.elim_some, Option.elim_some, h.verdict_eq f]
  obtain ⟨_, well⟩ := Subject.verdict_of_ok stored (ok ▸ effect.result)
  obtain ⟨_, config₁, sends, -⟩ := searches f now quiet about stored live ok
  obtain ⟨_, config₂, sends', -⟩ :=
    searches f now quiet' about h.stored live' (result.trans ok)
  obtain rfl := Option.some.inj (config.symm.trans config₁)
  obtain rfl := Option.some.inj (config.symm.trans (h.config?_eq ▸ config₂))
  refine ⟨result, ⟨sends, ?_⟩, ?_, fun k => ?_⟩
  · rwa [HotNews.query_congr h.wish_eq, HotNews.query_withDefaults] at sends'
  · rw [effect.status_eq stored, effect'.status_eq h.stored, h.status_worked_eq now well]
  · rw [effect.sources, effect'.sources, Subject.onSource, Subject.onSource,
      h.newOwner?_eq stored, Catalog.view, Catalog.view, h.rest.sources]

/-- **A pass over a live HotNews that goes well writes the right summary and links.** Let the store
be one that comes about and shows no failure, with a finalizer on every object that is marked for
deletion and a name on every Source. The pass goes well if the groups are there, the HotNews can be
named as an owner and the service finds articles. If it goes well it made one request, for what the
HotNews asks for; the status sums up the answer; the first Source of each short name that was
searched is owned by the HotNews, and no other Source has changed. With the default written to the
HotNews before, the pass makes the same request, and leaves the same status and the same links. -/
theorem summary_written (f : Service) (now : String) (built : s.Built) (calm : s.Calm)
    (stay : s.NoneLeaving) (named : ∀ k b, s.sources.get? k = some b → b.metadata.name ≠ none)
    (about : visit.subject? = some (.hotNews settings key)) (stored : s.hotNews.get? key = some a)
    (live : a.metadata.isDeleted = false) :
    (∀ cm found, a.metadata.ns ≠ none → a.ownerReference? ≠ none →
      s.configMaps.get? ⟨settings.feedGroup.ns, settings.feedGroup.name⟩ = some cm →
      f (.fetch (a.query cm)) = .ok found →
        (visit.run f now s).1 = .ok (.requeue settings.resync)) ∧
    ∀ action, (visit.run f now s).1 = .ok action → ∃ cm uid found,
      s.configMaps.get? ⟨settings.feedGroup.ns, settings.feedGroup.name⟩ = some cm ∧
      a.metadata.uid = some uid ∧
      HotNews.Summary f key a cm uid found s (visit.journal f now s) (visit.run f now s).2 ∧
      visit.Agree f now key (.fetch (a.query cm)) s (s.insert (.hotNews a.withDefaults)) := by
  have quiet : s.Quiet := ⟨built.sound, calm, stay⟩
  have effect := Visit.effect f now quiet about ⟨a, stored, live⟩
  refine ⟨fun cm found placed howner config answer => ?_, fun action ok => ?_⟩
  · have well : a.verdict f settings (HotNews.config? settings s) =
        .ok (.requeue settings.resync) :=
      HotNews.verdict_of_found placed howner config answer
    rw [effect.result, Subject.verdict, stored, Option.elim_some, well]
    rfl
  obtain ⟨cm, owner, found, config, howner, summary⟩ :=
    summary f now quiet named about stored live ok
  obtain ⟨_, well⟩ := Subject.verdict_of_ok stored (ok ▸ effect.result)
  have identified := HotNews.uid_of_ownerReference? howner
  obtain ⟨b, defaulted⟩ := Store.defaulted_insert quiet.sound stored (HotNews.ns_of_verdict well)
    (by simp [identified])
  have quiet' : (s.insert (.hotNews a.withDefaults)).Quiet :=
    ⟨Store.sound_insert quiet.sound _, ⟨calm.1, calm.2, calm.3⟩, defaulted.stay live stay⟩
  exact ⟨cm, owner.uid, found, config, identified, summary,
    agree_of_defaulted f now quiet quiet' defaulted about stored live ok config⟩

/-- A service that finds a dozen articles. -/
def wire : Service :=
  Rehearsal.reply (fun _ => "https://example.com/articles")
    (.found ["1", "2", "3", "4", "5", "6", "7", "8", "9", "10", "11", "12"] none)

/-- Of a dozen articles ten make it into the status, and the Source keeps its other owner. -/
theorem world_summed_up :
    (((worldVisit.run wire "now" newsroom).2.hotNews.get? ⟨"news", "world"⟩).bind (·.status)).map
        (fun status => (status.articlesCount, status.newsLink, status.articlesTitles)) =
      some (12, "https://example.com/articles",
        ["1", "2", "3", "4", "5", "6", "7", "8", "9", "10"]) ∧
    ((worldVisit.run wire "now" newsroom).2.sources.get? ⟨"news", "bbc"⟩).map
      (·.metadata.owners.map (·.uid)) = some ["uid-other", "uid-world"] ∧
    ∃ a cm uid found, newsroom.hotNews.get? ⟨"news", "world"⟩ = some a ∧
      HotNews.Summary wire ⟨"news", "world"⟩ a cm uid found newsroom
        (worldVisit.journal wire "now" newsroom) (worldVisit.run wire "now" newsroom).2 ∧
      worldVisit.Agree wire "now" ⟨"news", "world"⟩ (.fetch (a.query cm)) newsroom
        (newsroom.insert (.hotNews a.withDefaults)) := by
  have stay : newsroom.NoneLeaving := .of_entries (by decide +kernel) (by decide +kernel)
  have entries : ∀ e ∈ newsroom.sources.entries, e.2.metadata.name ≠ none := by decide +kernel
  have ok : (worldVisit.run wire "now" newsroom).1 = .ok (.requeue 300) := by decide +kernel
  obtain ⟨a, stored, live⟩ : Subject.IsLive newsroom (.hotNews {} ⟨"news", "world"⟩) :=
    ⟨_, rfl, rfl⟩
  obtain ⟨cm, uid, found, -, -, summary, agree⟩ := (summary_written wire "now" built_newsroom
    ⟨rfl, rfl, rfl⟩ stay (fun _ _ hb => entries _ (Catalog.mem_of_lookup hb)) rfl stored live).2
      _ ok
  exact ⟨by decide +kernel, by decide +kernel, a, cm, uid, found, stored, summary, agree⟩

end Visit

end FeedOperator
