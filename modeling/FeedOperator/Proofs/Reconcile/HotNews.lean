import FeedOperator.Proofs.Reconcile.Owners
import FeedOperator.Reconcile.HotNews

/-!
# What a pass over a HotNews does

* `HotNews.failed`: what is written to the status when a step fails.
* `HotNews.released`, `HotNews.held`: what is written to release the finalizer or to hold it.
* `HotNews.Held`, `HotNews.Refreshed`, `HotNews.Finalized`: what the parts of a pass can do.
* `HotNews.Course`: all that a pass can do, with its calls, its result and the store after it.

Results:
* `fail_leads`, `refresh_leads`, `ensureFinalizer_leads`, `finalize_leads`: the parts.
* `course_of_leads`, `reconcile_leads`: a pass takes one of the courses, unless the given object
  does not say where it is stored.
* `Course.relinks`, `Course.relinked`: a pass relinks Sources of the namespace at most, and changes
  owners with the UID of its HotNews alone.
* `Course.kept`: a pass changes no more of its HotNews than finalizers, status and version.
* `Course.onlySearches`: a pass asks the service for articles, and for nothing else.
-/

namespace FeedOperator

namespace HotNews

/-! ## What is written -/

/-- The HotNews with a condition on its status that tells of a failure. -/
def failed (now : String) (hotNews : HotNews) (kind : Condition.Kind)
    (reason : Condition.Reason) (error : HotNewsError) : HotNews :=
  let status := hotNews.statusOrEmpty
  let condition := Condition.make kind false now reason.text error.message
  { hotNews with status := some { status with conditions := condition.put status.conditions } }

/-- The HotNews without its finalizer. -/
abbrev released (hotNews : HotNews) : HotNews :=
  hotNews.releasedBy finalizer

/-- The HotNews with its finalizer. -/
abbrev held (hotNews : HotNews) : HotNews :=
  hotNews.heldBy finalizer

/-- The error of a pass that wrote of its failure: an error of the write takes its place. -/
def reported (error : HotNewsError) : Except StoreError HotNews → HotNewsError
  | .error e => .updateStatus e
  | .ok _ => error

/-- The short names that a HotNews searches. -/
def effective (hotNews : HotNews) (cm : ConfigMap) : List String :=
  FeedGroups.effectiveSources cm.texts hotNews.spec.sources hotNews.spec.feedGroups

/-- The query of a HotNews. -/
def query (hotNews : HotNews) (cm : ConfigMap) : ArticleQuery where
  keywords := hotNews.spec.keywords
  dateStart := hotNews.spec.dateStart
  dateEnd := hotNews.spec.dateEnd
  sources := hotNews.effective cm

/-- The HotNews after a search that went well. -/
def searched (now : String) (hotNews : HotNews) (found : ArticleSummary) : HotNews :=
  { hotNews with
    status := some (summarized now hotNews.spec hotNews.statusOrEmpty.conditions found) }

/-- The kind of the condition that a pass over a HotNews leaves. -/
def nextKind (hotNews : HotNews) : Condition.Kind :=
  .next hotNews.statusOrEmpty.conditions

/-! ## The parts of a pass -/

variable {w : Climate} {s u : Store} {es : List Event} {hotNews : HotNews} {now : String}
variable {settings : Settings}

/-- A failure that was written of: one write of the status, and then the error. -/
inductive Failed (w : Climate) (now : String) (s : Store) (hotNews : HotNews)
    (kind : Condition.Kind) (reason : Condition.Reason) (error : HotNewsError) :
    List Event → Except HotNewsError Unit → Store → Prop
  | reported {t : Store} (meets : w.Meets s t) :
    Failed w now s hotNews kind reason error
      [.ofStore (.replaceHotNewsStatus (hotNews.failed now kind reason error))
        (t.replaceHotNewsStatus (hotNews.failed now kind reason error)).1]
      (.error (reported error
        (t.replaceHotNewsStatus (hotNews.failed now kind reason error)).1))
      (t.replaceHotNewsStatus (hotNews.failed now kind reason error)).2

theorem fail_leads {kind : Condition.Kind} {reason : Condition.Reason} {error : HotNewsError}
    {r : Except HotNewsError Unit}
    (h : (fail now hotNews kind reason error : Attempt HotNewsError Unit).run.LeadsIn w s es r u) :
    Failed w now s hotNews kind reason error es r u := by
  unfold fail at h
  rcases Attempt.leads_bind_iff.mp h with ⟨e, hwrite, rfl⟩ | ⟨_, _, _, _, hwrite, hthrow, rfl⟩
  · obtain ⟨t, meets, rfl, hr, rfl⟩ := Attempt.leads_store_iff.mp hwrite
    change _ = Except.mapError _
      (t.replaceHotNewsStatus (hotNews.failed now kind reason error)).1 at hr
    obtain rfl : e = reported error
        (t.replaceHotNewsStatus (hotNews.failed now kind reason error)).1 := by
      cases hw : (t.replaceHotNewsStatus (hotNews.failed now kind reason error)).1 with
      | error _ => rw [hw] at hr; cases hr; rfl
      | ok _ => rw [hw] at hr; cases hr
    exact .reported meets
  · obtain ⟨t, meets, rfl, hr, rfl⟩ := Attempt.leads_store_iff.mp hwrite
    obtain ⟨rfl, rfl, rfl⟩ := Attempt.leads_throw_iff.mp hthrow
    change _ = Except.mapError _
      (t.replaceHotNewsStatus (hotNews.failed now kind reason error)).1 at hr
    have hresult : reported error
        (t.replaceHotNewsStatus (hotNews.failed now kind reason error)).1 = error := by
      cases hw : (t.replaceHotNewsStatus (hotNews.failed now kind reason error)).1 with
      | error _ => rw [hw] at hr; cases hr
      | ok _ => rfl
    have failed : Failed w now _ hotNews kind reason error _ _ _ := .reported meets
    rwa [hresult] at failed

/-- The ConfigMap with the feed groups. -/
def config? (settings : Settings) (s : Store) : Option ConfigMap :=
  s.configMaps.get? ⟨settings.feedGroup.ns, settings.feedGroup.name⟩

/-- The lookup of the ConfigMap with the feed groups. -/
def lookup (settings : Settings) (s : Store) : Event :=
  .ofStore (.getConfigMap settings.feedGroup.ns settings.feedGroup.name)
    (.ok (s.configMaps.get? ⟨settings.feedGroup.ns, settings.feedGroup.name⟩))

/-- All that resolving, linking, searching and writing the summary can do. -/
inductive Refreshed (w : Climate) (settings : Settings) (now : String) (s : Store)
    (hotNews : HotNews) : List Event → Except HotNewsError Unit → Store → Prop
  | unplaced (h : hotNews.metadata.ns = none) :
    Refreshed w settings now s hotNews [] (.error (.missingField "metadata.namespace")) s
  | unconfigured {ns : String} {es : List Event} {r : Except HotNewsError Unit} {t u : Store}
    (placed : hotNews.metadata.ns = some ns) (meets : w.Meets s t)
    (missing : s.configMaps.get? ⟨settings.feedGroup.ns, settings.feedGroup.name⟩ = none)
    (fails : Failed w now t hotNews hotNews.nextKind .configMapNotFound
      (.configMapNotFound settings.feedGroup) es r u) :
    Refreshed w settings now s hotNews (lookup settings s :: es) r u
  | unlinked {ns : String} {cm : ConfigMap} {links es : List Event} {t v : Store} {e : StoreError}
    {r : Except HotNewsError Unit} {u : Store} (placed : hotNews.metadata.ns = some ns)
    (meets : w.Meets s t)
    (config : s.configMaps.get? ⟨settings.feedGroup.ns, settings.feedGroup.name⟩ = some cm)
    (linking : (linkSources ns hotNews (hotNews.effective cm)).run.LeadsIn w t links (.error e) v)
    (fails : Failed w now v hotNews hotNews.nextKind .ownerReferenceFailed (.ownerReference e)
      es r u) :
    Refreshed w settings now s hotNews (lookup settings s :: (links ++ es)) r u
  | unfetched {ns : String} {cm : ConfigMap} {links es : List Event} {linked : List String}
    {t v : Store} {e : ServiceError} {r : Except HotNewsError Unit} {u : Store}
    (placed : hotNews.metadata.ns = some ns) (meets : w.Meets s t)
    (config : s.configMaps.get? ⟨settings.feedGroup.ns, settings.feedGroup.name⟩ = some cm)
    (linking : (linkSources ns hotNews (hotNews.effective cm)).run.LeadsIn w t links
      (.ok linked) v)
    (fails : Failed w now v hotNews hotNews.nextKind .fetchArticlesFailed (.fetchArticles e)
      es r u) :
    Refreshed w settings now s hotNews
      (lookup settings s :: (links ++ .ofService (.fetch (hotNews.query cm)) (.error e) :: es)) r u
  | unwritten {ns : String} {cm : ConfigMap} {links es : List Event} {linked : List String}
    {t v x : Store} {found : ArticleSummary} {e : StoreError} {r : Except HotNewsError Unit}
    {u : Store} (placed : hotNews.metadata.ns = some ns) (meets : w.Meets s t)
    (config : s.configMaps.get? ⟨settings.feedGroup.ns, settings.feedGroup.name⟩ = some cm)
    (linking : (linkSources ns hotNews (hotNews.effective cm)).run.LeadsIn w t links
      (.ok linked) v)
    (writes : w.Meets v x)
    (refused : (x.replaceHotNewsStatus (hotNews.searched now found)).1 = .error e)
    (fails : Failed w now (x.replaceHotNewsStatus (hotNews.searched now found)).2
      (hotNews.searched now found) hotNews.nextKind .updateStatusFailed (.updateStatus e) es r u) :
    Refreshed w settings now s hotNews
      (lookup settings s :: (links ++ .ofService (.fetch (hotNews.query cm)) (.ok found) ::
        .ofStore (.replaceHotNewsStatus (hotNews.searched now found)) (.error e) :: es)) r u
  | summarized {ns : String} {cm : ConfigMap} {links : List Event} {linked : List String}
    {t v x : Store} {found : ArticleSummary} {written : HotNews}
    (placed : hotNews.metadata.ns = some ns) (meets : w.Meets s t)
    (config : s.configMaps.get? ⟨settings.feedGroup.ns, settings.feedGroup.name⟩ = some cm)
    (linking : (linkSources ns hotNews (hotNews.effective cm)).run.LeadsIn w t links
      (.ok linked) v)
    (writes : w.Meets v x)
    (write : (x.replaceHotNewsStatus (hotNews.searched now found)).1 = .ok written) :
    Refreshed w settings now s hotNews
      (lookup settings s :: (links ++ [.ofService (.fetch (hotNews.query cm)) (.ok found),
        .ofStore (.replaceHotNewsStatus (hotNews.searched now found)) (.ok written)])) (.ok ())
      (x.replaceHotNewsStatus (hotNews.searched now found)).2

theorem refresh_leads {r : Except HotNewsError Unit}
    (h : (refresh settings now hotNews).run.LeadsIn w s es r u) :
    Refreshed w settings now s hotNews es r u := by
  unfold refresh at h
  cases hns : hotNews.metadata.ns with
  | none =>
    rw [hns] at h
    obtain ⟨rfl, rfl, rfl⟩ := Attempt.leads_throw_iff.mp h
    exact .unplaced hns
  | some ns =>
    rw [hns] at h
    obtain ⟨config, _, _, back, hlookup, hback, rfl⟩ := Attempt.leads_catch_iff.mp h
    obtain ⟨t, meets, rfl, rfl, rfl⟩ := Pass.leads_store_iff.mp hlookup
    have same := w.sameObjects meets
    have hfirst : .ofStore (.getConfigMap settings.feedGroup.ns settings.feedGroup.name)
        (t.answer (.getConfigMap settings.feedGroup.ns settings.feedGroup.name)).1 =
          lookup settings s := by
      simp only [Store.answer, lookup, same.configMaps]
    rw [hfirst]
    simp only [Store.answer, same.configMaps] at hback
    cases hcm : s.configMaps.get? ⟨settings.feedGroup.ns, settings.feedGroup.name⟩ with
    | none =>
      rw [hcm] at hback
      exact .unconfigured hns meets hcm (fail_leads hback)
    | some cm =>
      rw [hcm] at hback
      obtain ⟨linked, v, links, back, hlink, hback, rfl⟩ := Attempt.leads_catch_iff.mp hback
      cases linked with
      | error e =>
        have := Refreshed.unlinked hns meets hcm hlink (fail_leads hback)
        exact this
      | ok linked =>
        obtain ⟨found, _, _, back, hfetch, hback, rfl⟩ := Attempt.leads_catch_iff.mp hback
        obtain ⟨rfl, rfl⟩ := Pass.leads_service_iff.mp hfetch
        cases found with
        | error e =>
          have := Refreshed.unfetched hns meets hcm hlink (fail_leads hback)
          exact this
        | ok found =>
          obtain ⟨write, _, _, back, hwrite, hback, rfl⟩ := Attempt.leads_catch_iff.mp hback
          obtain ⟨x, writes, rfl, hw, rfl⟩ := Pass.leads_store_iff.mp hwrite
          change write = (x.replaceHotNewsStatus (hotNews.searched now found)).1 at hw
          cases write with
          | error e =>
            have := Refreshed.unwritten hns meets hcm hlink writes hw.symm (fail_leads hback)
            rw [hw] at this
            exact this
          | ok written =>
            obtain ⟨rfl, rfl, rfl⟩ := Attempt.leads_pure_iff.mp hback
            have := Refreshed.summarized hns meets hcm hlink writes hw.symm
            rw [hw] at this
            exact this

/-- How the finalizer is made sure of: it is there, or it is written, which may fail. -/
inductive Held (w : Climate) (s : Store) (hotNews : HotNews) :
    List Event → Except HotNewsError HotNews → Store → Prop
  | already (h : hotNews.metadata.hasFinalizer finalizer = true) :
    Held w s hotNews [] (.ok hotNews) s
  | written {t : Store} (meets : w.Meets s t)
    (h : hotNews.metadata.hasFinalizer finalizer = false) :
    Held w s hotNews [.ofStore (.replaceHotNews hotNews.held) (t.replaceHotNews hotNews.held).1]
      ((t.replaceHotNews hotNews.held).1.mapError .store) (t.replaceHotNews hotNews.held).2

theorem ensureFinalizer_leads {r : Except HotNewsError HotNews}
    (h : (ensureFinalizer hotNews).run.LeadsIn w s es r u) : Held w s hotNews es r u := by
  unfold ensureFinalizer at h
  cases hf : hotNews.metadata.hasFinalizer finalizer with
  | true =>
    rw [Object.addFinalizer_of_hasFinalizer hf] at h
    obtain ⟨rfl, rfl, rfl⟩ := Attempt.leads_pure_iff.mp h
    exact .already hf
  | false =>
    rw [Object.addFinalizer_of_not_hasFinalizer hf] at h
    obtain ⟨t, meets, rfl, rfl, rfl⟩ := Attempt.leads_store_iff.mp h
    exact .written meets hf

/-- How a HotNews is taken from the owners of Sources: one without a UID owns none. -/
inductive Freed (w : Climate) (s : Store) (hotNews : HotNews) (ns : String) :
    List Event → Store → Prop
  | unidentified (h : hotNews.metadata.uid = none) : Freed w s hotNews ns [] s
  | unlinked {uid : String} {n : Nat} {es : List Event} {u : Store}
    (h : hotNews.metadata.uid = some uid)
    (unlinking : (unlinkSources ns uid).run.LeadsIn w s es (.ok n) u) : Freed w s hotNews ns es u

/-- How a HotNews that is marked for deletion is finalized: it does not have the finalizer, or
taking it from the owners of Sources fails, or the finalizer is released after that. -/
inductive Finalized (w : Climate) (s : Store) (hotNews : HotNews) :
    List Event → Except HotNewsError Action → Store → Prop
  | unheld (h : hotNews.metadata.hasFinalizer finalizer = false) :
    Finalized w s hotNews [] (.ok .awaitChange) s
  | unplaced (h : hotNews.metadata.hasFinalizer finalizer = true)
    (unplaced : hotNews.metadata.ns = none) :
    Finalized w s hotNews [] (.error (.missingField "metadata.namespace")) s
  | stuck {ns uid : String} {es : List Event} {e : StoreError} {u : Store}
    (h : hotNews.metadata.hasFinalizer finalizer = true) (placed : hotNews.metadata.ns = some ns)
    (identified : hotNews.metadata.uid = some uid)
    (unlinking : (unlinkSources ns uid).run.LeadsIn w s es (.error e) u) :
    Finalized w s hotNews es (.error (.store e)) u
  | released {ns : String} {es : List Event} {t v : Store}
    (h : hotNews.metadata.hasFinalizer finalizer = true) (placed : hotNews.metadata.ns = some ns)
    (frees : Freed w s hotNews ns es t) (writes : w.Meets t v) :
    Finalized w s hotNews
      (es ++ [.ofStore (.replaceHotNews hotNews.released) (v.replaceHotNews hotNews.released).1])
      (((v.replaceHotNews hotNews.released).1.mapError .store).map fun _ => .awaitChange)
      (v.replaceHotNews hotNews.released).2

theorem finalize_leads {r : Except HotNewsError Action}
    (h : (finalize hotNews).run.LeadsIn w s es r u) : Finalized w s hotNews es r u := by
  unfold finalize at h
  cases hf : hotNews.metadata.hasFinalizer finalizer with
  | false =>
    rw [if_pos (by simp [hf])] at h
    obtain ⟨rfl, rfl, rfl⟩ := Attempt.leads_pure_iff.mp h
    exact .unheld hf
  | true =>
    rw [if_neg (by simp [hf])] at h
    cases hns : hotNews.metadata.ns with
    | none =>
      rw [hns] at h
      obtain ⟨rfl, rfl, rfl⟩ := Attempt.leads_throw_iff.mp h
      exact .unplaced hf hns
    | some ns =>
      rw [hns] at h
      cases huid : hotNews.metadata.uid with
      | none =>
        rw [huid] at h
        obtain ⟨_, hwrite, rfl⟩ := Attempt.leads_thenReturn_iff.mp h
        obtain ⟨v, writes, rfl, rfl, rfl⟩ := Attempt.leads_store_iff.mp hwrite
        exact .released hf hns (.unidentified huid) writes
      | some uid =>
        rw [huid] at h
        obtain ⟨unlinked, _, front, back, hunlink, hback, rfl⟩ := Attempt.leads_catch_iff.mp h
        cases unlinked with
        | error e =>
          obtain ⟨rfl, rfl, rfl⟩ := Attempt.leads_throw_iff.mp hback
          rw [List.append_nil]
          exact .stuck hf hns huid hunlink
        | ok n =>
          obtain ⟨_, hwrite, rfl⟩ := Attempt.leads_thenReturn_iff.mp hback
          obtain ⟨v, writes, rfl, rfl, rfl⟩ := Attempt.leads_store_iff.mp hwrite
          exact .released hf hns (.unlinked huid hunlink) writes

/-! ## A whole pass -/

/-- The fresh read with which a pass starts. -/
def firstRead (s : Store) (ns name : String) : Event :=
  .ofStore (.getHotNews ns name) (.ok (s.hotNews.get? ⟨ns, name⟩))

/-- All that a pass over the HotNews under a key can do. -/
inductive Course (w : Climate) (settings : Settings) (now ns name : String) (s : Store) :
    List Event → Except HotNewsError Action → Store → Prop
  | absent {t : Store} (meets : w.Meets s t) (gone : s.hotNews.get? ⟨ns, name⟩ = none) :
    Course w settings now ns name s [firstRead s ns name] (.ok .awaitChange) t
  | finalized {hotNews : HotNews} {es : List Event} {r : Except HotNewsError Action} {t u : Store}
    (meets : w.Meets s t) (stored : s.hotNews.get? ⟨ns, name⟩ = some hotNews)
    (deleted : hotNews.metadata.isDeleted = true) (ends : Finalized w t hotNews es r u) :
    Course w settings now ns name s (firstRead s ns name :: es) r u
  | unheld {hotNews : HotNews} {es : List Event} {e : HotNewsError} {t u : Store}
    (meets : w.Meets s t) (stored : s.hotNews.get? ⟨ns, name⟩ = some hotNews)
    (live : hotNews.metadata.isDeleted = false) (holds : Held w t hotNews es (.error e) u) :
    Course w settings now ns name s (firstRead s ns name :: es) (.error e) u
  | refreshed {hotNews mine : HotNews} {holds es : List Event} {t v : Store}
    {r : Except HotNewsError Unit} {u : Store} (meets : w.Meets s t)
    (stored : s.hotNews.get? ⟨ns, name⟩ = some hotNews)
    (live : hotNews.metadata.isDeleted = false) (held : Held w t hotNews holds (.ok mine) v)
    (goes : Refreshed w settings now v mine es r u) :
    Course w settings now ns name s (firstRead s ns name :: (holds ++ es))
      (r.map fun _ => .requeue settings.resync) u

/-- **A pass takes one of the courses.** -/
theorem course_of_leads {ns name : String} {given : HotNews} {r : Except HotNewsError Action}
    (hns : given.metadata.ns = some ns) (hname : given.metadata.name = some name)
    (h : (reconcile settings now given).pass.LeadsIn w s es r u) :
    Course w settings now ns name s es r u := by
  unfold reconcile at h
  rw [hname, hns] at h
  dsimp only at h
  rcases Tracking.leads_bind_iff.mp h with
    ⟨e, hread, -⟩ | ⟨found, _, front, back, hread, hback, rfl⟩
  · obtain ⟨_, -, -, he, -⟩ := Attempt.leads_store_iff.mp hread
    cases he
  · obtain ⟨t, meets, rfl, hfound, rfl⟩ := Attempt.leads_store_iff.mp hread
    obtain rfl := Except.ok.inj hfound
    have same := w.sameObjects meets
    have hfirst : .ofStore (.getHotNews ns name) (t.answer (.getHotNews ns name)).1 =
        firstRead s ns name := by
      simp only [Store.answer, firstRead, same.hotNews]
    rw [hfirst]
    simp only [Store.answer, same.hotNews] at hback
    cases hg : s.hotNews.get? ⟨ns, name⟩ with
    | none =>
      rw [hg] at hback
      obtain ⟨rfl, rfl, rfl⟩ := Tracking.leads_forget_iff.mp hback
      exact .absent meets hg
    | some hotNews =>
      rw [hg] at hback
      dsimp only at hback
      cases hd : hotNews.metadata.isDeleted with
      | true =>
        rw [if_pos hd] at hback
        obtain ⟨r', hends, rfl⟩ := Tracking.leads_bind_forget_iff.mp hback
        rw [show r'.map (fun a => a) = r' from congrFun Except.map_id r']
        exact .finalized meets hg hd (finalize_leads hends)
      | false =>
        rw [if_neg (by simp [hd])] at hback
        rcases Tracking.leads_bind_iff.mp hback with
          ⟨e, hhold, rfl⟩ | ⟨mine, v, holds, rest, hhold, hrest, rfl⟩
        · exact .unheld meets hg hd (ensureFinalizer_leads hhold)
        · obtain ⟨_, hrefresh, rfl⟩ := Tracking.leads_bind_forget_iff.mp hrest
          have := Course.refreshed meets hg hd (ensureFinalizer_leads hhold)
            (refresh_leads hrefresh)
          exact this

/-- A pass takes one of the courses, or fails at once if the given object does not say where it is
stored. -/
theorem reconcile_leads {given : HotNews} {r : Except HotNewsError Action}
    (h : (reconcile settings now given).pass.LeadsIn w s es r u) :
    (∃ field, es = [] ∧ r = .error (.missingField field) ∧ s = u) ∨
      ∃ ns name, given.metadata.ns = some ns ∧ given.metadata.name = some name ∧
        Course w settings now ns name s es r u := by
  cases hname : given.metadata.name with
  | none =>
    unfold reconcile at h
    rw [hname] at h
    obtain ⟨rfl, rfl, rfl⟩ := Tracking.leads_throw_iff.mp h
    exact .inl ⟨_, rfl, rfl, rfl⟩
  | some name =>
    cases hns : given.metadata.ns with
    | none =>
      unfold reconcile at h
      rw [hname, hns] at h
      obtain ⟨rfl, rfl, rfl⟩ := Tracking.leads_throw_iff.mp h
      exact .inl ⟨_, rfl, rfl, rfl⟩
    | some ns => exact .inr ⟨ns, name, rfl, rfl, course_of_leads hns hname h⟩

/-! ## What a pass leaves -/

section Leaves

variable {ns name : String} {mine : HotNews} {t : Store}

/-- What holds once the finalizer was made sure of: the HotNews is stored with it. -/
structure Holding (s : Store) (hotNews mine : HotNews) (t : Store) : Prop extends
    s.hotNews.Holds finalizer hotNews mine t.hotNews where
  rest : s.SameButHotNews t

theorem Held.holding (h : Held w s hotNews es (.ok mine) t)
    (stored : s.hotNews.get? hotNews.key = some hotNews)
    (live : hotNews.metadata.isDeleted = false) : Holding s hotNews mine t := by
  generalize hr : (Except.ok mine : Except HotNewsError HotNews) = r at h
  cases h with
  | already hf =>
    cases hr
    exact ⟨⟨fun _ _ => rfl, stored, ⟨_, hotNews.metadata.resourceVersion, rfl⟩, hf⟩, rfl, rfl⟩
  | @written t meets hf =>
    have same := w.sameObjects meets
    rcases t.replaceHotNews_cases hotNews.held with
      ⟨e, he, _⟩ | ⟨old, written, hw, hreplaced, rest⟩
    · rw [he] at hr
      cases hr
    · rw [hw] at hr
      cases hr
      rw [same.hotNews] at hreplaced
      exact ⟨hreplaced.holds stored live, same.thenHotNews rest⟩

/-- A write of the status by one who knows the stored HotNews. -/
theorem writeStatus_cases {new : HotNews} (stored : t.hotNews.get? mine.key = some mine)
    (known : new.metadata = mine.metadata) :
    (∃ e, (t.replaceHotNewsStatus new).1 = .error e ∧
      t.SameObjects (t.replaceHotNewsStatus new).2) ∨
    ∃ version, (t.replaceHotNewsStatus new).1 = .ok (mine.withStatusOf new version) ∧
      t.SameButHotNews (t.replaceHotNewsStatus new).2 ∧
      ∀ k, (t.replaceHotNewsStatus new).2.hotNews.get? k =
        if k = mine.key then some (mine.withStatusOf new version) else t.hotNews.get? k := by
  have hkey : new.key = mine.key := congrArg ObjectKey.ofMeta known
  rcases t.replaceHotNewsStatus_cases new with ⟨e, he, hsame⟩ | ⟨old, written, hw, hreplaced, rest⟩
  · exact .inl ⟨e, he, hsame⟩
  · obtain ⟨version, rfl⟩ := hreplaced.written_eq
    obtain rfl := hreplaced.stored_eq (hkey ▸ stored)
    exact .inr ⟨version, hw, rest, hkey ▸ hreplaced.get?_eq⟩

theorem Held.sound {r : Except HotNewsError HotNews} (h : Held w s hotNews es r u) (hs : s.Sound) :
    u.Sound := by
  cases h with
  | already => exact hs
  | written meets => exact Store.sound_replaceHotNews (w.sound meets hs) _

/-- A store in which at most the HotNews under a key changed, and of that status and version. -/
abbrev Restated (key : ObjectKey) (s u : Store) : Prop :=
  s.HotNewsChange Object.Restated (fun _ => False) (· = key) u

theorem Restated.of_sameObjects {key : ObjectKey} (same : s.SameObjects u) : Restated key s u :=
  Store.HotNewsChange.of_sameObjects Object.restated_evolution same

theorem Restated.trans {key : ObjectKey} (hst : Restated key s t) (htu : Restated key t u) :
    Restated key s u :=
  Store.HotNewsChange.trans Object.restated_evolution hst htu

/-- A write of the status before which the failures that are due may change. -/
theorem restated_of_writeStatus {key : ObjectKey} {new : HotNews} (meets : w.Meets s t)
    (hk : new.key = key) : Restated key s (t.replaceHotNewsStatus new).2 :=
  (Restated.of_sameObjects (w.sameObjects meets)).trans <|
    hk ▸ Store.HotNewsChange.of_replaceStatus Object.restated_evolution
      fun a _ version => Object.restated_withStatusOf a new version

theorem Failed.restated {kind : Condition.Kind} {reason : Condition.Reason} {error : HotNewsError}
    {r : Except HotNewsError Unit} (h : Failed w now s hotNews kind reason error es r u) :
    Restated hotNews.key s u := by
  cases h with
  | reported meets => exact restated_of_writeStatus meets rfl

/-- A failure is written to the status of a stored HotNews, if such writes do not fail. -/
theorem Failed.written {kind : Condition.Kind} {reason : Condition.Reason} {error : HotNewsError}
    {r : Except HotNewsError Unit} (h : Failed .settled now s mine kind reason error es r u)
    (stored : s.hotNews.get? mine.key = some mine) (calm : s.failStatusWrites = false) :
    r = .error error ∧ ∃ version, u.hotNews.get? mine.key =
      some (mine.withStatusOf (mine.failed now kind reason error) version) := by
  obtain @⟨_, meets⟩ := h
  obtain rfl := Climate.settled_eq meets
  have hcurrent : s.hotNews.get? (mine.failed now kind reason error).key = some mine := stored
  obtain ⟨written, hok, hreplaced⟩ := Store.replaceHotNewsStatus_of_current calm hcurrent rfl
  have hu := hreplaced.get?_self
  obtain ⟨version, rfl⟩ := hreplaced.written_eq
  rw [hok]
  exact ⟨rfl, version, hu⟩

/-- What linking leaves: nothing happened, or the HotNews may have joined the owners of Sources of
its namespace that have a name. -/
inductive Linked (s : Store) (hotNews : HotNews) : Store → Prop
  | unchanged {t : Store} (h : s.SameObjects t) : Linked s hotNews t
  | joined {ns : String} {owner : OwnerReference} {t : Store}
    (placed : hotNews.metadata.ns = some ns) (known : hotNews.ownerReference? = some owner)
    (h : s.Relinked owner.uid [owner] (NamedIn ns (s.sources.inNamespace ns)) t) :
    Linked s hotNews t

theorem linked_of_leads {names : List String} {r : Except StoreError (List String)} (hs : s.Sound)
    (placed : hotNews.metadata.ns = some ns)
    (h : (linkSources ns hotNews names).run.LeadsIn w s es r u) : Linked s hotNews u := by
  rcases linkSources_leads hs h with hsame | ⟨owner, known, hrel⟩
  · exact .unchanged hsame
  · exact .joined placed known hrel

theorem Linked.of_sameObjects (same : s.SameObjects t) (h : Linked t hotNews u) :
    Linked s hotNews u := by
  cases h with
  | unchanged h => exact .unchanged (same.trans h)
  | joined placed known h =>
    rw [same.sources] at h
    exact .joined placed known (.trans (.of_sameObjects same) h)

/-- Refreshing links and then writes the status. -/
theorem Refreshed.leaves {r : Except HotNewsError Unit} (hs : s.Sound)
    (h : Refreshed w settings now s hotNews es r u) :
    ∃ t, Linked s hotNews t ∧ Restated hotNews.key t u := by
  have linked : ∀ {ns names links r t v}, w.Meets s t → hotNews.metadata.ns = some ns →
      (linkSources ns hotNews names).run.LeadsIn w t links r v → Linked s hotNews v :=
    fun meets placed linking =>
      (linked_of_leads (w.sound meets hs) placed linking).of_sameObjects (w.sameObjects meets)
  cases h with
  | unplaced => exact ⟨s, .unchanged ⟨rfl, rfl, rfl⟩, .refl Object.restated_evolution s⟩
  | unconfigured _ meets _ fails => exact ⟨_, .unchanged (w.sameObjects meets), fails.restated⟩
  | unlinked placed meets _ linking fails =>
    exact ⟨_, linked meets placed linking, fails.restated⟩
  | unfetched placed meets _ linking fails =>
    exact ⟨_, linked meets placed linking, fails.restated⟩
  | @unwritten _ _ _ _ _ _ _ _ found _ _ _ placed meets _ linking writes _ fails =>
    have hkey : (hotNews.searched now found).key = hotNews.key := rfl
    exact ⟨_, linked meets placed linking,
      (restated_of_writeStatus writes hkey).trans (hkey ▸ fails.restated)⟩
  | summarized placed meets _ linking writes =>
    exact ⟨_, linked meets placed linking, restated_of_writeStatus writes rfl⟩

theorem Held.sources_eq {r : Except HotNewsError HotNews} (h : Held w s hotNews es r u) :
    u.sources = s.sources := by
  cases h with
  | already => rfl
  | written meets => exact (Store.sources_replaceHotNews _ _).trans (w.sameObjects meets).sources

theorem Held.failStatusWrites_eq {r : Except HotNewsError HotNews}
    (h : Held .settled s hotNews es r u) : u.failStatusWrites = s.failStatusWrites := by
  cases h with
  | already => rfl
  | written meets =>
    obtain rfl := Climate.settled_eq meets
    exact s.failStatusWrites_answer (.replaceHotNews hotNews.held)

theorem uid_of_ownerReference? {owner : OwnerReference}
    (h : hotNews.ownerReference? = some owner) : hotNews.metadata.uid = some owner.uid := by
  unfold ownerReference? at h
  cases hname : hotNews.metadata.name with
  | none => rw [hname] at h; cases h
  | some name =>
    cases huid : hotNews.metadata.uid with
    | none => rw [hname, huid] at h; cases h
    | some uid =>
      rw [hname, huid] at h
      cases h
      rfl

/-- **Of Sources a pass over a HotNews touches those of its namespace, and of their owners those
with its own UID.** -/
theorem Course.relinks {r : Except HotNewsError Action} (hs : s.Sound)
    (h : Course w settings now ns name s es r u) :
    u.sources = s.sources ∨ ∃ hotNews uid new, s.hotNews.get? ⟨ns, name⟩ = some hotNews ∧
      hotNews.metadata.uid = some uid ∧
      s.sources.Changes (Source.Relinked uid new) Object.IsLeaving (·.ns = ns) u.sources := by
  have unlinked : ∀ {t v : Store} {hotNews : HotNews} {uid ns' : String} {links : List Event}
      {r : Except StoreError Nat}, w.Meets s t → s.hotNews.get? ⟨ns, name⟩ = some hotNews →
      hotNews.metadata.ns = some ns' → (unlinkSources ns' uid).run.LeadsIn w t links r v →
      s.sources.Changes (Source.Relinked uid []) Object.IsLeaving (·.ns = ns) v.sources := by
    intro t v hotNews uid ns' links r meets stored placed unlinking
    obtain rfl := hs.hotNews_ns stored placed
    rw [← (w.sameObjects meets).sources]
    exact ((unlinkSources_leads (w.sound meets hs) unlinking).1.widen fun _ h => h.1).sources
  cases h with
  | absent meets => exact .inl (w.sameObjects meets).sources
  | finalized meets stored _ ends =>
    have same := w.sameObjects meets
    cases ends with
    | unheld | unplaced => exact .inl same.sources
    | stuck _ placed identified unlinking =>
      exact .inr ⟨_, _, _, stored, identified, unlinked meets stored placed unlinking⟩
    | released _ placed frees writes =>
      rw [Store.sources_replaceHotNews, (w.sameObjects writes).sources]
      cases frees with
      | unidentified => exact .inl same.sources
      | unlinked identified unlinking =>
        exact .inr ⟨_, _, _, stored, identified, unlinked meets stored placed unlinking⟩
  | unheld meets _ _ holds => exact .inl (holds.sources_eq.trans (w.sameObjects meets).sources)
  | refreshed meets stored live held goes =>
    have same := w.sameObjects meets
    rw [← same.hotNews] at stored
    have ht := w.sound meets hs
    have hold := held.holding ((ht.hotNews_key stored).symm ▸ stored) live
    obtain ⟨v, hlinked, hrestated⟩ := goes.leaves (held.sound ht)
    rw [hrestated.rest.sources]
    rw [same.hotNews] at stored
    have hsame := held.sources_eq.trans same.sources
    cases hlinked with
    | unchanged same' => exact .inl (same'.sources.trans hsame)
    | joined placed known hrel =>
      obtain rfl := hs.hotNews_ns stored (hold.refinalized.kept.ns_eq ▸ placed)
      have hsources := hrel.sources
      rw [hsame] at hsources
      exact .inr ⟨_, _, _, stored, hold.refinalized.kept.uid_eq ▸ uid_of_ownerReference? known,
        hsources.mono id id fun _ h => h.1⟩

/-- A pass over a HotNews relinks Sources of its namespace. -/
theorem Course.relinked {r : Except HotNewsError Action} (hs : s.Sound)
    (h : Course w settings now ns name s es r u) :
    ∃ uid new, s.sources.Changes (Source.Relinked uid new) Object.IsLeaving (·.ns = ns)
      u.sources := by
  rcases h.relinks hs with same | ⟨_, uid, new, _, _, hrel⟩
  · rw [same]
    exact ⟨"", [], .refl (Source.relinked_evolution "" []) _⟩
  · exact ⟨uid, new, hrel⟩

theorem kept_of_replace {new : HotNews} (h : mine.Refinalized new)
    (stored : t.hotNews.get? mine.key = some mine) :
    t.hotNews.Changes Object.Kept Object.IsMarked (· = mine.key)
      (t.replaceHotNews new).2.hotNews := by
  have hkey : new.key = mine.key := h.kept.key_eq
  rw [← hkey] at stored ⊢
  rcases t.replaceHotNews_cases new with ⟨_, _, hsame⟩ | ⟨old, _, _, hreplaced, _⟩
  · rw [hsame.hotNews]
    exact .refl Object.kept_evolution _
  · obtain rfl := hreplaced.stored_eq stored
    exact hreplaced.kept h

theorem Held.kept {r : Except HotNewsError HotNews} (h : Held w s hotNews es r u)
    (stored : s.hotNews.get? hotNews.key = some hotNews) :
    s.hotNews.Changes Object.Kept Object.IsMarked (· = hotNews.key) u.hotNews := by
  cases h with
  | already => exact .refl Object.kept_evolution _
  | written meets =>
    rw [← (w.sameObjects meets).hotNews] at stored ⊢
    exact kept_of_replace (hotNews.refinalized_heldBy finalizer) stored

theorem Linked.hotNews_eq (h : Linked s hotNews u) : u.hotNews = s.hotNews := by
  cases h with
  | unchanged h => exact h.hotNews
  | joined _ _ h => exact h.rest.hotNews

theorem Freed.hotNews_eq (hs : s.Sound) (h : Freed w s hotNews ns es u) :
    u.hotNews = s.hotNews := by
  cases h with
  | unidentified => rfl
  | unlinked _ unlinking => exact (unlinkSources_leads hs unlinking).1.rest.hotNews

/-- **Of HotNews a pass changes nothing but finalizers, status and version of its own**, or removes
it if it was marked for deletion. -/
theorem Course.kept {r : Except HotNewsError Action} (hs : s.Sound)
    (h : Course w settings now ns name s es r u) :
    s.hotNews.Changes Object.Kept Object.IsMarked (· = ⟨ns, name⟩) u.hotNews := by
  have same : ∀ {u : Store}, u.hotNews = s.hotNews →
      s.hotNews.Changes Object.Kept Object.IsMarked (· = ⟨ns, name⟩) u.hotNews := by
    intro u hu
    rw [hu]
    exact .refl Object.kept_evolution _
  cases h with
  | absent meets => exact same (w.sameObjects meets).hotNews
  | finalized meets stored _ ends =>
    have ht := w.sound meets hs
    have hsame := (w.sameObjects meets).hotNews
    obtain ⟨hk, stored⟩ := w.hotNews_stands meets hs stored
    cases ends with
    | unheld | unplaced => exact same hsame
    | stuck _ _ _ unlinking =>
      exact same ((unlinkSources_leads ht unlinking).1.rest.hotNews.trans hsame)
    | released _ _ frees writes =>
      rw [← hk, ← hsame]
      rw [← frees.hotNews_eq ht, ← (w.sameObjects writes).hotNews] at stored ⊢
      exact kept_of_replace (Object.refinalized_releasedBy _ _) stored
  | unheld meets stored _ holds =>
    obtain ⟨hk, stored⟩ := w.hotNews_stands meets hs stored
    rw [← hk, ← (w.sameObjects meets).hotNews]
    exact holds.kept stored
  | refreshed meets stored live held goes =>
    obtain ⟨hk, stored⟩ := w.hotNews_stands meets hs stored
    rw [← hk, ← (w.sameObjects meets).hotNews]
    refine (held.kept stored).trans Object.kept_evolution ?_
    obtain ⟨v, hlinked, hrestated⟩ := goes.leaves (held.sound (w.sound meets hs))
    rw [← hlinked.hotNews_eq, ← (held.holding stored live).refinalized.kept.key_eq]
    exact hrestated.hotNews.mono (fun h => h.kept) (fun h => h.elim) fun _ => id

end Leaves

/-! ## Requests -/

theorem Held.withoutRequests {r : Except HotNewsError HotNews} (h : Held w s hotNews es r u) :
    WithoutRequests es := by
  cases h with
  | already => exact .nil
  | written => exact .cons_store .nil

theorem Failed.withoutRequests {kind : Condition.Kind} {reason : Condition.Reason}
    {error : HotNewsError} {r : Except HotNewsError Unit}
    (h : Failed w now s hotNews kind reason error es r u) : WithoutRequests es := by
  cases h with
  | reported => exact .cons_store .nil

theorem Finalized.withoutRequests {r : Except HotNewsError Action}
    (h : Finalized w s hotNews es r u) : WithoutRequests es := by
  cases h with
  | unheld | unplaced => exact .nil
  | stuck _ _ _ unlinking => exact withoutRequests_of_unlinking unlinking
  | released _ _ frees =>
    refine .append ?_ (.cons_store .nil)
    cases frees with
    | unidentified => exact .nil
    | unlinked _ unlinking => exact withoutRequests_of_unlinking unlinking

/-- Calls among which all requests to the service are searches. -/
def OnlySearches (es : List Event) : Prop :=
  ∀ c answer, .ofService c answer ∈ es → ∃ query, c = .fetch query

namespace OnlySearches

variable {front back : List Event}

theorem of_withoutRequests (h : WithoutRequests es) : OnlySearches es :=
  fun c answer hmem => absurd hmem (h c answer)

theorem append (hf : OnlySearches front) (hb : OnlySearches back) :
    OnlySearches (front ++ back) :=
  fun c answer h => (List.mem_append.mp h).elim (hf c answer) (hb c answer)

theorem cons_store {c : StoreCall} {answer : c.Answer} (h : OnlySearches es) :
    OnlySearches (.ofStore c answer :: es) :=
  fun c answer hmem => h c answer (Event.mem_of_mem_cons_store hmem)

theorem cons_search {query : ArticleQuery} {answer : Except ServiceError ArticleSummary}
    (h : OnlySearches es) : OnlySearches (.ofService (.fetch query) answer :: es) := by
  intro c answer hmem
  rcases List.mem_cons.mp hmem with heq | hmem
  · cases heq
    exact ⟨query, rfl⟩
  · exact h c answer hmem

end OnlySearches

theorem Refreshed.onlySearches {r : Except HotNewsError Unit}
    (h : Refreshed w settings now s hotNews es r u) : OnlySearches es := by
  cases h with
  | unplaced => exact .of_withoutRequests .nil
  | unconfigured _ _ _ fails => exact .of_withoutRequests (.cons_store fails.withoutRequests)
  | unlinked _ _ _ linking fails =>
    exact .of_withoutRequests (.cons_store ((withoutRequests_of_linking linking).append fails.withoutRequests))
  | unfetched _ _ _ linking fails =>
    refine .cons_store (.append (.of_withoutRequests (withoutRequests_of_linking linking)) (.cons_search ?_))
    exact .of_withoutRequests fails.withoutRequests
  | unwritten _ _ _ linking _ _ fails =>
    refine .cons_store (.append (.of_withoutRequests (withoutRequests_of_linking linking)) (.cons_search ?_))
    exact .of_withoutRequests (.cons_store fails.withoutRequests)
  | summarized _ _ _ linking =>
    refine .cons_store (.append (.of_withoutRequests (withoutRequests_of_linking linking)) (.cons_search ?_))
    exact .of_withoutRequests (.cons_store .nil)

/-- A pass over a HotNews asks the service for articles, and for nothing else. -/
theorem Course.onlySearches {ns name : String} {r : Except HotNewsError Action}
    (h : Course w settings now ns name s es r u) : OnlySearches es := by
  cases h with
  | absent => exact .of_withoutRequests (.cons_store .nil)
  | finalized _ _ _ ends => exact .of_withoutRequests (.cons_store ends.withoutRequests)
  | unheld _ _ _ holds => exact .of_withoutRequests (.cons_store holds.withoutRequests)
  | refreshed _ _ _ held goes =>
    exact .cons_store (.append (.of_withoutRequests held.withoutRequests) goes.onlySearches)

end HotNews

end FeedOperator
