import FeedOperator.Proofs.Admission.Apart
import FeedOperator.Proofs.Turn

/-!
# Releases and admission

A pass over an object that is marked for deletion ends with the write that takes the finalizer away.
The platform asks about that write as about every other change, and admission judges it by the
store as it is then.

* `Handling`: what the platform does with objects of one type.
* `Handling.Admits`: a request of a user that is allowed, and the store after it.
* `Store.Arises`: the stores that come about by such requests and by passes.
* `Store.Admitted`: what admission sees to, and passes keep.

Results:
* `Arises.admitted`: every such store is admitted.
* `release_allowed_iff`: the release of a Source is always allowed, that of a HotNews exactly if all
  it searches is known in its namespace.
* `release_denied`: a HotNews that names a Source which has gone is not released.

Deletions of Sources are never denied, so no invariant can keep the names of a HotNews known.
-/

namespace FeedOperator

/-! ## Requests -/

namespace AdmissionRequest

variable {α : Type}

/-- The question about an object that is to be stored. -/
def creating (uid : String) (ns : Option String) (object : α) : AdmissionRequest α :=
  { uid := uid, operation := .create, ns := ns, object := some object }

/-- The question about an object that is to take the place of a stored one. -/
def updating (uid : String) (ns : Option String) (old object : α) : AdmissionRequest α :=
  { uid := uid, operation := .update, ns := ns, object := some object, oldObject := some old }

/-- The question about a stored object that is to be deleted. -/
def deleting (uid : String) (ns : Option String) (old : α) : AdmissionRequest α :=
  { uid := uid, operation := .delete, ns := ns, oldObject := some old }

end AdmissionRequest

/-- What the platform does with objects of one type. -/
structure Handling (α : Type) where
  rules : AdmissionRules α
  key : α → ObjectKey
  find : Store → ObjectKey → Option α
  insert : Store → α → Store
  replace : Store → α → Store
  delete : Store → ObjectKey → Store

/-- A request of a user: the platform asks about it, and does as it was told if it is allowed. -/
inductive Handling.Admits {α : Type} (h : Handling α) (s : Store) : Store → Prop
  | create (review : AdmissionReview α) (uid : String) (ns : Option String) (a : α)
    (allowed : h.rules.allows review (.creating uid ns a) s = true) :
    Admits h s (h.insert s (h.rules.placed ns a))
  | update (review : AdmissionReview α) (uid : String) (ns : Option String) (old a : α)
    (stored : h.find s (h.key (h.rules.placed ns a)) = some old)
    (allowed : h.rules.allows review (.updating uid ns old a) s = true) :
    Admits h s (h.replace s (h.rules.placed ns a))
  | delete (review : AdmissionReview α) (uid : String) (ns : Option String) (old : α)
    (stored : h.find s (h.key old) = some old)
    (allowed : h.rules.allows review (.deleting uid ns old) s = true) :
    Admits h s (h.delete s (h.key old))

/-- What the platform does with Sources. -/
def Source.handling : Handling Source where
  rules := Source.rules
  key := Object.key
  find s := s.sources.get?
  insert := Store.insertSource
  replace s a := (s.replaceSource a).2
  delete := Store.deleteSource

/-- What the platform does with HotNews. -/
def HotNews.handling (target : FeedGroupRef) : Handling HotNews where
  rules := HotNews.rules target
  key := Object.key
  find s := s.hotNews.get?
  insert := Store.insertHotNews
  replace s a := (s.replaceHotNews a).2
  delete := Store.deleteHotNews

/-- What the platform does with ConfigMaps. They have no finalizers. -/
def ConfigMap.handling (target : FeedGroupRef) : Handling ConfigMap where
  rules := ConfigMap.rules target
  key cm := .ofMeta cm.metadata
  find s := s.configMaps.get?
  insert := Store.insertConfigMap
  replace := Store.insertConfigMap
  delete s key := { s with configMaps := s.configMaps.erase key }

namespace Store

/-- The stores that come about by requests that are allowed and by passes. During a pass the store
may be told how to fail, but users find it answering their requests. -/
inductive Arises (target : FeedGroupRef) : Store → Prop
  | empty : Arises target {}
  | source {s t : Store} (h : Arises target s) (request : Source.handling.Admits s t) :
    Arises target t
  | hotNews {s t : Store} (h : Arises target s) (request : (HotNews.handling target).Admits s t) :
    Arises target t
  | configMap {s t : Store} (h : Arises target s)
    (request : (ConfigMap.handling target).Admits s t) : Arises target t
  | pass {s t : Store} {turn : Turn} {es : List Event} (h : Arises target s)
    (pass : turn.IsPass) (run : turn.Leads s es t) (listed : t.failLists = false) :
    Arises target t

/-! ## What admission sees to -/

/-- What admission sees to, and passes keep: Sources are well formed and apart from each other, and
keywords and dates of HotNews are in order. -/
structure Admitted (s : Store) : Prop where
  sound : s.Sound
  listed : s.failLists = false
  tidy : s.Tidy
  stated : ∀ k h, s.hotNews.get? k = some h → HotNews.specErrors h.spec = []

variable {s t : Store} {target : FeedGroupRef}

theorem admitted_empty : Admitted {} where
  sound := Built.empty.sound
  listed := rfl
  tidy := tidy_empty
  stated _ _ h := nomatch h

/-- A change that keeps specs. -/
theorem Admitted.of_keepsSpecs (h : s.Admitted) (sound : t.Sound)
    (lists : t.failLists = s.failLists) (sources : s.sources.KeepsSpecs t.sources)
    (hotNews : s.hotNews.KeepsSpecs t.hotNews) : t.Admitted where
  sound := sound
  listed := lists.trans h.listed
  tidy := h.tidy.of_keepsSpecs sources
  stated k b hb := by
    obtain ⟨a, ha, hspec⟩ := hotNews k b hb
    rw [hspec]
    exact h.stated k a ha

/-- A Source that was accepted and stored. -/
theorem Admitted.of_source {new : Source} (h : s.Admitted)
    (accepted : ((Source.validate new).outcome s).isOk = true) (sound : t.Sound)
    (lists : t.failLists = s.failLists) (hotNews : t.hotNews = s.hotNews)
    (elsewhere : ∀ k, k ≠ new.key → t.sources.get? k = s.sources.get? k)
    (here : ∀ b, t.sources.get? new.key = some b → b.spec = new.spec) : t.Admitted where
  sound := sound
  listed := lists.trans h.listed
  tidy := h.tidy.of_accepted h.sound accepted elsewhere here
  stated := by
    rw [hotNews]
    exact h.stated

/-- A HotNews that was accepted and stored. -/
theorem Admitted.of_hotNews {new : HotNews} (h : s.Admitted)
    (accepted : ((HotNews.validate target new).outcome s).isOk = true) (sound : t.Sound)
    (lists : t.failLists = s.failLists) (sources : t.sources = s.sources)
    (elsewhere : ∀ k, k ≠ new.key → t.hotNews.get? k = s.hotNews.get? k)
    (here : ∀ b, t.hotNews.get? new.key = some b → b.spec = new.spec) : t.Admitted where
  sound := sound
  listed := lists.trans h.listed
  tidy := h.tidy.of_keepsSpecs (.of_eq sources)
  stated k b hb := by
    by_cases hk : k = new.key
    · subst hk
      rw [here b hb]
      exact (HotNews.accepts_iff.mp accepted).2.1
    · rw [elsewhere k hk] at hb
      exact h.stated k b hb

/-! ## Requests and passes -/

/-- A user's request about a Source. -/
theorem Admitted.of_sourceRequest (h : s.Admitted) (request : Source.handling.Admits s t) :
    t.Admitted := by
  cases request with
  | create review uid ns a allowed =>
    have hget := get?_insertSource s (Source.rules.placed ns a)
    refine h.of_source (AdmissionRules.allows_iff.mp allowed) (sound_insert h.sound (.source _))
      rfl rfl (fun k hk => (hget k).trans (if_neg hk)) fun b hb => ?_
    obtain rfl := Option.some.inj (((hget _).trans (if_pos rfl)).symm.trans hb)
    rfl
  | update review uid ns old a stored allowed =>
    have sound := sound_replaceSource h.sound (Source.rules.placed ns a)
    have lists := failLists_answer s (.replaceSource (Source.rules.placed ns a))
    rcases s.replaceSource_cases (Source.rules.placed ns a) with
      ⟨_, _, hsame⟩ | ⟨_, _, _, hreplaced, rest⟩
    · exact h.of_keepsSpecs sound lists (.of_eq hsame.sources) (.of_eq hsame.hotNews)
    · exact h.of_source (AdmissionRules.allows_iff.mp allowed) sound lists rest.hotNews
        (fun k => hreplaced.elsewhere) fun b => hreplaced.spec_eq
  | delete review uid ns old stored allowed =>
    exact h.of_keepsSpecs (sound_after h.sound (.deleteSource _)) rfl
      (.of_changes (markDeleted_changes s.sources _) Object.MayMark.spec_eq) (.of_eq rfl)

/-- A user's request about a HotNews. -/
theorem Admitted.of_hotNewsRequest (h : s.Admitted)
    (request : (HotNews.handling target).Admits s t) : t.Admitted := by
  cases request with
  | create review uid ns a allowed =>
    have hget := get?_insertHotNews s ((HotNews.rules target).placed ns a)
    refine h.of_hotNews (AdmissionRules.allows_iff.mp allowed) (sound_insert h.sound (.hotNews _))
      rfl rfl (fun k hk => (hget k).trans (if_neg hk)) fun b hb => ?_
    obtain rfl := Option.some.inj (((hget _).trans (if_pos rfl)).symm.trans hb)
    rfl
  | update review uid ns old a stored allowed =>
    have sound := sound_replaceHotNews h.sound ((HotNews.rules target).placed ns a)
    have lists := failLists_answer s (.replaceHotNews ((HotNews.rules target).placed ns a))
    rcases s.replaceHotNews_cases ((HotNews.rules target).placed ns a) with
      ⟨_, _, hsame⟩ | ⟨_, _, _, hreplaced, rest⟩
    · exact h.of_keepsSpecs sound lists (.of_eq hsame.sources) (.of_eq hsame.hotNews)
    · exact h.of_hotNews (AdmissionRules.allows_iff.mp allowed) sound lists rest.sources
        (fun k => hreplaced.elsewhere) fun b => hreplaced.spec_eq
  | delete review uid ns old stored allowed =>
    exact h.of_keepsSpecs (sound_after h.sound (.deleteHotNews _)) rfl (.of_eq rfl)
      (.of_changes (markDeleted_changes s.hotNews _) Object.MayMark.spec_eq)

/-- A user's request about a ConfigMap. -/
theorem Admitted.of_configMapRequest (h : s.Admitted)
    (request : (ConfigMap.handling target).Admits s t) : t.Admitted := by
  cases request with
  | create | update =>
    exact h.of_keepsSpecs (sound_insert h.sound (.configMap _)) rfl (.of_eq rfl) (.of_eq rfl)
  | delete =>
    exact h.of_keepsSpecs ⟨h.sound.sources, h.sound.hotNews, h.sound.configMaps.erase _⟩ rfl
      (.of_eq rfl) (.of_eq rfl)

/-- A pass. -/
theorem Admitted.of_pass {turn : Turn} {es : List Event} (h : s.Admitted)
    (run : turn.Leads s es t) (listed : t.failLists = false) : t.Admitted := by
  obtain ⟨sources, hotNews⟩ := keepsSpecs_turn h.sound run
  exact h.of_keepsSpecs (sound_turn h.sound run) (listed.trans h.listed.symm) sources hotNews

/-- **Whatever comes about is admitted.** -/
theorem Arises.admitted (h : s.Arises target) : s.Admitted := by
  induction h with
  | empty => exact admitted_empty
  | source _ request ih => exact ih.of_sourceRequest request
  | hotNews _ request ih => exact ih.of_hotNewsRequest request
  | configMap _ request ih => exact ih.of_configMapRequest request
  | pass _ _ run listed ih => exact ih.of_pass run listed

/-! ## Releases -/

/-- A request that names the namespace of an object, or none, is judged in that namespace. -/
theorem ns_of_placed {m : Meta} {key : ObjectKey} (hkey : .ofMeta m = key) {ns : Option String}
    (hns : ns.getD key.ns = key.ns) : (m.placed ns).ns.getD defaultNamespace = key.ns := by
  have hm : m.ns.getD defaultNamespace = key.ns := congrArg ObjectKey.ns hkey
  unfold Meta.placed
  cases h : m.ns with
  | some own =>
    rw [h] at hm
    exact hm
  | none =>
    rw [h] at hm
    cases ns with
    | none => exact hm
    | some given => exact hns

/-- **When a release is allowed.** In every store that comes about by allowed requests and by
passes, the write that takes the finalizer from a Source is allowed. The one that takes it from a
HotNews is allowed exactly if every short name that the HotNews searches, by itself or by the feed
groups as they are then, is that of a Source in its namespace. -/
theorem release_allowed_iff (arises : s.Arises target) :
    (∀ key source, s.sources.get? key = some source → ∀ review uid ns, ns.getD key.ns = key.ns →
      Source.rules.allows review (.updating uid ns source source.released) s = true) ∧
    ∀ key hotNews, s.hotNews.get? key = some hotNews → ∀ review uid ns, ns.getD key.ns = key.ns →
      ((HotNews.rules target).allows review (.updating uid ns hotNews hotNews.released) s = true ↔
        HotNews.Covered target s key.ns hotNews.spec) := by
  have h := arises.admitted
  constructor
  · intro key source stored review uid ns hns
    have hplace : (source.released.metadata.placed ns).ns.getD defaultNamespace = key.ns :=
      ns_of_placed (h.sound.source_key stored) hns
    rw [AdmissionRules.allows_iff]
    refine Source.accepts_iff.mpr ⟨h.listed, h.tidy.formed key source stored, fun b hb hname => ?_⟩
    obtain ⟨l, hl, hlns⟩ := (Catalog.mem_inNamespace_iff h.sound.sources.ordered).mp hb
    refine (h.tidy.apart key l source b stored hl (hlns.trans hplace).symm ?_).congr rfl rfl
    rintro rfl
    obtain rfl := Option.some.inj (stored.symm.trans hl)
    exact hname rfl
  · intro key hotNews stored review uid ns hns
    have hplace : (hotNews.released.metadata.placed ns).ns.getD defaultNamespace = key.ns :=
      ns_of_placed (h.sound.hotNews_key stored) hns
    rw [AdmissionRules.allows_iff, ← hplace]
    refine HotNews.accepts_iff.trans ⟨fun accepted => accepted.2.2, fun covered => ?_⟩
    exact ⟨h.listed, h.stated key hotNews stored, covered⟩

/-! ## A release that is denied -/

/-- A request to delete a Source is never denied. -/
theorem Arises.deleteSource (h : s.Arises target) (key : ObjectKey) :
    (s.deleteSource key).Arises target := by
  cases hget : s.sources.get? key with
  | none =>
    unfold Store.deleteSource markDeleted
    rw [hget]
    exact h
  | some old =>
    obtain rfl : old.key = key := h.admitted.sound.source_key hget
    exact .source h (.delete ⟨"", "", none⟩ "" none old hget (AdmissionRules.allows_iff.mpr rfl))

/-- A request to delete a HotNews is never denied. -/
theorem Arises.deleteHotNews (h : s.Arises target) (key : ObjectKey) :
    (s.deleteHotNews key).Arises target := by
  cases hget : s.hotNews.get? key with
  | none =>
    unfold Store.deleteHotNews markDeleted
    rw [hget]
    exact h
  | some old =>
    obtain rfl : old.key = key := h.admitted.sound.hotNews_key hget
    exact .hotNews h (.delete ⟨"", "", none⟩ "" none old hget (AdmissionRules.allows_iff.mpr rfl))

/-- A Source. -/
def mentioned : Source :=
  { metadata := { name := some "bbc", ns := some "news" }
    spec := { name := "BBC", link := "urn:bbc", shortName := "bbc" } }

/-- A HotNews that names it. -/
def mentioning : HotNews :=
  { metadata := { name := some "world", ns := some "news" }
    spec := { keywords := ["world"], sources := ["bbc"] } }

/-- Both of them, after a pass over each. -/
def watched : Store :=
  ((Turn.hotNews {} "now" mentioning).run (Turn.steady .usual)
    ((Turn.source "now" mentioned).run (Turn.steady .usual)
      ((Store.insert {} (.source mentioned)).insert (.hotNews mentioning), ()))).1

/-- Then both are to be deleted. -/
def doomed : Store :=
  (watched.deleteSource mentioned.key).deleteHotNews mentioning.key

/-- A pass over the Source lets it go. -/
def abandoned : Store :=
  ((Turn.source "now" mentioned).run (Turn.steady .usual) (doomed, ())).1

theorem arises_doomed : doomed.Arises {} := by
  have known : (Store.insert {} (.source mentioned)).Arises {} :=
    .source .empty (.create ⟨"", "", none⟩ "" none mentioned (by decide +kernel))
  have asked : ((Store.insert {} (.source mentioned)).insert (.hotNews mentioning)).Arises {} :=
    .hotNews known (.create ⟨"", "", none⟩ "" none mentioning (by decide +kernel))
  have first : (Turn.source "now" mentioned).IsPass := trivial
  have second : (Turn.hotNews {} "now" mentioning).IsPass := trivial
  have seen : watched.Arises {} :=
    (asked.pass first (Turn.leads_run _ _ (_, ())) (by decide +kernel)).pass second
      (Turn.leads_run _ _ _) (by decide +kernel)
  exact (seen.deleteSource _).deleteHotNews _

/-- As long as both are there, the Source may go, and the HotNews may if it is covered. -/
theorem doomed_release_allowed_iff :
    (∃ source, doomed.sources.get? mentioned.key = some source ∧ ∀ review uid,
      Source.rules.allows review (.updating uid none source source.released) doomed = true) ∧
    ∃ hotNews, doomed.hotNews.get? mentioning.key = some hotNews ∧ ∀ review uid,
      ((HotNews.rules {}).allows review (.updating uid none hotNews hotNews.released) doomed = true
        ↔ HotNews.Covered {} doomed "news" hotNews.spec) := by
  have there : (doomed.sources.get? mentioned.key).isSome = true := by decide +kernel
  have there' : (doomed.hotNews.get? mentioning.key).isSome = true := by decide +kernel
  obtain ⟨source, stored⟩ := Option.isSome_iff_exists.mp there
  obtain ⟨hotNews, stored'⟩ := Option.isSome_iff_exists.mp there'
  obtain ⟨ofSource, ofHotNews⟩ := release_allowed_iff arises_doomed
  exact ⟨⟨source, stored, fun review uid => ofSource _ source stored review uid none rfl⟩,
    hotNews, stored', fun review uid => ofHotNews _ hotNews stored' review uid none rfl⟩

/-- **A release is denied.** The Source that the HotNews names is gone, so the HotNews stays. -/
theorem release_denied :
    ¬ ∀ (target : FeedGroupRef) (s : Store), s.Arises target →
      (∀ key source, s.sources.get? key = some source → source.metadata.isDeleted = true →
        source.metadata.hasFinalizer Source.finalizer = true →
        ∀ review uid ns, ns.getD key.ns = key.ns →
          Source.rules.allows review (.updating uid ns source source.released) s = true) ∧
      ∀ key hotNews, s.hotNews.get? key = some hotNews → hotNews.metadata.isDeleted = true →
        hotNews.metadata.hasFinalizer HotNews.finalizer = true →
        ∀ review uid ns, ns.getD key.ns = key.ns → (HotNews.rules target).allows review
          (.updating uid ns hotNews hotNews.released) s = true := by
  intro h
  have pass : (Turn.source "now" mentioned).IsPass := trivial
  have arises : abandoned.Arises {} :=
    arises_doomed.pass pass (Turn.leads_run _ _ (_, ())) (by decide +kernel)
  obtain ⟨-, allowed⟩ := h {} abandoned arises
  have denied : (abandoned.hotNews.get? mentioning.key).any (fun hotNews =>
      hotNews.metadata.isDeleted && hotNews.metadata.hasFinalizer HotNews.finalizer &&
        !(HotNews.rules {}).allows ⟨"", "", none⟩
          (.updating "" none hotNews hotNews.released) abandoned) = true := by
    decide +kernel
  obtain ⟨hotNews, stored, hdenied⟩ := (Option.any_eq_true _ _).mp denied
  simp only [Bool.and_eq_true, Bool.not_eq_true'] at hdenied
  obtain ⟨⟨deleted, held⟩, hdenied⟩ := hdenied
  have hallowed := allowed _ hotNews stored deleted held ⟨"", "", none⟩ "" none rfl
  rw [hdenied] at hallowed
  cases hallowed

end Store

end FeedOperator
