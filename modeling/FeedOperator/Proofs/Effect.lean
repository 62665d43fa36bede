import FeedOperator.Proofs.Effect.HotNews
import FeedOperator.Proofs.Effect.Source

/-!
# What a pass comes to in a quiet store

In a store that shows no failure, and with a service whose answer depends on the request alone, a
pass over a live object changes each stored object by itself, and neither brings nor removes one.

* `Store.newOwner?`: the owner that a pass over a HotNews gives to a Source.
* `Subject.onSource`, `Subject.onHotNews`: what a pass makes of the object under a key.
* `Subject.verdict`: the result of the pass.
* `Subject.Effect`: a store after such a pass.

Results:
* `Visit.effect`: a pass over a live object has this effect.
* `Effect.sameWishes`, `Visit.quiet_run`, `Effect.live`: wishes, quiet and life outlast a pass.
* `onSource_congr`, `onHotNews_congr`: what a pass makes of objects depends on wishes alone.
-/

namespace FeedOperator

/-- The owner that a pass over the HotNews under one key gives to the Source under another. -/
def Store.newOwner? (s : Store) (settings : Settings) (key k : ObjectKey) :
    Option OwnerReference :=
  (s.hotNews.get? key).bind fun h => h.newOwner? settings s k

/-- The owners that passes give depend on names and wishes alone. -/
theorem Store.SameWishes.newOwner?_eq {s u : Store} (same : s.SameWishes u) (hs : s.Sound)
    (hu : u.Sound) (settings : Settings) (key k : ObjectKey) :
    u.newOwner? settings key k = s.newOwner? settings key k := by
  unfold newOwner?
  rcases same.hotNews_cases key with ⟨ha, hb⟩ | ⟨a, b, ha, hb, wish⟩
  · rw [ha, hb]
    rfl
  · rw [ha, hb]
    exact HotNews.newOwner?_congr wish same.configMaps (same.firstNamed_eq hs hu) k

namespace Subject

/-- What a pass makes of the Source under a key: it is tended, or may get an owner. -/
def onSource (f : Service) (now : String) (s : Store) : Subject → ObjectKey → Source → Source
  | .source key, k => if k = key then Source.tended f now else id
  | .hotNews settings key, k => (Source.withOwner? · (s.newOwner? settings key k))

/-- What a pass makes of the HotNews under a key. -/
def onHotNews (f : Service) (now : String) (s : Store) : Subject → ObjectKey → HotNews → HotNews
  | .source _, _ => id
  | .hotNews settings key, k =>
    if k = key then HotNews.worked f settings (HotNews.config? settings s) now else id

/-- The result of a pass. -/
def verdict (f : Service) (s : Store) : Subject → Except PassError Action
  | .source key => ((s.sources.get? key).elim (.ok .awaitChange) (·.verdict f)).mapError .source
  | .hotNews settings key =>
    ((s.hotNews.get? key).elim (.ok .awaitChange)
      (HotNews.verdict f settings (HotNews.config? settings s))).mapError .hotNews

/-- A store after a pass. -/
structure Effect (f : Service) (now : String) (subject : Subject) (s : Store)
    (r : Except PassError Action) (u : Store) : Prop where
  result : r = subject.verdict f s
  sources : ∀ k, u.sources.view k = (s.sources.view k).map (subject.onSource f now s k)
  hotNews : ∀ k, u.hotNews.view k = (s.hotNews.view k).map (subject.onHotNews f now s k)
  configMaps : u.configMaps = s.configMaps

variable {f : Service} {now : String} {subject : Subject} {s t u : Store}
variable {r : Except PassError Action} {k : ObjectKey}

theorem effect_of_course {es : List Event} (quiet : s.Quiet) (live : subject.IsLive s)
    (h : subject.Course .settled now s es r u) (answers : f.Answers es) :
    subject.Effect f now s r u := by
  cases h with
  | source h =>
    obtain ⟨a, stored, live⟩ := live
    obtain ⟨rfl, rest, hview⟩ := h.tends quiet stored live answers
    refine ⟨?_, fun k => ?_, fun k => ?_, rest.configMaps⟩
    · simp only [verdict, stored, Option.elim_some]
    · rw [hview, onSource]
      split
      · rfl
      · rw [Option.map_id, id]
    · rw [rest.hotNews, onHotNews, Option.map_id, id]
  | @hotNews settings key _ _ _ h =>
    obtain ⟨a, stored, live⟩ := live
    obtain ⟨rfl, hview, hsources, maps⟩ := h.works quiet stored live answers
    refine ⟨?_, fun k => ?_, fun k => ?_, maps⟩
    · simp only [verdict, stored, Option.elim_some]
    · rw [hsources, onSource, Store.newOwner?, stored]
      rfl
    · rw [hview, onHotNews]
      split
      · rfl
      · rw [Option.map_id, id]

/-! ## One object -/

theorem wish_onSource (a : Source) : (subject.onSource f now s k a).wish = a.wish := by
  cases subject with
  | source key =>
    rw [onSource]
    split
    · exact a.wish_tended
    · rfl
  | hotNews settings key => exact Source.wish_withOwner? a _

theorem wish_onHotNews (a : HotNews) : (subject.onHotNews f now s k a).wish = a.wish := by
  cases subject with
  | source key => rfl
  | hotNews settings key =>
    rw [onHotNews]
    split
    · exact HotNews.wish_worked _ a
    · rfl

theorem isDeleted_onSource (a : Source) :
    (subject.onSource f now s k a).metadata.isDeleted = a.metadata.isDeleted := by
  cases subject with
  | source key =>
    rw [onSource]
    split
    · exact a.isDeleted_tended
    · rfl
  | hotNews settings key => exact Source.isDeleted_withOwner? a _

theorem isDeleted_onHotNews (a : HotNews) :
    (subject.onHotNews f now s k a).metadata.isDeleted = a.metadata.isDeleted := by
  cases subject with
  | source key => rfl
  | hotNews settings key =>
    rw [onHotNews]
    split
    · exact HotNews.isDeleted_worked _ a
    · rfl

/-- A pass does not take the last finalizer from an object. -/
theorem isLeaving_of_onSource {a : Source} (h : (subject.onSource f now s k a).IsLeaving) :
    a.IsLeaving := by
  cases subject with
  | source key =>
    rw [onSource] at h
    split at h
    · exact absurd h.isUnheld a.not_isUnheld_tended
    · exact h
  | hotNews settings key => exact Source.isLeaving_of_withOwner? h

theorem isLeaving_of_onHotNews {a : HotNews} (h : (subject.onHotNews f now s k a).IsLeaving) :
    a.IsLeaving := by
  cases subject with
  | source key => exact h
  | hotNews settings key =>
    rw [onHotNews] at h
    split at h
    · exact absurd h.isUnheld (HotNews.not_isUnheld_worked _ a)
    · exact h

/-! ## The whole store -/

namespace Effect

/-- What is stored after a pass is what the pass made of what was stored. -/
theorem source_before (h : subject.Effect f now s r u) {b : Source}
    (hb : u.sources.get? k = some b) : ∃ a, s.sources.get? k = some a ∧
      b.unversioned = subject.onSource f now s k a.unversioned :=
  Catalog.before_of_view_eq (h.sources k) hb

theorem hotNews_before (h : subject.Effect f now s r u) {b : HotNews}
    (hb : u.hotNews.get? k = some b) : ∃ a, s.hotNews.get? k = some a ∧
      b.unversioned = subject.onHotNews f now s k a.unversioned :=
  Catalog.before_of_view_eq (h.hotNews k) hb

/-- What was stored is what the pass made of it. -/
theorem source_after (h : subject.Effect f now s r u) {a : Source}
    (ha : s.sources.get? k = some a) : ∃ b, u.sources.get? k = some b ∧
      b.unversioned = subject.onSource f now s k a.unversioned :=
  Catalog.after_of_view_eq (h.sources k) ha

theorem hotNews_after (h : subject.Effect f now s r u) {a : HotNews}
    (ha : s.hotNews.get? k = some a) : ∃ b, u.hotNews.get? k = some b ∧
      b.unversioned = subject.onHotNews f now s k a.unversioned :=
  Catalog.after_of_view_eq (h.hotNews k) ha

/-- **A pass changes no name and no wish.** -/
theorem sameWishes (h : subject.Effect f now s r u) : s.SameWishes u := by
  refine ⟨fun k => ?_, fun k => ?_, h.configMaps⟩
  · rw [← Catalog.map_wish_view, h.sources, Option.map_map, ← Catalog.map_wish_view]
    simp only [Function.comp_def, wish_onSource]
  · rw [← Catalog.map_wish_view, h.hotNews, Option.map_map, ← Catalog.map_wish_view]
    simp only [Function.comp_def, wish_onHotNews]

/-- After a pass, too, nothing goes with its next replace. -/
theorem stay (h : subject.Effect f now s r u) (hs : s.NoneLeaving) : u.NoneLeaving := by
  refine ⟨fun k b hb hl => ?_, fun k b hb hl => ?_⟩
  · obtain ⟨a, ha, heq⟩ := h.source_before hb
    have : b.unversioned.IsLeaving := hl
    rw [heq] at this
    exact hs.sources k a ha (a.isLeaving_unversioned_iff.mp (isLeaving_of_onSource this))
  · obtain ⟨a, ha, heq⟩ := h.hotNews_before hb
    have : b.unversioned.IsLeaving := hl
    rw [heq] at this
    exact hs.hotNews k a ha (a.isLeaving_unversioned_iff.mp (isLeaving_of_onHotNews this))

/-- What is live stays so. -/
theorem live (h : subject.Effect f now s r u) {other : Subject} (hs : other.IsLive s) :
    other.IsLive u := by
  cases other with
  | source key =>
    obtain ⟨a, ha, live⟩ := hs
    obtain ⟨b, hb, heq⟩ := h.source_after ha
    refine ⟨b, hb, ?_⟩
    rw [← b.isDeleted_unversioned, heq, isDeleted_onSource]
    exact live
  | hotNews settings key =>
    obtain ⟨a, ha, live⟩ := hs
    obtain ⟨b, hb, heq⟩ := h.hotNews_after ha
    refine ⟨b, hb, ?_⟩
    rw [← b.isDeleted_unversioned, heq, isDeleted_onHotNews]
    exact live

end Effect

/-- What a pass makes of Sources depends on names and wishes alone. -/
theorem onSource_congr (same : s.SameWishes u) (hs : s.Sound) (hu : u.Sound) :
    subject.onSource f now u = subject.onSource f now s := by
  cases subject with
  | source key => rfl
  | hotNews settings key =>
    funext k
    rw [onSource, onSource, same.newOwner?_eq hs hu]

theorem onHotNews_congr (same : s.SameWishes u) :
    subject.onHotNews f now u = subject.onHotNews f now s := by
  cases subject with
  | source key => rfl
  | hotNews settings key =>
    funext k
    simp only [onHotNews, HotNews.config?, same.configMaps]

end Subject

/-! ## Visits -/

namespace Visit

variable {visit : Visit} {subject : Subject} {s : Store}
variable (f : Service) (now : String)

/-- **A pass over a live object has its effect.** -/
theorem effect (quiet : s.Quiet) (about : visit.subject? = some subject) (live : subject.IsLive s) :
    subject.Effect f now s (visit.run f now s).1 (visit.run f now s).2 :=
  Subject.effect_of_course quiet live (course_of_leads about (visit.leads_run f now s))
    (f.answers_journal _ _)

/-- A pass leaves a quiet store quiet. -/
theorem quiet_run (quiet : s.Quiet) (about : visit.subject? = some subject)
    (live : subject.IsLive s) : (visit.run f now s).2.Quiet :=
  ⟨(visit.leads_run f now s).sound quiet.sound, (visit.leads_run f now s).calm quiet.calm,
    (effect f now quiet about live).stay quiet.stay⟩

end Visit

end FeedOperator
