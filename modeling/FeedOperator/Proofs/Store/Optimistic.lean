import FeedOperator.Proofs.Store.Place
import FeedOperator.Proofs.Visit

/-!
# Optimistic concurrency

Clients of the store take no locks. A client writes back what it has seen, at the version that it
has seen, and the write goes through only if nobody has written the object since.

* `Store.Distinct`: no two stored objects share a version.
* `Store.Optimistic`: what clients can rely on, all in one.

Results:
* `Shows.stands`: what a client gets to see stands at its place, or is gone.
* `isOk_answer_iff`: a write goes through iff it is not made to fail and carries the stored version.
* `isOk_answer_afterAll_iff`: at the version that was seen it goes through iff, besides, the object
  is still stored and nothing was written at its place meanwhile. A request to delete it does not
  count, for that takes no version.
* `optimistic_of_built`: clients of every store that comes about can rely on all that.
-/

namespace FeedOperator

namespace Store

variable {s t : Store} {op : StoreOp} {o a b : Resource} {p : Place}

/-! ## Objects that a client has seen -/

theorem Sound.at?_source (hs : s.Sound) {key : ObjectKey} {o : Source}
    (h : s.sources.get? key = some o) : s.at? (Resource.source o).place = some (.source o) := by
  obtain rfl : o.key = key := hs.source_key h
  exact congrArg (Option.map Resource.source) h

theorem Sound.at?_hotNews (hs : s.Sound) {key : ObjectKey} {o : HotNews}
    (h : s.hotNews.get? key = some o) : s.at? (Resource.hotNews o).place = some (.hotNews o) := by
  obtain rfl : o.key = key := hs.hotNews_key h
  exact congrArg (Option.map Resource.hotNews) h

theorem Sound.at?_configMap (hs : s.Sound) {key : ObjectKey} {o : ConfigMap}
    (h : s.configMaps.get? key = some o) :
    s.at? (Resource.configMap o).place = some (.configMap o) := by
  obtain rfl : ObjectKey.ofMeta o.metadata = key := hs.configMaps.key_eq h
  exact congrArg (Option.map Resource.configMap) h

/-- What is read is stored, and the store stays as it is. -/
theorem Reads.stored (hs : s.Sound) (h : s.Reads op o) :
    s.at? o.place = some o ∧ s.after op = s := by
  cases h with
  | source h => exact ⟨hs.at?_source (Except.ok.inj h), rfl⟩
  | @sources ns os o h mem =>
    refine ⟨?_, rfl⟩
    change (if s.failLists then _ else _) = _ at h
    split at h <;> cases h
    obtain ⟨k, hget, -⟩ := (Catalog.mem_inNamespace_iff hs.sources.ordered).mp mem
    exact hs.at?_source hget
  | hotNews h => exact ⟨hs.at?_hotNews (Except.ok.inj h), rfl⟩
  | @hotNewsList ns os o h mem =>
    refine ⟨?_, rfl⟩
    change (if s.failLists then _ else _) = _ at h
    split at h <;> cases h
    cases ns with
    | some ns =>
      obtain ⟨k, hget, -⟩ := (Catalog.mem_inNamespace_iff hs.hotNews.ordered).mp mem
      exact hs.at?_hotNews hget
    | none =>
      obtain ⟨e, he, rfl⟩ := List.mem_map.mp mem
      exact hs.at?_hotNews (hs.hotNews.ordered.mem_iff.mp he)
  | configMap h => exact ⟨hs.at?_configMap (Except.ok.inj h), rfl⟩

/-- **What a client gets to see stands at its place, or is gone**, and its version was given out. -/
theorem Shows.stands (hs : s.Sound) (hv : s.Stamped) (h : s.Shows op o) :
    ((s.after op).at? o.place = none ∨ (s.after op).at? o.place = some o) ∧
      ∃ n ≤ (s.after op).version, o.version? = some (versionText n) := by
  rcases h with h | h
  · obtain ⟨hstored, hafter⟩ := h.stored hs
    rw [hafter]
    exact ⟨.inr hstored, hv.version?_eq hstored⟩
  · refine ⟨h.stands hs, s.version + 1, ?_, h.version?_eq.2⟩
    rw [h.version_after]

/-! ## Writes that go through -/

section Accepted

variable {σ τ : Type}

/-- A replace goes through iff it carries the stored version. -/
theorem isOk_replaceIn_iff {c : Catalog (Object σ τ)} {version : String} {new : Object σ τ} :
    (replaceIn c version new).1.isOk = true ↔ ∃ stored, c.get? new.key = some stored ∧
      stored.metadata.resourceVersion = new.metadata.resourceVersion := by
  constructor
  · intro h
    rcases replaceIn_cases c version new with ⟨e, he, _⟩ | ⟨stored, written, _, hr⟩
    · rw [he] at h
      cases h
    · exact ⟨stored, hr.found, hr.current⟩
  · rintro ⟨stored, found, current⟩
    rw [(replaceIn_of_current version found current).1]
    rfl

/-- A replace of a stored object that carries another version is a conflict. -/
theorem replaceIn_of_outdated {c : Catalog (Object σ τ)} {new stored : Object σ τ}
    (version : String) (found : c.get? new.key = some stored)
    (outdated : stored.metadata.resourceVersion ≠ new.metadata.resourceVersion) :
    (replaceIn c version new).1 = .error (.conflict new.key.name) := by
  unfold Object.key at found ⊢
  simp [replaceIn, found, outdated]

/-- A write of the status goes through iff it carries the stored version, or none. -/
theorem isOk_replaceStatusIn_iff {c : Catalog (Object σ τ)} {version : String}
    {new : Object σ τ} :
    (replaceStatusIn c version new).1.isOk = true ↔ ∃ stored, c.get? new.key = some stored ∧
      (new.metadata.resourceVersion = none ∨
        stored.metadata.resourceVersion = new.metadata.resourceVersion) := by
  constructor
  · intro h
    rcases replaceStatusIn_cases c version new with ⟨e, he, _⟩ | ⟨stored, written, _, hr⟩
    · rw [he] at h
      cases h
    · exact ⟨stored, hr.found, hr.current⟩
  · rintro ⟨stored, found, current⟩
    rw [(replaceStatusIn_of_current version found current).1]
    rfl

end Accepted

theorem replaceSource_of_calm (calm : s.sourceConflicts = 0) (new : Source) :
    (s.replaceSource new).1 = (replaceIn s.sources s.nextVersion.2 new).1 := by
  unfold replaceSource
  rw [if_pos calm]
  rfl

theorem replaceSourceStatus_of_calm (calm : s.failStatusWrites = false) (new : Source) :
    (s.replaceSourceStatus new).1 = (replaceStatusIn s.sources s.nextVersion.2 new).1 := by
  unfold replaceSourceStatus
  rw [if_neg (Bool.eq_false_iff.mp calm)]
  rfl

theorem replaceHotNewsStatus_of_calm (calm : s.failStatusWrites = false) (new : HotNews) :
    (s.replaceHotNewsStatus new).1 = (replaceStatusIn s.hotNews s.nextVersion.2 new).1 := by
  unfold replaceHotNewsStatus
  rw [if_neg (Bool.eq_false_iff.mp calm)]
  rfl

/-- **A write goes through iff it is not made to fail and carries the stored version**; one of the
status may also carry none. -/
theorem isOk_answer_iff {c : StoreCall} {new : Resource} (hc : c.handed? = some new) :
    (s.answer c).1.isOk = true ↔ s.obstructs c = false ∧ ∃ a, s.at? new.place = some a ∧
      (c.writesStatus = true ∧ new.version? = none ∨ a.version? = new.version?) := by
  cases c with
  | replaceSource new =>
    cases hc
    change (s.replaceSource new).1.isOk = true ↔ _
    by_cases calm : s.sourceConflicts = 0
    · rw [replaceSource_of_calm calm, isOk_replaceIn_iff]
      simp [at?, obstructs, calm, StoreCall.writesStatus, Resource.place, Resource.version?,
        Resource.metadata]
    · simp [replaceSource, calm, obstructs, Except.isOk, Except.toBool]
  | replaceSourceStatus new =>
    cases hc
    change (s.replaceSourceStatus new).1.isOk = true ↔ _
    by_cases calm : s.failStatusWrites = false
    · rw [replaceSourceStatus_of_calm calm, isOk_replaceStatusIn_iff]
      simp [at?, obstructs, calm, StoreCall.writesStatus, Resource.place, Resource.version?,
        Resource.metadata]
    · simp [replaceSourceStatus, calm, obstructs, Except.isOk, Except.toBool]
  | replaceHotNews new =>
    cases hc
    have hanswer : (s.answer (.replaceHotNews new)).1 =
        (replaceIn s.hotNews s.nextVersion.2 new).1 := rfl
    rw [hanswer, isOk_replaceIn_iff]
    simp [at?, obstructs, StoreCall.writesStatus, Resource.place, Resource.version?,
      Resource.metadata]
  | replaceHotNewsStatus new =>
    cases hc
    change (s.replaceHotNewsStatus new).1.isOk = true ↔ _
    by_cases calm : s.failStatusWrites = false
    · rw [replaceHotNewsStatus_of_calm calm, isOk_replaceStatusIn_iff]
      simp [at?, obstructs, calm, StoreCall.writesStatus, Resource.place, Resource.version?,
        Resource.metadata]
    · simp [replaceHotNewsStatus, calm, obstructs, Except.isOk, Except.toBool]
  | getSource | listSources | getHotNews | listHotNews | getConfigMap => cases hc

/-- **A write at the version that was seen goes through iff it is not made to fail, the object is
still stored, and nothing was written at its place since.** -/
theorem isOk_answer_afterAll_iff (hs : s.Sound) (hv : s.Stamped) (seen : s.Shows op o)
    (between : List StoreOp) {c : StoreCall} {new : Resource} (hc : c.handed? = some new)
    (hplace : new.place = o.place) (hversion : new.version? = o.version?) :
    (((s.after op).afterAll between).answer c).1.isOk = true ↔
      ((s.after op).afterAll between).obstructs c = false ∧
        ((s.after op).afterAll between).at? o.place ≠ none ∧
          ¬ WritesIn o.place (s.after op) between := by
  obtain ⟨hstands, n, hn, hnumber⟩ := seen.stands hs hv
  have hsound : (s.after op).Sound := sound_after hs op
  rw [isOk_answer_iff hc, hplace, hversion, Option.ne_none_iff_exists']
  refine and_congr_right fun _ => ?_
  constructor
  · rintro ⟨b, hb, ⟨-, hnone⟩ | hcurrent⟩
    · cases hnumber.symm.trans hnone
    · refine ⟨⟨b, hb⟩, fun hwritten => ?_⟩
      obtain ⟨m, hm, hnewer⟩ := newer_of_writesIn hsound hwritten hb
      have : m = n := versionText_injective
        (Option.some.inj (hnewer.symm.trans (hcurrent.trans hnumber)))
      omega
  · rintro ⟨⟨b, hb⟩, hwritten⟩
    refine ⟨b, hb, .inr ?_⟩
    obtain ⟨a, ha, hab⟩ := mayMark_of_not_writesIn hsound hwritten hb
    rcases hstands with hnone | hsome
    · cases ha.symm.trans hnone
    · cases ha.symm.trans hsome
      exact hab.version?_eq

/-! ## No version is shared -/

/-- No two stored objects share a version. -/
def Distinct (s : Store) : Prop :=
  ∀ p q a b, s.at? p = some a → s.at? q = some b → a.version? = b.version? → p = q

theorem Writes.unique (ha : s.Writes op a) (hb : s.Writes op b) : a = b := by
  cases ha with
  | insert => cases hb; rfl
  | source h => cases hb with
    | source g => rw [Except.ok.inj (h.symm.trans g)]
  | sourceStatus h => cases hb with
    | sourceStatus g => rw [Except.ok.inj (h.symm.trans g)]
  | hotNews h => cases hb with
    | hotNews g => rw [Except.ok.inj (h.symm.trans g)]
  | hotNewsStatus h => cases hb with
    | hotNewsStatus g => rw [Except.ok.inj (h.symm.trans g)]

/-- What was there before does not carry the version that is taken now. -/
theorem Stamped.version?_ne (hv : s.Stamped) (ha : s.at? p = some a) :
    a.version? ≠ some s.nextVersion.2 := by
  intro hnext
  obtain ⟨n, hn, hversion⟩ := hv.version?_eq ha
  have : n = s.version + 1 := versionText_injective (Option.some.inj (hversion.symm.trans hnext))
  omega

theorem distinct_after (hs : s.Sound) (hv : s.Stamped) (h : s.Distinct) (op : StoreOp) :
    (s.after op).Distinct := by
  intro p q a b ha hb hab
  rcases stored_after hs ha with hwa | ⟨a', ha', hma⟩
  · rcases stored_after hs hb with hwb | ⟨b', hb', hmb⟩
    · have hsound : (s.after op).Sound := sound_after hs op
      rw [← hsound.place_eq ha, ← hsound.place_eq hb, hwa.unique hwb]
    · have hnew : b'.version? = some s.nextVersion.2 := by
        rw [← hmb.version?_eq, ← hab, hwa.version?_eq.2]
      exact absurd hnew (hv.version?_ne hb')
  · rcases stored_after hs hb with hwb | ⟨b', hb', hmb⟩
    · have hnew : a'.version? = some s.nextVersion.2 := by
        rw [← hma.version?_eq, hab, hwb.version?_eq.2]
      exact absurd hnew (hv.version?_ne ha')
    · refine h p q a' b' ha' hb' ?_
      rw [← hma.version?_eq, hab, hmb.version?_eq]

/-- **No two stored objects ever share a version.** -/
theorem Built.distinct (h : s.Built) : s.Distinct := by
  induction h with
  | empty => intro p q a b ha; cases p <;> cases ha
  | after hs op ih => exact distinct_after hs.sound hs.stamped ih op

/-! ## Calls that fail, and objects that go -/

/-- **A call that fails changes no object.** -/
theorem sameObjects_of_refused {c : StoreCall} (h : (s.answer c).1.isOk = false) :
    s.SameObjects (s.answer c).2 := by
  cases c with
  | replaceSource new =>
    rcases s.replaceSource_cases new with ⟨_, _, hsame⟩ | ⟨_, _, hok, _⟩
    · exact hsame
    · cases (congrArg Except.isOk hok).symm.trans h
  | replaceSourceStatus new =>
    rcases s.replaceSourceStatus_cases new with ⟨_, _, hsame⟩ | ⟨_, _, hok, _⟩
    · exact hsame
    · cases (congrArg Except.isOk hok).symm.trans h
  | replaceHotNews new =>
    rcases s.replaceHotNews_cases new with ⟨_, _, hsame⟩ | ⟨_, _, hok, _⟩
    · exact hsame
    · cases (congrArg Except.isOk hok).symm.trans h
  | replaceHotNewsStatus new =>
    rcases s.replaceHotNewsStatus_cases new with ⟨_, _, hsame⟩ | ⟨_, _, hok, _⟩
    · exact hsame
    · cases (congrArg Except.isOk hok).symm.trans h
  | getSource | listSources | getHotNews | listHotNews | getConfigMap => exact ⟨rfl, rfl, rfl⟩

theorem isReleased_iff {m : Meta} :
    m.isReleased = true ↔ m.isDeleted = true ∧ m.finalizers.getD [] = [] := by
  unfold Meta.isReleased
  rw [Bool.and_eq_true, List.isEmpty_iff]

/-- **A replaced object is gone iff its deletion was requested and it has no finalizer left.** -/
theorem at?_replaced_eq_none_iff {c : StoreCall} {new : Resource} (hc : c.handed? = some new)
    (hstatus : c.writesStatus = false) (h : (s.answer c).1.isOk = true) :
    (s.answer c).2.at? new.place = none ↔
      new.metadata.isDeleted = true ∧ new.metadata.finalizers.getD [] = [] := by
  cases c with
  | replaceSource new =>
    cases hc
    rcases s.replaceSource_cases new with ⟨_, herror, _⟩ | ⟨_, _, _, hr, _⟩
    · cases (congrArg Except.isOk herror).symm.trans h
    · exact Option.map_eq_none_iff.trans (hr.get?_eq_none_iff.trans isReleased_iff)
  | replaceHotNews new =>
    cases hc
    rcases s.replaceHotNews_cases new with ⟨_, herror, _⟩ | ⟨_, _, _, hr, _⟩
    · cases (congrArg Except.isOk herror).symm.trans h
    · exact Option.map_eq_none_iff.trans (hr.get?_eq_none_iff.trans isReleased_iff)
  | replaceSourceStatus | replaceHotNewsStatus => cases hstatus
  | getSource | listSources | getHotNews | listHotNews | getConfigMap => cases hc

/-! ## All in one -/

/-- What clients of a store can rely on. -/
structure Optimistic (s : Store) : Prop where
  /-- The versions that are given out ascend, whether or not anything is written with them. -/
  ascending : ∀ ops, ∃ numbers : List Nat, s.versions ops = numbers.map versionText ∧
    (s.version :: numbers).Pairwise (· < ·)
  /-- What is written carries the version that was given out for it. -/
  renewed : ∀ {op o}, s.Writes op o → s.takes op = true ∧ o.version? = some s.nextVersion.2
  /-- No two stored objects share a version. -/
  distinct : s.Distinct
  /-- Every object stands under its own key. -/
  sound : s.Sound
  /-- A write at the version that was seen goes through iff nothing was written since. -/
  accepted_iff : ∀ {op o}, s.Shows op o → ∀ (between : List StoreOp) {c : StoreCall}
    {new : Resource}, c.handed? = some new → new.place = o.place → new.version? = o.version? →
    ((((s.after op).afterAll between).answer c).1.isOk = true ↔
      ((s.after op).afterAll between).obstructs c = false ∧
        ((s.after op).afterAll between).at? o.place ≠ none ∧
          ¬ WritesIn o.place (s.after op) between)
  /-- A call that fails changes no object. -/
  refused : ∀ {c : StoreCall}, (s.answer c).1.isOk = false → s.SameObjects (s.answer c).2
  /-- A replace keeps the stored status. -/
  replacesSource : ∀ {new written : Source}, (s.replaceSource new).1 = .ok written →
    ∃ stored, Replaced s.sources (s.replaceSource new).2.sources new stored written
  replacesHotNews : ∀ {new written : HotNews}, (s.replaceHotNews new).1 = .ok written →
    ∃ stored, Replaced s.hotNews (s.replaceHotNews new).2.hotNews new stored written
  /-- A write of the status keeps the rest. -/
  replacesSourceStatus : ∀ {new written : Source}, (s.replaceSourceStatus new).1 = .ok written →
    ∃ stored, StatusReplaced s.sources (s.replaceSourceStatus new).2.sources new stored written
  replacesHotNewsStatus : ∀ {new written : HotNews}, (s.replaceHotNewsStatus new).1 = .ok written →
    ∃ stored, StatusReplaced s.hotNews (s.replaceHotNewsStatus new).2.hotNews new stored written
  /-- A replaced object is gone iff its deletion was requested and it has no finalizer left. -/
  gone_iff : ∀ {c : StoreCall} {new : Resource}, c.handed? = some new → c.writesStatus = false →
    (s.answer c).1.isOk = true → ((s.answer c).2.at? new.place = none ↔
      new.metadata.isDeleted = true ∧ new.metadata.finalizers.getD [] = [])

/-- **Clients of every store that comes about can rely on optimistic concurrency.** -/
theorem optimistic_of_built (h : s.Built) : s.Optimistic where
  ascending := s.versions_ascend
  renewed := Writes.version?_eq
  distinct := h.distinct
  sound := h.sound
  accepted_iff := isOk_answer_afterAll_iff h.sound h.stamped
  refused := sameObjects_of_refused
  replacesSource := replaced_source
  replacesHotNews := replaced_hotNews
  replacesSourceStatus := statusReplaced_source
  replacesHotNewsStatus := statusReplaced_hotNews
  gone_iff := at?_replaced_eq_none_iff

/-- In the newsroom a Source that was read can be written back after a HotNews was deleted, but not
after the Source itself was deleted and stored again: it stands there at another version. -/
theorem newsroom_optimistic :
    newsroom.Built ∧ ∃ bbc, newsroom.Reads (.call (.getSource "news" "bbc")) (.source bbc) ∧
      let kept := newsroom.afterAll [.deleteHotNews ⟨"news", "world"⟩]
      let renewed := newsroom.afterAll [.deleteSource ⟨"news", "bbc"⟩, .insert (.source bbc)]
      (kept.answer (.replaceSource bbc)).1.isOk = true ∧
        renewed.at? (.source bbc.key) ≠ none ∧
          (renewed.answer (.replaceSource bbc)).1.isOk = false := by
  have promise := optimistic_of_built built_newsroom
  obtain ⟨bbc, hbbc⟩ : ∃ bbc, newsroom.sources.get? ⟨"news", "bbc"⟩ = some bbc :=
    Option.isSome_iff_exists.mp (by decide +kernel)
  have read : newsroom.Reads (.call (.getSource "news" "bbc")) (.source bbc) :=
    .source (congrArg Except.ok hbbc)
  have hplace := promise.sound.at?_source hbbc
  refine ⟨built_newsroom, bbc, read, ?_, ?_, ?_⟩
  · refine (promise.accepted_iff (.inl read) [.deleteHotNews _] rfl rfl rfl).mpr ⟨rfl, ?_, ?_⟩
    · change newsroom.at? (Resource.source bbc).place ≠ none
      rw [hplace]
      exact Option.some_ne_none _
    · rintro (⟨o, hwrites, -⟩ | h)
      · cases hwrites
      · exact h
  · change ((newsroom.deleteSource _).insert (.source bbc)).at? (Resource.source bbc).place ≠ none
    rw [at?_insert, if_pos rfl]
    exact Option.some_ne_none _
  · refine Bool.eq_false_iff.mpr fun hok => ?_
    have accepted := (promise.accepted_iff (.inl read) [.deleteSource _, .insert (.source bbc)]
      rfl rfl rfl).mp hok
    exact accepted.2.2 (.inr (.inl ⟨_, .insert _, Resource.place_stamped _ _⟩))

end Store

end FeedOperator
