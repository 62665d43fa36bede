import FeedOperator.Proofs.Store.Sound

/-!
# What a write does to a store

A write is refused, or it goes through and changes one object.

* `Object.inPlaceOf`, `Object.withStatusOf`: what a replace and a write of the status store.
* `Replaced`, `StatusReplaced`: a write that went through, seen through the keys.
* `Store.SameObjects`: a store with the same objects, whatever its counters say.

Results:
* `replaceSource_cases`, `replaceSourceStatus_cases`, `replaceHotNews_cases`,
  `replaceHotNewsStatus_cases`: all that a write can do.
* `replaceSource_of_current`, `replaceSourceStatus_of_current`, `replaceHotNews_of_current`,
  `replaceHotNewsStatus_of_current`: a write that carries the stored version goes through, if no
  failure is due.
* `replaced_source`, `statusReplaced_source`, `replaced_hotNews`, `statusReplaced_hotNews`: what a
  write that goes through has done.
* `Pass.LeadsIn.configMaps_eq`: no run writes a ConfigMap.
-/

namespace FeedOperator

namespace Object

variable {σ τ : Type}

/-- What a replace stores: the new object, but with the stored status, at a new version. -/
def inPlaceOf (new stored : Object σ τ) (version : String) : Object σ τ :=
  { new with
    status := stored.status
    metadata := { new.metadata with resourceVersion := some version } }

/-- What a write of the status stores: the stored object, but with the new status, at a new
version. -/
def withStatusOf (stored new : Object σ τ) (version : String) : Object σ τ :=
  { stored with
    status := new.status
    metadata := { stored.metadata with resourceVersion := some version } }

/-- The key under which an object belongs. -/
def key (o : Object σ τ) : ObjectKey := .ofMeta o.metadata

end Object

section Writes

variable {σ τ : Type}

/-- A replace that went through: it carried the stored version, and what it stored is gone at once
if it is to go. -/
structure Replaced (c d : Catalog (Object σ τ)) (new stored written : Object σ τ) : Prop where
  found : c.get? new.key = some stored
  current : stored.metadata.resourceVersion = new.metadata.resourceVersion
  written_eq : ∃ version, written = new.inPlaceOf stored version
  get?_eq : ∀ k, d.get? k =
    if k = new.key then (if new.metadata.isReleased then none else some written) else c.get? k

/-- A write of the status that went through. -/
structure StatusReplaced (c d : Catalog (Object σ τ)) (new stored written : Object σ τ) : Prop where
  found : c.get? new.key = some stored
  current : new.metadata.resourceVersion = none ∨
    stored.metadata.resourceVersion = new.metadata.resourceVersion
  written_eq : ∃ version, written = stored.withStatusOf new version
  get?_eq : ∀ k, d.get? k = if k = new.key then some written else c.get? k

section Written

variable {c d : Catalog (Object σ τ)} {new stored written : Object σ τ}

theorem Replaced.stored_eq (h : Replaced c d new stored written) {a : Object σ τ}
    (ha : c.get? new.key = some a) : stored = a :=
  Option.some.inj (h.found.symm.trans ha)

theorem StatusReplaced.stored_eq (h : StatusReplaced c d new stored written) {a : Object σ τ}
    (ha : c.get? new.key = some a) : stored = a :=
  Option.some.inj (h.found.symm.trans ha)

theorem Replaced.elsewhere (h : Replaced c d new stored written) {k : ObjectKey}
    (hk : k ≠ new.key) : d.get? k = c.get? k := by
  rw [h.get?_eq, if_neg hk]

theorem StatusReplaced.elsewhere (h : StatusReplaced c d new stored written) {k : ObjectKey}
    (hk : k ≠ new.key) : d.get? k = c.get? k := by
  rw [h.get?_eq, if_neg hk]

/-- A status that was written stands under the key. -/
theorem StatusReplaced.get?_self (h : StatusReplaced c d new stored written) :
    d.get? new.key = some written := by
  rw [h.get?_eq, if_pos rfl]

/-- An object that was replaced by one that need not go stands under the key. -/
theorem Replaced.get?_self (h : Replaced c d new stored written)
    (stays : new.metadata.isReleased = false) : d.get? new.key = some written := by
  rw [h.get?_eq, if_pos rfl, if_neg (by simp [stays])]

theorem Replaced.key_eq (h : Replaced c d new stored written) : written.key = new.key := by
  obtain ⟨version, rfl⟩ := h.written_eq
  rfl

/-- The stored object has the key under which it was found, so what was written has it. -/
theorem StatusReplaced.key_eq (h : StatusReplaced c d new stored written)
    (found : stored.key = new.key) : written.key = new.key := by
  obtain ⟨version, rfl⟩ := h.written_eq
  exact found

/-- What a replace wrote stands under its key, or is gone. -/
theorem Replaced.stands (h : Replaced c d new stored written) :
    d.get? written.key = none ∨ d.get? written.key = some written := by
  rw [h.get?_eq, if_pos h.key_eq]
  split
  · exact .inl rfl
  · exact .inr rfl

/-- A replaced object is gone iff deletion was requested and no finalizer is left. -/
theorem Replaced.get?_eq_none_iff (h : Replaced c d new stored written) :
    d.get? new.key = none ↔ new.metadata.isReleased = true := by
  rw [h.get?_eq, if_pos rfl]
  split
  · next released => exact iff_of_true rfl released
  · next stays => exact iff_of_false (Option.some_ne_none written) stays

/-- What a replace leaves under the key has the new spec. -/
theorem Replaced.spec_eq (h : Replaced c d new stored written) {b : Object σ τ}
    (hb : d.get? new.key = some b) : b.spec = new.spec := by
  rw [h.get?_eq, if_pos rfl] at hb
  obtain ⟨version, rfl⟩ := h.written_eq
  split at hb
  · cases hb
  · obtain rfl := Option.some.inj hb
    rfl

/-- What a replace leaves under the key has the stored status. -/
theorem Replaced.status_eq (h : Replaced c d new stored written) {b : Object σ τ}
    (hb : d.get? new.key = some b) : b.status = stored.status := by
  rw [h.get?_eq, if_pos rfl] at hb
  obtain ⟨version, rfl⟩ := h.written_eq
  split at hb
  · cases hb
  · obtain rfl := Option.some.inj hb
    rfl

end Written

theorem replaceIn_of_current {c : Catalog (Object σ τ)} {new stored : Object σ τ}
    (version : String) (found : c.get? new.key = some stored)
    (current : stored.metadata.resourceVersion = new.metadata.resourceVersion) :
    (Store.replaceIn c version new).1 = .ok (new.inPlaceOf stored version) ∧
      Replaced c (Store.replaceIn c version new).2 new stored (new.inPlaceOf stored version) := by
  have heq : Store.replaceIn c version new = (.ok (new.inPlaceOf stored version),
      if new.metadata.isReleased then c.erase new.key
      else c.insert new.key (new.inPlaceOf stored version)) := by
    unfold Object.key at found
    simp [Store.replaceIn, found, current, Object.inPlaceOf, Object.key, Meta.isReleased,
      Meta.isDeleted]
  rw [heq]
  refine ⟨rfl, found, current, ⟨version, rfl⟩, fun k => ?_⟩
  by_cases hr : new.metadata.isReleased = true
  · rw [if_pos hr, if_pos hr, Catalog.get?_erase]
  · rw [if_neg hr, if_neg hr, Catalog.get?_insert]

theorem replaceIn_cases (c : Catalog (Object σ τ)) (version : String) (new : Object σ τ) :
    (∃ e, (Store.replaceIn c version new).1 = .error e ∧ (Store.replaceIn c version new).2 = c) ∨
      ∃ stored written, (Store.replaceIn c version new).1 = .ok written ∧
        Replaced c (Store.replaceIn c version new).2 new stored written := by
  cases hf : c.get? new.key with
  | none =>
    refine .inl ⟨Store.failed 404 "not found", ?_⟩
    unfold Object.key at hf
    simp [Store.replaceIn, hf]
  | some stored =>
    by_cases hv : stored.metadata.resourceVersion = new.metadata.resourceVersion
    · exact .inr ⟨stored, _, replaceIn_of_current version hf hv⟩
    · refine .inl ⟨.conflict new.key.name, ?_⟩
      unfold Object.key at hf
      simp [Store.replaceIn, hf, hv, Object.key]

theorem replaceStatusIn_of_current {c : Catalog (Object σ τ)} {new stored : Object σ τ}
    (version : String) (found : c.get? new.key = some stored)
    (current : new.metadata.resourceVersion = none ∨
      stored.metadata.resourceVersion = new.metadata.resourceVersion) :
    (Store.replaceStatusIn c version new).1 = .ok (stored.withStatusOf new version) ∧
      StatusReplaced c (Store.replaceStatusIn c version new).2 new stored
        (stored.withStatusOf new version) := by
  have hc : ¬ (new.metadata.resourceVersion.isSome = true ∧
      stored.metadata.resourceVersion ≠ new.metadata.resourceVersion) := by
    rcases current with h | h <;> simp [h]
  have heq : Store.replaceStatusIn c version new = (.ok (stored.withStatusOf new version),
      c.insert new.key (stored.withStatusOf new version)) := by
    unfold Object.key at found
    simp only [Store.replaceStatusIn, found, if_neg hc]
    rfl
  rw [heq]
  exact ⟨rfl, found, current, ⟨version, rfl⟩, fun k => Catalog.get?_insert c _ k _⟩

theorem replaceStatusIn_cases (c : Catalog (Object σ τ)) (version : String) (new : Object σ τ) :
    (∃ e, (Store.replaceStatusIn c version new).1 = .error e ∧
      (Store.replaceStatusIn c version new).2 = c) ∨
      ∃ stored written, (Store.replaceStatusIn c version new).1 = .ok written ∧
        StatusReplaced c (Store.replaceStatusIn c version new).2 new stored written := by
  cases hf : c.get? new.key with
  | none =>
    refine .inl ⟨Store.failed 404 "not found", ?_⟩
    unfold Object.key at hf
    simp [Store.replaceStatusIn, hf]
  | some stored =>
    by_cases hv : new.metadata.resourceVersion = none ∨
        stored.metadata.resourceVersion = new.metadata.resourceVersion
    · exact .inr ⟨stored, _, replaceStatusIn_of_current version hf hv⟩
    · refine .inl ⟨.conflict new.key.name, ?_⟩
      rw [not_or] at hv
      unfold Object.key at hf
      simp [Store.replaceStatusIn, hf, hv, Option.isSome_iff_ne_none, Object.key]

end Writes

namespace Store

theorem Sound.source_key {s : Store} (hs : s.Sound) {k : ObjectKey} {a : Source}
    (ha : s.sources.get? k = some a) : a.key = k :=
  hs.sources.key_eq ha

theorem Sound.hotNews_key {s : Store} (hs : s.Sound) {k : ObjectKey} {a : HotNews}
    (ha : s.hotNews.get? k = some a) : a.key = k :=
  hs.hotNews.key_eq ha

/-- A HotNews is stored in the namespace that it names. -/
theorem Sound.hotNews_ns {s : Store} (hs : s.Sound) {ns name ns' : String} {a : HotNews}
    (ha : s.hotNews.get? ⟨ns, name⟩ = some a) (placed : a.metadata.ns = some ns') : ns' = ns := by
  have hkey := congrArg ObjectKey.ns (hs.hotNews_key ha)
  simpa [Object.key, ObjectKey.ofMeta, placed] using hkey

/-- The same objects, whatever the counters say. -/
structure SameObjects (s u : Store) : Prop where
  sources : u.sources = s.sources
  hotNews : u.hotNews = s.hotNews
  configMaps : u.configMaps = s.configMaps

theorem SameObjects.trans {s t u : Store} (hst : s.SameObjects t) (htu : t.SameObjects u) :
    s.SameObjects u :=
  ⟨htu.sources.trans hst.sources, htu.hotNews.trans hst.hotNews,
    htu.configMaps.trans hst.configMaps⟩

theorem SameButFaults.sameObjects {s t : Store} (h : s.SameButFaults t) : s.SameObjects t := by
  obtain ⟨_, _, _, rfl⟩ := h
  exact ⟨rfl, rfl, rfl⟩

/-- The Sources alone may differ. -/
structure SameButSources (s u : Store) : Prop where
  hotNews : u.hotNews = s.hotNews
  configMaps : u.configMaps = s.configMaps

/-- The HotNews alone may differ. -/
structure SameButHotNews (s u : Store) : Prop where
  sources : u.sources = s.sources
  configMaps : u.configMaps = s.configMaps

theorem SameObjects.thenSources {s t u : Store} (hst : s.SameObjects t) (htu : t.SameButSources u) :
    s.SameButSources u :=
  ⟨htu.hotNews.trans hst.hotNews, htu.configMaps.trans hst.configMaps⟩

theorem SameButSources.thenObjects {s t u : Store} (hst : s.SameButSources t)
    (htu : t.SameObjects u) : s.SameButSources u :=
  ⟨htu.hotNews.trans hst.hotNews, htu.configMaps.trans hst.configMaps⟩

theorem SameButHotNews.thenObjects {s t u : Store} (hst : s.SameButHotNews t)
    (htu : t.SameObjects u) : s.SameButHotNews u :=
  ⟨htu.sources.trans hst.sources, htu.configMaps.trans hst.configMaps⟩

theorem SameObjects.thenHotNews {s t u : Store} (hst : s.SameObjects t) (htu : t.SameButHotNews u) :
    s.SameButHotNews u :=
  ⟨htu.sources.trans hst.sources, htu.configMaps.trans hst.configMaps⟩

theorem replaceSource_cases (s : Store) (new : Source) :
    (∃ e, (s.replaceSource new).1 = .error e ∧ s.SameObjects (s.replaceSource new).2) ∨
      ∃ stored written, (s.replaceSource new).1 = .ok written ∧
        Replaced s.sources (s.replaceSource new).2.sources new stored written ∧
        s.SameButSources (s.replaceSource new).2 := by
  unfold replaceSource
  split
  · rcases replaceIn_cases s.sources s.nextVersion.2 new with
      ⟨e, h, hc⟩ | ⟨stored, written, h, hr⟩
    · exact .inl ⟨e, h, hc, rfl, rfl⟩
    · exact .inr ⟨stored, written, h, hr, rfl, rfl⟩
  · exact .inl ⟨_, rfl, rfl, rfl, rfl⟩

/-- A replace of a Source that carries the stored version goes through, if no conflict is due. -/
theorem replaceSource_of_current {s : Store} {new stored : Source} (calm : s.sourceConflicts = 0)
    (found : s.sources.get? new.key = some stored)
    (current : stored.metadata.resourceVersion = new.metadata.resourceVersion) :
    ∃ written, (s.replaceSource new).1 = .ok written ∧
      Replaced s.sources (s.replaceSource new).2.sources new stored written := by
  unfold replaceSource
  rw [if_pos calm]
  exact ⟨_, replaceIn_of_current _ found current⟩

theorem replaceSourceStatus_cases (s : Store) (new : Source) :
    (∃ e, (s.replaceSourceStatus new).1 = .error e ∧
      s.SameObjects (s.replaceSourceStatus new).2) ∨
      ∃ stored written, (s.replaceSourceStatus new).1 = .ok written ∧
        StatusReplaced s.sources (s.replaceSourceStatus new).2.sources new stored written ∧
        s.SameButSources (s.replaceSourceStatus new).2 := by
  unfold replaceSourceStatus
  split
  · exact .inl ⟨_, rfl, rfl, rfl, rfl⟩
  · rcases replaceStatusIn_cases s.sources s.nextVersion.2 new with
      ⟨e, h, hc⟩ | ⟨stored, written, h, hr⟩
    · exact .inl ⟨e, h, hc, rfl, rfl⟩
    · exact .inr ⟨stored, written, h, hr, rfl, rfl⟩

/-- A write of the status of a Source that carries the stored version goes through, if such writes
do not fail. -/
theorem replaceSourceStatus_of_current {s : Store} {new stored : Source}
    (calm : s.failStatusWrites = false) (found : s.sources.get? new.key = some stored)
    (current : stored.metadata.resourceVersion = new.metadata.resourceVersion) :
    ∃ written, (s.replaceSourceStatus new).1 = .ok written ∧
      StatusReplaced s.sources (s.replaceSourceStatus new).2.sources new stored written := by
  unfold replaceSourceStatus
  rw [if_neg (by simp [calm])]
  exact ⟨_, replaceStatusIn_of_current _ found (.inr current)⟩

theorem replaceHotNews_cases (s : Store) (new : HotNews) :
    (∃ e, (s.replaceHotNews new).1 = .error e ∧ s.SameObjects (s.replaceHotNews new).2) ∨
      ∃ stored written, (s.replaceHotNews new).1 = .ok written ∧
        Replaced s.hotNews (s.replaceHotNews new).2.hotNews new stored written ∧
        s.SameButHotNews (s.replaceHotNews new).2 := by
  unfold replaceHotNews
  rcases replaceIn_cases s.hotNews s.nextVersion.2 new with
    ⟨e, h, hc⟩ | ⟨stored, written, h, hr⟩
  · exact .inl ⟨e, h, rfl, hc, rfl⟩
  · exact .inr ⟨stored, written, h, hr, rfl, rfl⟩

/-- A replace of a HotNews that carries the stored version goes through. -/
theorem replaceHotNews_of_current {s : Store} {new stored : HotNews}
    (found : s.hotNews.get? new.key = some stored)
    (current : stored.metadata.resourceVersion = new.metadata.resourceVersion) :
    ∃ written, (s.replaceHotNews new).1 = .ok written ∧
      Replaced s.hotNews (s.replaceHotNews new).2.hotNews new stored written :=
  ⟨_, replaceIn_of_current _ found current⟩

theorem replaceHotNewsStatus_cases (s : Store) (new : HotNews) :
    (∃ e, (s.replaceHotNewsStatus new).1 = .error e ∧
      s.SameObjects (s.replaceHotNewsStatus new).2) ∨
      ∃ stored written, (s.replaceHotNewsStatus new).1 = .ok written ∧
        StatusReplaced s.hotNews (s.replaceHotNewsStatus new).2.hotNews new stored written ∧
        s.SameButHotNews (s.replaceHotNewsStatus new).2 := by
  unfold replaceHotNewsStatus
  split
  · exact .inl ⟨_, rfl, rfl, rfl, rfl⟩
  · rcases replaceStatusIn_cases s.hotNews s.nextVersion.2 new with
      ⟨e, h, hc⟩ | ⟨stored, written, h, hr⟩
    · exact .inl ⟨e, h, rfl, hc, rfl⟩
    · exact .inr ⟨stored, written, h, hr, rfl, rfl⟩

/-- A write of the status of a HotNews that carries the stored version goes through, if such writes
do not fail. -/
theorem replaceHotNewsStatus_of_current {s : Store} {new stored : HotNews}
    (calm : s.failStatusWrites = false) (found : s.hotNews.get? new.key = some stored)
    (current : stored.metadata.resourceVersion = new.metadata.resourceVersion) :
    ∃ written, (s.replaceHotNewsStatus new).1 = .ok written ∧
      StatusReplaced s.hotNews (s.replaceHotNewsStatus new).2.hotNews new stored written := by
  unfold replaceHotNewsStatus
  rw [if_neg (by simp [calm])]
  exact ⟨_, replaceStatusIn_of_current _ found (.inr current)⟩

section Accepted

variable {s : Store}

/-- What a replace of a Source that goes through has done. -/
theorem replaced_source {new written : Source} (h : (s.replaceSource new).1 = .ok written) :
    ∃ stored, Replaced s.sources (s.replaceSource new).2.sources new stored written := by
  rcases s.replaceSource_cases new with ⟨e, herror, _⟩ | ⟨stored, _, hok, hr, _⟩
  · cases h.symm.trans herror
  · cases h.symm.trans hok
    exact ⟨stored, hr⟩

/-- What a write of the status of a Source that goes through has done. -/
theorem statusReplaced_source {new written : Source}
    (h : (s.replaceSourceStatus new).1 = .ok written) :
    ∃ stored, StatusReplaced s.sources (s.replaceSourceStatus new).2.sources new stored
      written := by
  rcases s.replaceSourceStatus_cases new with ⟨e, herror, _⟩ | ⟨stored, _, hok, hr, _⟩
  · cases h.symm.trans herror
  · cases h.symm.trans hok
    exact ⟨stored, hr⟩

/-- What a replace of a HotNews that goes through has done. -/
theorem replaced_hotNews {new written : HotNews} (h : (s.replaceHotNews new).1 = .ok written) :
    ∃ stored, Replaced s.hotNews (s.replaceHotNews new).2.hotNews new stored written := by
  rcases s.replaceHotNews_cases new with ⟨e, herror, _⟩ | ⟨stored, _, hok, hr, _⟩
  · cases h.symm.trans herror
  · cases h.symm.trans hok
    exact ⟨stored, hr⟩

/-- What a write of the status of a HotNews that goes through has done. -/
theorem statusReplaced_hotNews {new written : HotNews}
    (h : (s.replaceHotNewsStatus new).1 = .ok written) :
    ∃ stored, StatusReplaced s.hotNews (s.replaceHotNewsStatus new).2.hotNews new stored
      written := by
  rcases s.replaceHotNewsStatus_cases new with ⟨e, herror, _⟩ | ⟨stored, _, hok, hr, _⟩
  · cases h.symm.trans herror
  · cases h.symm.trans hok
    exact ⟨stored, hr⟩

end Accepted

theorem get?_insertSource (s : Store) (a : Source) (k : ObjectKey) :
    (s.insertSource a).sources.get? k = if k = a.key then
      some { a with metadata := stamp (versionText (s.version + 1)) a.metadata }
    else s.sources.get? k :=
  Catalog.get?_insert ..

theorem get?_insertHotNews (s : Store) (a : HotNews) (k : ObjectKey) :
    (s.insertHotNews a).hotNews.get? k = if k = a.key then
      some { a with metadata := stamp (versionText (s.version + 1)) a.metadata }
    else s.hotNews.get? k :=
  Catalog.get?_insert ..

theorem sources_replaceHotNews (s : Store) (new : HotNews) :
    (s.replaceHotNews new).2.sources = s.sources := rfl

/-! ## The failures that are due -/

/-- A store that shows no failure. -/
structure Calm (s : Store) : Prop where
  sourceConflicts : s.sourceConflicts = 0
  failStatusWrites : s.failStatusWrites = false
  failLists : s.failLists = false

/-- No call makes a store show a failure. -/
theorem Calm.answer {s : Store} (h : s.Calm) (c : StoreCall) : (s.answer c).2.Calm := by
  obtain ⟨hc, hw, hl⟩ := h
  cases c with
  | replaceSource =>
    simp only [Store.answer, replaceSource, if_pos hc]
    exact ⟨hc, hw, hl⟩
  | replaceSourceStatus =>
    simp only [Store.answer, replaceSourceStatus, hw]
    exact ⟨hc, hw, hl⟩
  | replaceHotNewsStatus =>
    simp only [Store.answer, replaceHotNewsStatus, hw]
    exact ⟨hc, hw, hl⟩
  | replaceHotNews | getSource | listSources | getHotNews | listHotNews | getConfigMap =>
    exact ⟨hc, hw, hl⟩

/-- No call brings about a conflict. -/
theorem sourceConflicts_answer {s : Store} (h : s.sourceConflicts = 0) (c : StoreCall) :
    (s.answer c).2.sourceConflicts = 0 := by
  cases c with
  | replaceSource =>
    simp only [answer, replaceSource, if_pos h]
    exact h
  | replaceSourceStatus =>
    simp only [answer, replaceSourceStatus]
    split <;> exact h
  | replaceHotNewsStatus =>
    simp only [answer, replaceHotNewsStatus]
    split <;> exact h
  | replaceHotNews | getSource | listSources | getHotNews | listHotNews | getConfigMap => exact h

theorem failLists_answer (s : Store) (c : StoreCall) : (s.answer c).2.failLists = s.failLists := by
  cases c with
  | replaceSource =>
    simp only [answer, replaceSource]
    split <;> rfl
  | replaceSourceStatus =>
    simp only [answer, replaceSourceStatus]
    split <;> rfl
  | replaceHotNewsStatus =>
    simp only [answer, replaceHotNewsStatus]
    split <;> rfl
  | replaceHotNews | getSource | listSources | getHotNews | listHotNews | getConfigMap => rfl

theorem failStatusWrites_answer (s : Store) (c : StoreCall) :
    (s.answer c).2.failStatusWrites = s.failStatusWrites := by
  cases c with
  | replaceSource =>
    simp only [answer, replaceSource]
    split <;> rfl
  | replaceSourceStatus =>
    simp only [answer, replaceSourceStatus]
    split <;> rfl
  | replaceHotNewsStatus =>
    simp only [answer, replaceHotNewsStatus]
    split <;> rfl
  | replaceHotNews | getSource | listSources | getHotNews | listHotNews | getConfigMap => rfl

/-- No call writes a ConfigMap. -/
theorem configMaps_answer (s : Store) (c : StoreCall) :
    (s.answer c).2.configMaps = s.configMaps := by
  cases c with
  | replaceSource =>
    simp only [answer, replaceSource]
    split <;> rfl
  | replaceSourceStatus =>
    simp only [answer, replaceSourceStatus]
    split <;> rfl
  | replaceHotNewsStatus =>
    simp only [answer, replaceHotNewsStatus]
    split <;> rfl
  | replaceHotNews | getSource | listSources | getHotNews | listHotNews | getConfigMap => rfl

end Store

section Runs

variable {w : Climate} {α : Type} {p : Pass α} {s t u : Store} {es : List Event} {a : α}

theorem Climate.sameObjects (meets : w.Meets s t) : s.SameObjects t :=
  (w.sameButFaults meets).sameObjects

/-- A Source that is found under a key has the key, and is there at the next call. -/
theorem Climate.source_stands (meets : w.Meets s t) (hs : s.Sound) {k : ObjectKey} {b : Source}
    (stored : s.sources.get? k = some b) : b.key = k ∧ t.sources.get? b.key = some b := by
  have hkey := hs.source_key stored
  exact ⟨hkey, by rw [hkey, (w.sameObjects meets).sources, stored]⟩

/-- So for a HotNews. -/
theorem Climate.hotNews_stands (meets : w.Meets s t) (hs : s.Sound) {k : ObjectKey} {b : HotNews}
    (stored : s.hotNews.get? k = some b) : b.key = k ∧ t.hotNews.get? b.key = some b := by
  have hkey := hs.hotNews_key stored
  exact ⟨hkey, by rw [hkey, (w.sameObjects meets).hotNews, stored]⟩

/-- A run leaves the ConfigMaps alone. -/
theorem Pass.LeadsIn.configMaps_eq (h : p.LeadsIn w s es a u) : u.configMaps = s.configMaps :=
  h.preserves (fun t c ht => (t.configMaps_answer c).trans ht)
    (fun _ _ meets ht => (w.sameObjects meets).configMaps.trans ht) rfl

/-- A run during which no failure is set leaves it whether writes of a status fail. -/
theorem Pass.LeadsIn.failStatusWrites_eq (h : p.Leads s es a u) :
    u.failStatusWrites = s.failStatusWrites :=
  h.preserves (fun t c ht => (t.failStatusWrites_answer c).trans ht) rfl

/-- Such a run brings about no conflict. -/
theorem Pass.LeadsIn.sourceConflicts_eq_zero (h : p.Leads s es a u) (hs : s.sourceConflicts = 0) :
    u.sourceConflicts = 0 :=
  h.preserves (I := (·.sourceConflicts = 0)) (fun _ c ht => Store.sourceConflicts_answer ht c) hs

/-- Such a run makes no store show a failure. -/
theorem Pass.LeadsIn.calm (h : p.Leads s es a u) (hs : s.Calm) : u.Calm :=
  h.preserves (fun _ c hs => hs.answer c) hs

end Runs

end FeedOperator
