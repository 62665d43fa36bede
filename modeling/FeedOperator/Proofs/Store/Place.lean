import FeedOperator.Proofs.Store.Version

/-!
# Places

An object is stored at a place: its type and its key. All that can happen to a store is told by
what it does at each place.

* `Place`, `Resource.place`, `Store.at?`: where objects are stored, and what is stored there.
* `StoreCall.handed?`: the object that a write hands in.
* `Store.Writes`, `Store.Reads`, `Store.Shows`: the objects that a client gets to see, those that
  were written and those that were read.
* `Place.deletion?`: the request to delete the object at a place.
* `Store.obstructs`, `Store.takes`: the calls that are made to fail, and what takes a version.
* `Store.afterAll`, `Store.WritesIn`: any number of such things, and whether they write at a place.

Results:
* `after_cases`: at each place an object is written, or marked for deletion, or left alone.
* `Writes.stands`, `Writes.version?_eq`: what is written stands at its place or is gone, and carries
  the version that was taken.
* `versions_ascend`: the versions that a run takes ascend.
* `mayMark_of_not_writesIn`, `newer_of_writesIn`: what a run leaves at a place where it does not
  write, and at a place where it does.
-/

namespace FeedOperator

/-- Where an object is stored. -/
inductive Place where
  | source (key : ObjectKey)
  | hotNews (key : ObjectKey)
  | configMap (key : ObjectKey)
  deriving DecidableEq

/-- The request to delete the object at a place, where such requests are made. -/
def Place.deletion? : Place → Option StoreOp
  | .source key => some (.deleteSource key)
  | .hotNews key => some (.deleteHotNews key)
  | .configMap _ => none

namespace Resource

/-- The metadata of an object. -/
def metadata : Resource → Meta
  | .source o => o.metadata
  | .hotNews o => o.metadata
  | .configMap o => o.metadata

/-- The version that an object carries. -/
def version? (o : Resource) : Option String :=
  o.metadata.resourceVersion

/-- The place where an object belongs. -/
def place : Resource → Place
  | .source o => .source o.key
  | .hotNews o => .hotNews o.key
  | .configMap o => .configMap (.ofMeta o.metadata)

/-- The object after its deletion was requested, which leaves ConfigMaps alone. -/
def marked : Resource → Resource
  | .source o => .source o.marked
  | .hotNews o => .hotNews o.marked
  | .configMap o => .configMap o

/-- The object as an insertion stores it. -/
def stamped (version : String) : Resource → Resource
  | .source o => .source { o with metadata := Store.stamp version o.metadata }
  | .hotNews o => .hotNews { o with metadata := Store.stamp version o.metadata }
  | .configMap o => .configMap { o with metadata := Store.stamp version o.metadata }

/-- The same object, but its deletion may have been requested. -/
def MayMark (a b : Resource) : Prop := b = a ∨ b = a.marked

@[simp]
theorem place_marked (o : Resource) : o.marked.place = o.place := by
  cases o <;> rfl

@[simp]
theorem version?_marked (o : Resource) : o.marked.version? = o.version? := by
  cases o <;> rfl

@[simp]
theorem marked_marked (o : Resource) : o.marked.marked = o.marked := by
  cases o <;> rfl

@[simp]
theorem place_stamped (version : String) (o : Resource) : (o.stamped version).place = o.place := by
  cases o <;> rfl

@[simp]
theorem version?_stamped (version : String) (o : Resource) :
    (o.stamped version).version? = some version := by
  cases o <;> rfl

variable {a b c : Resource}

theorem MayMark.version?_eq (h : a.MayMark b) : b.version? = a.version? := by
  rcases h with rfl | rfl
  · rfl
  · exact version?_marked a

theorem MayMark.trans (hab : a.MayMark b) (hbc : b.MayMark c) : a.MayMark c := by
  rcases hab with rfl | rfl
  · exact hbc
  · rcases hbc with rfl | rfl
    · exact .inr rfl
    · exact .inr (marked_marked a)

end Resource

namespace StoreCall

/-- The object that a write hands in. -/
def handed? : StoreCall → Option Resource
  | .replaceSource o => some (.source o)
  | .replaceSourceStatus o => some (.source o)
  | .replaceHotNews o => some (.hotNews o)
  | .replaceHotNewsStatus o => some (.hotNews o)
  | .getSource _ _ | .listSources _ | .getHotNews _ _ | .listHotNews _ | .getConfigMap _ _ => none

/-- Whether a call writes a status. -/
def writesStatus : StoreCall → Bool
  | .replaceSourceStatus _ | .replaceHotNewsStatus _ => true
  | _ => false

end StoreCall

namespace Store

/-- What is stored at a place. -/
def at? (s : Store) : Place → Option Resource
  | .source key => (s.sources.get? key).map .source
  | .hotNews key => (s.hotNews.get? key).map .hotNews
  | .configMap key => (s.configMaps.get? key).map .configMap

/-- Whether a call is made to fail. -/
def obstructs (s : Store) : StoreCall → Bool
  | .replaceSource _ => s.sourceConflicts != 0
  | .replaceSourceStatus _ | .replaceHotNewsStatus _ => s.failStatusWrites
  | .listSources _ | .listHotNews _ => s.failLists
  | .replaceHotNews _ | .getSource _ _ | .getHotNews _ _ | .getConfigMap _ _ => false

/-- Whether something takes the next version: an insertion, or a write that is not made to fail,
even if it is refused. -/
def takes (s : Store) : StoreOp → Bool
  | .insert _ => true
  | .call c => c.handed?.isSome && !s.obstructs c
  | .deleteSource _ | .deleteHotNews _ | .faults _ _ _ => false

/-- The objects that are written, as they are given back. -/
inductive Writes (s : Store) : StoreOp → Resource → Prop
  | insert (o : Resource) : Writes s (.insert o) (o.stamped s.nextVersion.2)
  | source {new written : Source} (h : (s.replaceSource new).1 = .ok written) :
    Writes s (.call (.replaceSource new)) (.source written)
  | sourceStatus {new written : Source} (h : (s.replaceSourceStatus new).1 = .ok written) :
    Writes s (.call (.replaceSourceStatus new)) (.source written)
  | hotNews {new written : HotNews} (h : (s.replaceHotNews new).1 = .ok written) :
    Writes s (.call (.replaceHotNews new)) (.hotNews written)
  | hotNewsStatus {new written : HotNews} (h : (s.replaceHotNewsStatus new).1 = .ok written) :
    Writes s (.call (.replaceHotNewsStatus new)) (.hotNews written)

/-- The objects that are read, one by one or in a list. -/
inductive Reads (s : Store) : StoreOp → Resource → Prop
  | source {ns name : String} {o : Source} (h : (s.answer (.getSource ns name)).1 = .ok (some o)) :
    Reads s (.call (.getSource ns name)) (.source o)
  | sources {ns : String} {os : List Source} {o : Source}
    (h : (s.answer (.listSources ns)).1 = .ok os) (mem : o ∈ os) :
    Reads s (.call (.listSources ns)) (.source o)
  | hotNews {ns name : String} {o : HotNews}
    (h : (s.answer (.getHotNews ns name)).1 = .ok (some o)) :
    Reads s (.call (.getHotNews ns name)) (.hotNews o)
  | hotNewsList {ns : Option String} {os : List HotNews} {o : HotNews}
    (h : (s.answer (.listHotNews ns)).1 = .ok os) (mem : o ∈ os) :
    Reads s (.call (.listHotNews ns)) (.hotNews o)
  | configMap {ns name : String} {o : ConfigMap}
    (h : (s.answer (.getConfigMap ns name)).1 = .ok (some o)) :
    Reads s (.call (.getConfigMap ns name)) (.configMap o)

/-- The objects that a client gets to see. -/
def Shows (s : Store) (op : StoreOp) (o : Resource) : Prop :=
  s.Reads op o ∨ s.Writes op o

/-- The store after any number of things happened to it. -/
def afterAll (s : Store) (ops : List StoreOp) : Store :=
  ops.foldl after s

/-- Whether something among them writes at a place. -/
def WritesIn (p : Place) : Store → List StoreOp → Prop
  | _, [] => False
  | s, op :: rest => (∃ o, s.Writes op o ∧ o.place = p) ∨ WritesIn p (s.after op) rest

/-- The versions that are taken one after the other. -/
def versions : Store → List StoreOp → List String
  | _, [] => []
  | s, op :: rest =>
    if s.takes op then s.nextVersion.2 :: versions (s.after op) rest
    else versions (s.after op) rest

variable {s t : Store} {op : StoreOp} {o a b : Resource} {p : Place}

/-! ## What is stored at a place -/

theorem SameObjects.at?_eq (h : s.SameObjects t) (p : Place) : t.at? p = s.at? p := by
  obtain ⟨hsources, hhotNews, hconfigMaps⟩ := h
  cases p with
  | source key => unfold at?; rw [hsources]
  | hotNews key => unfold at?; rw [hhotNews]
  | configMap key => unfold at?; rw [hconfigMaps]

/-- An object that is stored belongs where it is stored. -/
theorem Sound.place_eq (hs : s.Sound) (h : s.at? p = some o) : o.place = p := by
  cases p with
  | source key =>
    obtain ⟨a, ha, rfl⟩ := Option.map_eq_some_iff.mp h
    exact congrArg Place.source (hs.sources.key_eq ha)
  | hotNews key =>
    obtain ⟨a, ha, rfl⟩ := Option.map_eq_some_iff.mp h
    exact congrArg Place.hotNews (hs.hotNews.key_eq ha)
  | configMap key =>
    obtain ⟨a, ha, rfl⟩ := Option.map_eq_some_iff.mp h
    exact congrArg Place.configMap (hs.configMaps.key_eq ha)

/-- An object that is stored carries a version that was given out. -/
theorem Stamped.version?_eq (hs : s.Stamped) (h : s.at? p = some o) :
    ∃ n ≤ s.version, o.version? = some (versionText n) := by
  cases p with
  | source key =>
    obtain ⟨a, ha, rfl⟩ := Option.map_eq_some_iff.mp h
    exact hs.sources key a ha
  | hotNews key =>
    obtain ⟨a, ha, rfl⟩ := Option.map_eq_some_iff.mp h
    exact hs.hotNews key a ha
  | configMap key =>
    obtain ⟨a, ha, rfl⟩ := Option.map_eq_some_iff.mp h
    exact hs.configMaps key a ha

/-! ## One thing that happens -/

theorem at?_source_cases {key : ObjectKey} {o : Source}
    (h : s.sources.get? key = none ∨ s.sources.get? key = some o) :
    s.at? (.source key) = none ∨ s.at? (.source key) = some (.source o) :=
  h.imp (congrArg (Option.map Resource.source)) (congrArg (Option.map Resource.source))

theorem at?_hotNews_cases {key : ObjectKey} {o : HotNews}
    (h : s.hotNews.get? key = none ∨ s.hotNews.get? key = some o) :
    s.at? (.hotNews key) = none ∨ s.at? (.hotNews key) = some (.hotNews o) :=
  h.imp (congrArg (Option.map Resource.hotNews)) (congrArg (Option.map Resource.hotNews))

/-- An insertion stores an object at its place and touches no other one. -/
theorem at?_insert (s : Store) (o : Resource) (p : Place) :
    (s.insert o).at? p = if p = o.place then some (o.stamped s.nextVersion.2) else s.at? p := by
  cases o with
  | source o =>
    cases p with
    | source key =>
      change ((s.insertSource o).sources.get? key).map _ = _
      rw [get?_insertSource, apply_ite (Option.map Resource.source)]
      simp only [Resource.place, Place.source.injEq]
      rfl
    | hotNews | configMap => exact (if_neg (fun h => by cases h)).symm
  | hotNews o =>
    cases p with
    | hotNews key =>
      change ((s.insertHotNews o).hotNews.get? key).map _ = _
      rw [get?_insertHotNews, apply_ite (Option.map Resource.hotNews)]
      simp only [Resource.place, Place.hotNews.injEq]
      rfl
    | source | configMap => exact (if_neg (fun h => by cases h)).symm
  | configMap o =>
    cases p with
    | configMap key =>
      change ((s.configMaps.insert _ _).get? key).map _ = _
      rw [Catalog.get?_insert, apply_ite (Option.map Resource.configMap)]
      simp only [Resource.place, Place.configMap.injEq]
      rfl
    | source | hotNews => exact (if_neg (fun h => by cases h)).symm

/-- **What is written stands at its place, or is gone.** -/
theorem Writes.stands (hs : s.Sound) (h : s.Writes op o) :
    (s.after op).at? o.place = none ∨ (s.after op).at? o.place = some o := by
  cases h with
  | insert a =>
    right
    change (s.insert a).at? _ = _
    rw [at?_insert, Resource.place_stamped, if_pos rfl]
  | source h =>
    obtain ⟨_, hr⟩ := replaced_source h
    exact at?_source_cases hr.stands
  | @sourceStatus new written h =>
    obtain ⟨_, hr⟩ := statusReplaced_source h
    have hkey : written.key = new.key := hr.key_eq (hs.source_key hr.found)
    exact at?_source_cases (.inr (hkey ▸ hr.get?_self))
  | hotNews h =>
    obtain ⟨_, hr⟩ := replaced_hotNews h
    exact at?_hotNews_cases hr.stands
  | @hotNewsStatus new written h =>
    obtain ⟨_, hr⟩ := statusReplaced_hotNews h
    have hkey : written.key = new.key := hr.key_eq (hs.hotNews_key hr.found)
    exact at?_hotNews_cases (.inr (hkey ▸ hr.get?_self))

/-- A request to delete an object marks the object under its key, or takes it away, or does
nothing; it touches no other key. -/
theorem get?_markDeleted_cases {σ τ : Type} (c : Catalog (Object σ τ)) (key k : ObjectKey) :
    (markDeleted c key).get? k = c.get? k ∨
      k = key ∧ ∃ a, c.get? k = some a ∧
        ((markDeleted c key).get? k = none ∨ (markDeleted c key).get? k = some a.marked) := by
  have changes := markDeleted_changes c key
  by_cases hk : k = key
  · have hev := changes.evolves k
    generalize c.get? k = before, (markDeleted c key).get? k = now at hev ⊢
    cases hev with
    | absent => exact .inl rfl
    | gone => exact .inr ⟨hk, _, rfl, .inl rfl⟩
    | kept h =>
      rcases h with rfl | rfl
      · exact .inl rfl
      · exact .inr ⟨hk, _, rfl, .inr rfl⟩
  · exact .inl (changes.elsewhere k hk)

theorem SameButSources.at?_eq (h : s.SameButSources t)
    (elsewhere : ∀ k, p = .source k → t.sources.get? k = s.sources.get? k) :
    t.at? p = s.at? p := by
  cases p with
  | source key => exact congrArg (Option.map Resource.source) (elsewhere key rfl)
  | hotNews key => unfold at?; rw [h.hotNews]
  | configMap key => unfold at?; rw [h.configMaps]

theorem SameButHotNews.at?_eq (h : s.SameButHotNews t)
    (elsewhere : ∀ k, p = .hotNews k → t.hotNews.get? k = s.hotNews.get? k) :
    t.at? p = s.at? p := by
  cases p with
  | source key => unfold at?; rw [h.sources]
  | hotNews key => exact congrArg (Option.map Resource.hotNews) (elsewhere key rfl)
  | configMap key => unfold at?; rw [h.configMaps]

/-- **A call writes at a place, or leaves what is there alone.** -/
theorem at?_answer_cases (hs : s.Sound) (c : StoreCall) (p : Place) :
    (∃ o, s.Writes (.call c) o ∧ o.place = p) ∨ (s.answer c).2.at? p = s.at? p := by
  cases c with
  | replaceSource new =>
    rcases s.replaceSource_cases new with ⟨e, he, hsame⟩ | ⟨stored, written, hw, hr, hrest⟩
    · exact .inr (hsame.at?_eq p)
    · by_cases hp : p = .source written.key
      · exact .inl ⟨_, .source hw, hp.symm⟩
      · right
        refine hrest.at?_eq fun k hk => hr.elsewhere ?_
        rintro rfl
        exact hp (hr.key_eq ▸ hk)
  | replaceSourceStatus new =>
    rcases s.replaceSourceStatus_cases new with ⟨e, he, hsame⟩ | ⟨stored, written, hw, hr, hrest⟩
    · exact .inr (hsame.at?_eq p)
    · have hkey : written.key = new.key := hr.key_eq (hs.source_key hr.found)
      by_cases hp : p = .source written.key
      · exact .inl ⟨_, .sourceStatus hw, hp.symm⟩
      · right
        refine hrest.at?_eq fun k hk => hr.elsewhere ?_
        rintro rfl
        exact hp (hkey ▸ hk)
  | replaceHotNews new =>
    rcases s.replaceHotNews_cases new with ⟨e, he, hsame⟩ | ⟨stored, written, hw, hr, hrest⟩
    · exact .inr (hsame.at?_eq p)
    · by_cases hp : p = .hotNews written.key
      · exact .inl ⟨_, .hotNews hw, hp.symm⟩
      · right
        refine hrest.at?_eq fun k hk => hr.elsewhere ?_
        rintro rfl
        exact hp (hr.key_eq ▸ hk)
  | replaceHotNewsStatus new =>
    rcases s.replaceHotNewsStatus_cases new with ⟨e, he, hsame⟩ | ⟨stored, written, hw, hr, hrest⟩
    · exact .inr (hsame.at?_eq p)
    · have hkey : written.key = new.key := hr.key_eq (hs.hotNews_key hr.found)
      by_cases hp : p = .hotNews written.key
      · exact .inl ⟨_, .hotNewsStatus hw, hp.symm⟩
      · right
        refine hrest.at?_eq fun k hk => hr.elsewhere ?_
        rintro rfl
        exact hp (hkey ▸ hk)
  | getSource | listSources | getHotNews | listHotNews | getConfigMap => exact .inr rfl

/-- What a request to delete an object does at a place. -/
theorem at?_delete_cases (s : Store) {key : ObjectKey}
    (hop : op = .deleteSource key ∨ op = .deleteHotNews key) (p : Place) :
    (s.after op).at? p = s.at? p ∨ p.deletion? = some op ∧ ∃ a, s.at? p = some a ∧
      ((s.after op).at? p = none ∨ (s.after op).at? p = some a.marked) := by
  rcases hop with rfl | rfl
  · cases p with
    | source k =>
      rcases get?_markDeleted_cases s.sources key k with h | ⟨rfl, a, ha, h⟩
      · exact .inl (congrArg (Option.map Resource.source) h)
      · exact .inr ⟨rfl, _, congrArg (Option.map Resource.source) ha, at?_source_cases h⟩
    | hotNews | configMap => exact .inl rfl
  · cases p with
    | hotNews k =>
      rcases get?_markDeleted_cases s.hotNews key k with h | ⟨rfl, a, ha, h⟩
      · exact .inl (congrArg (Option.map Resource.hotNews) h)
      · exact .inr ⟨rfl, _, congrArg (Option.map Resource.hotNews) ha, at?_hotNews_cases h⟩
    | source | configMap => exact .inl rfl

/-- **At each place an object is written, or marked for deletion, or left alone.** -/
theorem after_cases (hs : s.Sound) (op : StoreOp) (p : Place) :
    (∃ o, s.Writes op o ∧ o.place = p) ∨ (s.after op).at? p = s.at? p ∨
      p.deletion? = some op ∧ ∃ a, s.at? p = some a ∧
        ((s.after op).at? p = none ∨ (s.after op).at? p = some a.marked) := by
  cases op with
  | insert o =>
    by_cases hp : p = o.place
    · exact .inl ⟨_, .insert o, by rw [Resource.place_stamped, hp]⟩
    · exact .inr (.inl ((s.at?_insert o p).trans (if_neg hp)))
  | deleteSource key => exact .inr (s.at?_delete_cases (.inl rfl) p)
  | deleteHotNews key => exact .inr (s.at?_delete_cases (.inr rfl) p)
  | call c => exact (at?_answer_cases hs c p).imp_right .inl
  | faults => exact .inr (.inl (by cases p <;> rfl))

/-! ## Versions -/

section Written

variable {σ τ : Type} {c : Catalog (Object σ τ)} {version : String} {new written : Object σ τ}

theorem version_replaceIn (h : (replaceIn c version new).1 = .ok written) :
    written.metadata.resourceVersion = some version := by
  unfold replaceIn at h
  dsimp only at h
  split at h
  · cases h
  · split at h <;> cases h
    rfl

theorem version_replaceStatusIn (h : (replaceStatusIn c version new).1 = .ok written) :
    written.metadata.resourceVersion = some version := by
  unfold replaceStatusIn at h
  dsimp only at h
  split at h
  · cases h
  · split at h <;> cases h
    rfl

end Written

/-- **What is written carries the version that was taken.** -/
theorem Writes.version?_eq (h : s.Writes op o) :
    s.takes op = true ∧ o.version? = some s.nextVersion.2 := by
  cases h with
  | insert a => exact ⟨rfl, Resource.version?_stamped _ a⟩
  | @source new written h =>
    unfold replaceSource at h
    split at h
    · next calm => exact ⟨by simp [takes, obstructs, StoreCall.handed?, calm], version_replaceIn h⟩
    · cases h
  | @sourceStatus new written h =>
    unfold replaceSourceStatus at h
    split at h
    · cases h
    · next calm =>
      exact ⟨by simp [takes, obstructs, StoreCall.handed?, calm], version_replaceStatusIn h⟩
  | hotNews h => exact ⟨rfl, version_replaceIn h⟩
  | @hotNewsStatus new written h =>
    unfold replaceHotNewsStatus at h
    split at h
    · cases h
    · next calm =>
      exact ⟨by simp [takes, obstructs, StoreCall.handed?, calm], version_replaceStatusIn h⟩

/-- The counter moves on exactly with what takes a version. -/
theorem version_after (s : Store) (op : StoreOp) :
    (s.after op).version = if s.takes op then s.version + 1 else s.version := by
  cases op with
  | insert o => cases o <;> rfl
  | deleteSource | deleteHotNews | faults => rfl
  | call c =>
    cases c with
    | replaceSource new =>
      change (s.replaceSource new).2.version = _
      unfold replaceSource
      by_cases h : s.sourceConflicts = 0 <;>
        simp [h, takes, obstructs, StoreCall.handed?, nextVersion]
    | replaceSourceStatus new =>
      change (s.replaceSourceStatus new).2.version = _
      unfold replaceSourceStatus
      by_cases h : s.failStatusWrites <;>
        simp [h, takes, obstructs, StoreCall.handed?, nextVersion]
    | replaceHotNewsStatus new =>
      change (s.replaceHotNewsStatus new).2.version = _
      unfold replaceHotNewsStatus
      by_cases h : s.failStatusWrites <;>
        simp [h, takes, obstructs, StoreCall.handed?, nextVersion]
    | replaceHotNews | getSource | listSources | getHotNews | listHotNews | getConfigMap => rfl

theorem version_le_after (s : Store) (op : StoreOp) : s.version ≤ (s.after op).version := by
  rw [version_after]
  split
  · exact Nat.le_succ _
  · exact le_refl _

theorem Writes.version_after (h : s.Writes op o) : (s.after op).version = s.version + 1 := by
  rw [Store.version_after, if_pos h.version?_eq.1]

/-- **The versions that are taken ascend.** -/
theorem versions_ascend (s : Store) (ops : List StoreOp) :
    ∃ numbers : List Nat, s.versions ops = numbers.map versionText ∧
      (s.version :: numbers).Pairwise (· < ·) := by
  induction ops generalizing s with
  | nil => exact ⟨[], rfl, List.pairwise_singleton _ _⟩
  | cons op rest ih =>
    obtain ⟨numbers, hversions, hnumbers⟩ := ih (s.after op)
    have hversion := s.version_after op
    by_cases h : s.takes op = true
    · rw [if_pos h] at hversion
      refine ⟨(s.version + 1) :: numbers, ?_, ?_⟩
      · rw [versions, if_pos h, hversions]
        rfl
      · rw [hversion] at hnumbers
        refine List.pairwise_cons.mpr ⟨fun n hn => ?_, hnumbers⟩
        rcases List.mem_cons.mp hn with rfl | hn
        · exact Nat.lt_succ_self _
        · exact Nat.lt_of_succ_lt ((List.pairwise_cons.mp hnumbers).1 n hn)
    · rw [if_neg h] at hversion
      refine ⟨numbers, ?_, hversion ▸ hnumbers⟩
      rw [versions, if_neg h, hversions]

/-- **What is stored was written just now, or was there before.** -/
theorem stored_after (hs : s.Sound) (hb : (s.after op).at? p = some b) :
    s.Writes op b ∨ ∃ a, s.at? p = some a ∧ a.MayMark b := by
  rcases after_cases hs op p with ⟨o, ho, rfl⟩ | hsame | ⟨-, a, ha, hgone | hmarked⟩
  · rcases ho.stands hs with hnone | hsome
    · cases hb.symm.trans hnone
    · cases hb.symm.trans hsome
      exact .inl ho
  · exact .inr ⟨b, hsame ▸ hb, .inl rfl⟩
  · cases hb.symm.trans hgone
  · cases hb.symm.trans hmarked
    exact .inr ⟨a, ha, .inr rfl⟩

/-! ## Runs -/

theorem Sound.afterAll (hs : s.Sound) (ops : List StoreOp) : (s.afterAll ops).Sound := by
  induction ops generalizing s with
  | nil => exact hs
  | cons op rest ih => exact ih (sound_after hs op)

/-- **Where a run does not write, it leaves the object that was there**, marked for deletion at
most, or none. -/
theorem mayMark_of_not_writesIn (hs : s.Sound) {ops : List StoreOp} (h : ¬ WritesIn p s ops)
    (hb : (s.afterAll ops).at? p = some b) : ∃ a, s.at? p = some a ∧ a.MayMark b := by
  induction ops generalizing s with
  | nil => exact ⟨b, hb, .inl rfl⟩
  | cons op rest ih =>
    obtain ⟨hop, hrest⟩ := not_or.mp h
    obtain ⟨c, hc, hcb⟩ := ih (sound_after hs op) hrest hb
    rcases after_cases hs op p with hw | hsame | ⟨-, a, ha, hgone | hmarked⟩
    · exact absurd hw hop
    · exact ⟨c, hsame ▸ hc, hcb⟩
    · cases hc.symm.trans hgone
    · cases hc.symm.trans hmarked
      exact ⟨a, ha, Resource.MayMark.trans (.inr rfl) hcb⟩

/-- **Where a run writes, it leaves an object with a new version**, or none. -/
theorem newer_of_writesIn (hs : s.Sound) {ops : List StoreOp} (h : WritesIn p s ops)
    (hb : (s.afterAll ops).at? p = some b) :
    ∃ n, s.version < n ∧ b.version? = some (versionText n) := by
  induction ops generalizing s with
  | nil => exact h.elim
  | cons op rest ih =>
    have hsound := sound_after hs op
    by_cases hrest : WritesIn p (s.after op) rest
    · obtain ⟨n, hn, hversion⟩ := ih hsound hrest hb
      exact ⟨n, (s.version_le_after op).trans_lt hn, hversion⟩
    · obtain ⟨a, ha, hab⟩ := mayMark_of_not_writesIn hsound hrest hb
      rcases h with ⟨o, ho, rfl⟩ | h
      · rcases ho.stands hs with hnone | hsome
        · cases ha.symm.trans hnone
        · cases ha.symm.trans hsome
          exact ⟨s.version + 1, Nat.lt_succ_self _, hab.version?_eq.trans ho.version?_eq.2⟩
      · exact absurd h hrest

end Store

end FeedOperator
