import FeedOperator.Proofs.Run
import FeedOperator.Proofs.Store.Catalog
import FeedOperator.Rehearsal

/-!
# Stores that can come about

A store starts empty, and changes by the calls of its clients, by insertions and requests to delete
of users, and by the failures that it is told to show.

* `StoreOp`, `Store.after`: one such change.
* `Store.Built`: the stores that come about.
* `Store.Sound`: every object stands under its own key, and the keys ascend.

Results:
* `sound_answer`: every call keeps a store sound, whatever object it hands in.
* `Built.sound`: every store that comes about is sound.
-/

namespace FeedOperator

/-- What can happen to a store. -/
inductive StoreOp where
  /-- A user stores an object. -/
  | insert (o : Resource)
  /-- A user asks for the deletion of a Source. -/
  | deleteSource (key : ObjectKey)
  /-- A user asks for the deletion of a HotNews. -/
  | deleteHotNews (key : ObjectKey)
  /-- A client makes a call. -/
  | call (c : StoreCall)
  /-- The store is told how to fail from now on. -/
  | faults (conflicts : Nat) (failStatusWrites failLists : Bool)

namespace Store

/-- The store after something happened to it. -/
def after (s : Store) : StoreOp → Store
  | .insert o => s.insert o
  | .deleteSource key => s.deleteSource key
  | .deleteHotNews key => s.deleteHotNews key
  | .call c => (s.answer c).2
  | .faults conflicts failStatusWrites failLists =>
    s.withFaults conflicts failStatusWrites failLists

/-- The stores that come about. -/
inductive Built : Store → Prop
  | empty : Built {}
  | after {s : Store} (h : Built s) (op : StoreOp) : Built (s.after op)

theorem Built.insert {s : Store} (h : s.Built) (o : Resource) : (s.insert o).Built :=
  h.after (.insert o)

/-- Objects that stand under their own keys, which ascend. -/
structure InPlace {α : Type} (metadata : α → Meta) (c : Catalog α) : Prop where
  ordered : c.Ordered
  keyed : c.Keyed fun a => .ofMeta (metadata a)

/-- All objects stand under their own keys, which ascend. -/
structure Sound (s : Store) : Prop where
  sources : InPlace Object.metadata s.sources
  hotNews : InPlace Object.metadata s.hotNews
  configMaps : InPlace ConfigMap.metadata s.configMaps

section InPlace

variable {α σ τ : Type} {metadata : α → Meta}

theorem InPlace.empty : InPlace metadata {} :=
  ⟨List.Pairwise.nil, fun _ h => absurd h List.not_mem_nil⟩

theorem InPlace.insert {c : Catalog α} (h : InPlace metadata c) (a : α) {key : ObjectKey}
    (hk : .ofMeta (metadata a) = key) : InPlace metadata (c.insert key a) := by
  subst hk
  exact ⟨h.ordered.insert _ _, h.keyed.insert a⟩

theorem InPlace.erase {c : Catalog α} (h : InPlace metadata c) (key : ObjectKey) :
    InPlace metadata (c.erase key) :=
  ⟨h.ordered.erase key, h.keyed.erase key⟩

/-- An object that is found has the key under which it is found. -/
theorem InPlace.key_eq {c : Catalog α} (h : InPlace metadata c) {k : ObjectKey} {a : α}
    (ha : c.get? k = some a) : .ofMeta (metadata a) = k :=
  h.keyed.eq_of_get? ha

theorem InPlace.markDeleted {c : Catalog (Object σ τ)} (h : InPlace Object.metadata c)
    (key : ObjectKey) : InPlace Object.metadata (markDeleted c key) := by
  unfold Store.markDeleted
  split
  · exact h
  · next o ho =>
    have hk : ObjectKey.ofMeta o.metadata = key := h.key_eq ho
    dsimp only
    split
    · exact h.erase key
    · exact h.insert _ hk

theorem InPlace.replaceIn {c : Catalog (Object σ τ)} (h : InPlace Object.metadata c)
    (version : String) (o : Object σ τ) : InPlace Object.metadata (replaceIn c version o).2 := by
  unfold Store.replaceIn
  dsimp only
  split
  · exact h
  · split
    · exact h
    · dsimp only
      split
      · exact h.erase _
      · exact h.insert _ rfl

theorem InPlace.replaceStatusIn {c : Catalog (Object σ τ)} (h : InPlace Object.metadata c)
    (version : String) (o : Object σ τ) :
    InPlace Object.metadata (replaceStatusIn c version o).2 := by
  unfold Store.replaceStatusIn
  dsimp only
  split
  · exact h
  · next stored hstored =>
    have hk : ObjectKey.ofMeta stored.metadata = .ofMeta o.metadata := h.key_eq hstored
    split
    · exact h
    · exact h.insert _ hk

end InPlace

theorem sound_replaceSource {s : Store} (h : s.Sound) (o : Source) :
    (s.replaceSource o).2.Sound := by
  unfold replaceSource
  split
  · exact ⟨h.sources.replaceIn _ o, h.hotNews, h.configMaps⟩
  · exact ⟨h.sources, h.hotNews, h.configMaps⟩

theorem sound_replaceSourceStatus {s : Store} (h : s.Sound) (o : Source) :
    (s.replaceSourceStatus o).2.Sound := by
  unfold replaceSourceStatus
  split
  · exact h
  · exact ⟨h.sources.replaceStatusIn _ o, h.hotNews, h.configMaps⟩

theorem sound_replaceHotNews {s : Store} (h : s.Sound) (o : HotNews) :
    (s.replaceHotNews o).2.Sound :=
  ⟨h.sources, h.hotNews.replaceIn _ o, h.configMaps⟩

theorem sound_replaceHotNewsStatus {s : Store} (h : s.Sound) (o : HotNews) :
    (s.replaceHotNewsStatus o).2.Sound := by
  unfold replaceHotNewsStatus
  split
  · exact h
  · exact ⟨h.sources, h.hotNews.replaceStatusIn _ o, h.configMaps⟩

/-- **Every call keeps a store sound.** -/
theorem sound_answer {s : Store} (h : s.Sound) (c : StoreCall) : (s.answer c).2.Sound := by
  cases c with
  | replaceSource o => exact sound_replaceSource h o
  | replaceSourceStatus o => exact sound_replaceSourceStatus h o
  | replaceHotNews o => exact sound_replaceHotNews h o
  | replaceHotNewsStatus o => exact sound_replaceHotNewsStatus h o
  | getSource | listSources | getHotNews | listHotNews | getConfigMap => exact h

theorem sound_insert {s : Store} (h : s.Sound) (o : Resource) : (s.insert o).Sound := by
  cases o with
  | source o => exact ⟨h.sources.insert _ rfl, h.hotNews, h.configMaps⟩
  | hotNews o => exact ⟨h.sources, h.hotNews.insert _ rfl, h.configMaps⟩
  | configMap o => exact ⟨h.sources, h.hotNews, h.configMaps.insert _ rfl⟩

theorem sound_after {s : Store} (h : s.Sound) (op : StoreOp) : (s.after op).Sound := by
  cases op with
  | insert o => exact sound_insert h o
  | deleteSource key => exact ⟨h.sources.markDeleted key, h.hotNews, h.configMaps⟩
  | deleteHotNews key => exact ⟨h.sources, h.hotNews.markDeleted key, h.configMaps⟩
  | call c => exact sound_answer h c
  | faults => exact ⟨h.sources, h.hotNews, h.configMaps⟩

/-- A store is as sound with other failures to come. -/
theorem SameButFaults.sound {s t : Store} (h : s.SameButFaults t) (hs : s.Sound) : t.Sound := by
  obtain ⟨conflicts, writes, lists, rfl⟩ := h
  exact sound_after hs (.faults conflicts writes lists)

/-- **Every store that comes about is sound.** -/
theorem Built.sound {s : Store} (h : s.Built) : s.Sound := by
  induction h with
  | empty => exact ⟨.empty, .empty, .empty⟩
  | after _ op ih => exact sound_after ih op

/-- A store that came about is one that comes about with other failures to come. -/
theorem SameButFaults.built {s t : Store} (h : s.SameButFaults t) (hs : s.Built) : t.Built := by
  obtain ⟨conflicts, writes, lists, rfl⟩ := h
  exact hs.after (.faults conflicts writes lists)

end Store

section Runs

variable {w : Climate} {α : Type} {p : Pass α} {s t u : Store} {es : List Event} {a : α}

theorem Climate.sound (meets : w.Meets s t) (hs : s.Sound) : t.Sound :=
  (w.sameButFaults meets).sound hs

/-- A run keeps a store sound. -/
theorem Pass.LeadsIn.sound (h : p.LeadsIn w s es a u) (hs : s.Sound) : u.Sound :=
  h.preserves (fun _ c hs => Store.sound_answer hs c) (fun _ _ => w.sound) hs

/-- What a run leaves of a store that came about is one that comes about. -/
theorem Pass.LeadsIn.built (h : p.LeadsIn w s es a u) (hs : s.Built) : u.Built :=
  h.preserves (fun _ c hs => hs.after (.call c))
    (fun _ _ meets => (w.sameButFaults meets).built) hs

end Runs

end FeedOperator
