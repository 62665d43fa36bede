import FeedOperator.Proofs.Store.Change
import FeedOperator.Reconcile.Owners
import Mathlib.Data.List.Perm.Basic

/-!
# Stores seen without versions

Every write gives out a version, so what passes do to a store is told of the objects without their
versions.

* `Object.unversioned`, `Catalog.view`: an object without its version, and what is found under a
  key.
* `Store.Quiet`: a store that shows no failure and in which nothing goes with its next replace.
* `Store.firstNamed`: the name of the Source that a short name stands for.
* `Store.SameButVersions`: a store with the same objects, versions apart.
* `Store.SameWishes`: a store with objects of the same names, in which the same is wanted.

Results:
* `Catalog.before_of_view_eq`, `Catalog.after_of_view_eq`: an object is found after a change of the
  view exactly if it was found before.
* `Replaced.view_eq`, `StatusReplaced.view_eq`: what a write that went through does to the view.
* `SameWishes.firstNamed_eq`: what a short name stands for depends on names and wishes alone.
-/

namespace FeedOperator

/-! ## Objects -/

namespace Object

variable {σ τ : Type}

/-- The object without its version. -/
def unversioned (o : Object σ τ) : Object σ τ :=
  { o with metadata := { o.metadata with resourceVersion := none } }

@[simp] theorem isDeleted_unversioned (o : Object σ τ) :
    o.unversioned.metadata.isDeleted = o.metadata.isDeleted := rfl

theorem isLeaving_unversioned_iff (o : Object σ τ) : o.unversioned.IsLeaving ↔ o.IsLeaving :=
  Iff.rfl

/-- A replace stores the new object, but with the stored status. -/
theorem unversioned_inPlaceOf (new stored : Object σ τ) (version : String) :
    (new.inPlaceOf stored version).unversioned = { new with status := stored.status }.unversioned :=
  rfl

/-- A write of the status stores the status alone. -/
theorem unversioned_withStatusOf (stored new : Object σ τ) (version : String) :
    (stored.withStatusOf new version).unversioned =
      { stored with status := new.status }.unversioned :=
  rfl

theorem unversioned_heldBy (o : Object σ τ) (finalizer : String) :
    (o.heldBy finalizer).unversioned = o.unversioned.heldBy finalizer := by
  have hhas : o.unversioned.metadata.hasFinalizer finalizer = o.metadata.hasFinalizer finalizer :=
    rfl
  unfold heldBy Meta.addFinalizer
  rw [hhas]
  split <;> rfl

theorem resourceVersion_heldBy (o : Object σ τ) (finalizer : String) :
    (o.heldBy finalizer).metadata.resourceVersion = o.metadata.resourceVersion := by
  unfold heldBy Meta.addFinalizer
  split <;> rfl

/-- An object with the finalizer is held already. -/
theorem heldBy_of_hasFinalizer {o : Object σ τ} {finalizer : String}
    (h : o.metadata.hasFinalizer finalizer = true) : o.heldBy finalizer = o := by
  unfold heldBy
  rw [addFinalizer_of_hasFinalizer h]

theorem isDeleted_heldBy (o : Object σ τ) (finalizer : String) :
    (o.heldBy finalizer).metadata.isDeleted = o.metadata.isDeleted :=
  (o.refinalized_heldBy finalizer).kept.isDeleted_eq

end Object

/-! ## Catalogs -/

namespace Catalog

section Views

variable {σ τ : Type} {c d : Catalog (Object σ τ)} {new stored written : Object σ τ}

/-- The object under a key, without its version. -/
def view (c : Catalog (Object σ τ)) (k : ObjectKey) : Option (Object σ τ) :=
  (c.get? k).map Object.unversioned

theorem view_of_get? {k : ObjectKey} {a : Object σ τ} (h : c.get? k = some a) :
    c.view k = some a.unversioned := by
  rw [view, h]
  rfl

theorem get?_of_view {k : ObjectKey} {b : Object σ τ} (h : c.view k = some b) :
    ∃ a, c.get? k = some a ∧ a.unversioned = b :=
  Option.map_eq_some_iff.mp h

/-- What is found after a change of the object under a key is what was made of it. -/
theorem before_of_view_eq {k : ObjectKey} {b : Object σ τ} {g : Object σ τ → Object σ τ}
    (h : d.view k = (c.view k).map g) (hb : d.get? k = some b) :
    ∃ a, c.get? k = some a ∧ b.unversioned = g a.unversioned := by
  rw [view_of_get? hb] at h
  obtain ⟨a', ha', heq⟩ := Option.map_eq_some_iff.mp h.symm
  obtain ⟨a, ha, rfl⟩ := get?_of_view ha'
  exact ⟨a, ha, heq.symm⟩

theorem after_of_view_eq {k : ObjectKey} {a : Object σ τ} {g : Object σ τ → Object σ τ}
    (h : d.view k = (c.view k).map g) (ha : c.get? k = some a) :
    ∃ b, d.get? k = some b ∧ b.unversioned = g a.unversioned := by
  rw [view_of_get? ha] at h
  exact get?_of_view h

end Views

end Catalog

section Writes

variable {σ τ : Type} {c d : Catalog (Object σ τ)} {new stored written : Object σ τ}

/-- A replace that went through, by an object that need not go and has the stored status. -/
theorem Replaced.view_eq (h : Replaced c d new stored written)
    (stays : new.metadata.isReleased = false) (same : new.status = stored.status) (k : ObjectKey) :
    d.view k = if k = new.key then some new.unversioned else c.view k := by
  obtain ⟨version, rfl⟩ := h.written_eq
  unfold Catalog.view
  rw [h.get?_eq, stays]
  split
  · refine congrArg some ((new.unversioned_inPlaceOf stored version).trans ?_)
    rw [← same]
  · rfl

/-- What such a replace wrote. -/
theorem Replaced.unversioned_written (h : Replaced c d new stored written)
    (same : new.status = stored.status) : written.unversioned = new.unversioned := by
  obtain ⟨version, rfl⟩ := h.written_eq
  rw [Object.unversioned_inPlaceOf, ← same]

/-- A write of the status that went through. -/
theorem StatusReplaced.view_eq (h : StatusReplaced c d new stored written) (k : ObjectKey) :
    d.view k = if k = new.key then some { stored with status := new.status }.unversioned
      else c.view k := by
  obtain ⟨version, rfl⟩ := h.written_eq
  unfold Catalog.view
  rw [h.get?_eq]
  split
  · exact congrArg some (stored.unversioned_withStatusOf new version)
  · rfl

end Writes

/-! ## Stores -/

/-- What an object is called, and what is wanted of it. -/
structure Wish (σ : Type) where
  name : Option String
  ns : Option String
  uid : Option String
  spec : σ

/-- What the object is called, and what is wanted of it. -/
def Object.wish {σ τ : Type} (o : Object σ τ) : Wish σ where
  name := o.metadata.name
  ns := o.metadata.ns
  uid := o.metadata.uid
  spec := o.spec

theorem Object.Kept.wish_eq {σ τ : Type} {a b : Object σ τ} (h : a.Kept b) : b.wish = a.wish := by
  obtain ⟨_, _, _, rfl⟩ := h
  rfl

theorem Catalog.map_wish_view {σ τ : Type} (c : Catalog (Object σ τ)) (k : ObjectKey) :
    (c.view k).map Object.wish = (c.get? k).map Object.wish := by
  rw [view, Option.map_map]
  rfl

namespace Store

/-- A store that shows no failure, and in which nothing goes with its next replace. -/
structure Quiet (s : Store) : Prop where
  sound : s.Sound
  calm : s.Calm
  stay : s.NoneLeaving

/-- The name of the Source that a short name stands for in a namespace. -/
def firstNamed (s : Store) (ns shortName : String) : Option String :=
  (findByShortName (s.sources.inNamespace ns) shortName).bind (·.metadata.name)

/-- A store in which the same is wanted, of objects of the same names. -/
structure SameWishes (s u : Store) : Prop where
  sources : ∀ k, (u.sources.get? k).map Object.wish = (s.sources.get? k).map Object.wish
  hotNews : ∀ k, (u.hotNews.get? k).map Object.wish = (s.hotNews.get? k).map Object.wish
  configMaps : u.configMaps = s.configMaps

/-- A store with the same objects, versions apart. -/
structure SameButVersions (s u : Store) : Prop where
  sources : ∀ k, u.sources.view k = s.sources.view k
  hotNews : ∀ k, u.hotNews.view k = s.hotNews.view k
  configMaps : u.configMaps = s.configMaps

variable {s u : Store}

theorem SameWishes.refl (s : Store) : s.SameWishes s :=
  ⟨fun _ => rfl, fun _ => rfl, rfl⟩

/-- The same HotNews are found, and the same is wanted of them. -/
theorem SameWishes.hotNews_cases (h : s.SameWishes u) (k : ObjectKey) :
    (s.hotNews.get? k = none ∧ u.hotNews.get? k = none) ∨
      ∃ a b, s.hotNews.get? k = some a ∧ u.hotNews.get? k = some b ∧ b.wish = a.wish := by
  have hsame := h.hotNews k
  cases hb : u.hotNews.get? k with
  | none =>
    rw [hb, Option.map_none, eq_comm, Option.map_eq_none_iff] at hsame
    exact .inl ⟨hsame, rfl⟩
  | some b =>
    rw [hb, Option.map_some, eq_comm, Option.map_eq_some_iff] at hsame
    obtain ⟨a, ha, wish⟩ := hsame
    exact .inr ⟨a, b, ha, rfl, wish.symm⟩

theorem map_findByShortName (listed : List Source) (shortName : String) :
    (findByShortName listed shortName).map Object.wish =
      (listed.map Object.wish).find? (·.spec.shortName == shortName) := by
  unfold findByShortName
  rw [List.find?_map]
  rfl

/-- **What a short name stands for depends on names and wishes alone.** -/
theorem SameWishes.firstNamed_eq (h : s.SameWishes u) (hs : s.Sound) (hu : u.Sound)
    (ns shortName : String) : u.firstNamed ns shortName = s.firstNamed ns shortName := by
  have told : ∀ t : Store, t.firstNamed ns shortName =
      (((t.sources.inNamespace ns).map Object.wish).find? (·.spec.shortName == shortName)).bind
        (·.name) := by
    intro t
    rw [← map_findByShortName, Option.bind_map]
    rfl
  rw [told, told, Catalog.map_inNamespace_eq hu.sources.ordered hs.sources.ordered h.sources]

/-- A Source that is listed is found under its name. -/
theorem Sound.get?_of_listed (hs : s.Sound) {ns name : String} {a : Source}
    (listed : a ∈ s.sources.inNamespace ns) (hname : a.metadata.name = some name) :
    s.sources.get? ⟨ns, name⟩ = some a := by
  obtain ⟨k, ha, rfl⟩ := (Catalog.mem_inNamespace_iff hs.sources.ordered).mp listed
  have hk : k.name = name := by
    rw [← hs.source_key ha]
    simp [Object.key, ObjectKey.ofMeta, hname]
  subst hk
  exact ha

end Store

end FeedOperator
