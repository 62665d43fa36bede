import FeedOperator.Proofs.Store.Write

/-!
# How objects change over a while

A change of a catalog is told by what happens under each key: an object stays away, changes in some
way, or goes. Such changes add up, so what one call does tells what a run does.

* `IsEvolution`: ways to change and to go that add up.
* `Evolves`: what happens under one key.
* `Catalog.Changes`: what happens to objects of one type, with the keys that may be touched.
* `Store.SourcesChange`, `Store.HotNewsChange`: what happens to a store if one type is touched.
* `Object.Restated`, `Object.Refinalized`, `Object.Kept`: an object of which only the status, only
  the finalizers, or both may have changed, and the version with them.
* `Object.heldBy`, `Object.releasedBy`: an object with and without a finalizer.
* `Catalog.Holds`: what holds once an object was made sure to have a finalizer.
* `Object.MayMark`: an object that may have been marked for deletion.
* `Catalog.KeepsSpecs`: a change that leaves alone what is wanted of the objects.
* `Store.NoneLeaving`: a store without objects that go with their next replace.

Results:
* `Catalog.Changes.trans`, `Store.SourcesChange.trans`, `Store.HotNewsChange.trans`: changes add up.
* `Replaced.changes`, `StatusReplaced.changes`, `markDeleted_changes`: what a write or a request to
  delete does is such a change.
-/

namespace FeedOperator

/-! ## Ways to change -/

/-- Ways to change and to go that add up. -/
structure IsEvolution {α : Type} (R : α → α → Prop) (out : α → Prop) : Prop where
  refl : ∀ a, R a a
  trans : ∀ {a b c}, R a b → R b c → R a c
  back : ∀ {a b}, R a b → out b → out a

/-- What happens under a key: nothing is there, or it changes as `R` says, or it goes, which takes
`out`. -/
inductive Evolves {α : Type} (R : α → α → Prop) (out : α → Prop) : Option α → Option α → Prop
  | absent : Evolves R out none none
  | kept {a b : α} (h : R a b) : Evolves R out (some a) (some b)
  | gone {a : α} (h : out a) : Evolves R out (some a) none

namespace Evolves

variable {α : Type} {R : α → α → Prop} {out : α → Prop}

theorem refl (e : IsEvolution R out) (o : Option α) : Evolves R out o o := by
  cases o with
  | none => exact .absent
  | some a => exact .kept (e.refl a)

theorem trans (e : IsEvolution R out) {o p q : Option α} (hop : Evolves R out o p)
    (hpq : Evolves R out p q) : Evolves R out o q := by
  cases hop with
  | absent => exact hpq
  | gone h => cases hpq; exact .gone h
  | kept h => cases hpq with
    | kept g => exact .kept (e.trans h g)
    | gone g => exact .gone (e.back h g)

/-- What is there now was there before. -/
theorem before {o : Option α} {b : α} (h : Evolves R out o (some b)) : ∃ a, o = some a ∧ R a b := by
  cases h with
  | kept h => exact ⟨_, rfl, h⟩

/-- What was there is there still, if it had no reason to go. -/
theorem still {a : α} {p : Option α} (h : Evolves R out (some a) p) (stays : ¬ out a) :
    ∃ b, p = some b ∧ R a b := by
  cases h with
  | kept h => exact ⟨_, rfl, h⟩
  | gone h => exact absurd h stays

theorem mono {R' : α → α → Prop} {out' : α → Prop} (hR : ∀ {a b}, R a b → R' a b)
    (hout : ∀ {a}, out a → out' a) {o p : Option α} (h : Evolves R out o p) :
    Evolves R' out' o p := by
  cases h with
  | absent => exact .absent
  | kept h => exact .kept (hR h)
  | gone h => exact .gone (hout h)

end Evolves

/-- What happens to objects of one type, if at most some keys are touched. -/
structure Catalog.Changes {α : Type} (R : α → α → Prop) (out : α → Prop)
    (touched : ObjectKey → Prop) (c d : Catalog α) : Prop where
  elsewhere : ∀ k, ¬ touched k → d.get? k = c.get? k
  evolves : ∀ k, Evolves R out (c.get? k) (d.get? k)

namespace Catalog.Changes

variable {α : Type} {R : α → α → Prop} {out : α → Prop} {touched : ObjectKey → Prop}
variable {b c d : Catalog α}

theorem refl (e : IsEvolution R out) (c : Catalog α) : c.Changes R out touched c :=
  ⟨fun _ _ => rfl, fun _ => .refl e _⟩

theorem trans (e : IsEvolution R out) (hbc : b.Changes R out touched c)
    (hcd : c.Changes R out touched d) : b.Changes R out touched d :=
  ⟨fun k hk => (hcd.elsewhere k hk).trans (hbc.elsewhere k hk),
    fun k => (hbc.evolves k).trans e (hcd.evolves k)⟩

theorem mono {R' : α → α → Prop} {out' : α → Prop} {touched' : ObjectKey → Prop}
    (h : c.Changes R out touched d) (hR : ∀ {a b}, R a b → R' a b) (hout : ∀ {a}, out a → out' a)
    (more : ∀ k, touched k → touched' k) : c.Changes R' out' touched' d :=
  ⟨fun k hk => h.elsewhere k (mt (more k) hk), fun k => (h.evolves k).mono hR hout⟩

end Catalog.Changes

/-! ## Objects -/

namespace Object

variable {σ τ : Type}

/-- Whether an object is to go with its next replace. -/
def IsLeaving (o : Object σ τ) : Prop := o.metadata.isReleased = true

/-- Whether the deletion of an object was requested. -/
def IsMarked (o : Object σ τ) : Prop := o.metadata.isDeleted = true

/-- Whether an object has no finalizer. -/
def IsUnheld (o : Object σ τ) : Prop := (o.metadata.finalizers.getD []).isEmpty = true

/-- The same object but for its status and its version. -/
def Restated (a b : Object σ τ) : Prop :=
  ∃ status version, b = { a with
    status := status
    metadata := { a.metadata with resourceVersion := version } }

/-- The same object but for its finalizers and its version. -/
def Refinalized (a b : Object σ τ) : Prop :=
  ∃ finalizers version, b = { a with
    metadata := { a.metadata with finalizers := finalizers, resourceVersion := version } }

/-- The same object but for its finalizers, its status and its version. -/
def Kept (a b : Object σ τ) : Prop :=
  ∃ finalizers status version, b = { a with
    status := status
    metadata := { a.metadata with finalizers := finalizers, resourceVersion := version } }

variable {a b c : Object σ τ}

theorem IsLeaving.isMarked (h : a.IsLeaving) : a.IsMarked := by
  unfold IsLeaving Meta.isReleased at h
  exact (Bool.and_eq_true_iff.mp h).1

theorem IsLeaving.isUnheld (h : a.IsLeaving) : a.IsUnheld := by
  unfold IsLeaving Meta.isReleased at h
  exact (Bool.and_eq_true_iff.mp h).2

theorem hasFinalizer_of_isUnheld (h : a.IsUnheld) {f : String} :
    a.metadata.hasFinalizer f = false := by
  unfold IsUnheld at h
  unfold Meta.hasFinalizer
  rw [List.isEmpty_iff.mp h]
  rfl

theorem Restated.kept (h : a.Restated b) : a.Kept b := by
  obtain ⟨status, version, rfl⟩ := h
  exact ⟨a.metadata.finalizers, status, version, rfl⟩

theorem Refinalized.kept (h : a.Refinalized b) : a.Kept b := by
  obtain ⟨finalizers, version, rfl⟩ := h
  exact ⟨finalizers, a.status, version, rfl⟩

theorem Refinalized.status_eq (h : a.Refinalized b) : b.status = a.status := by
  obtain ⟨_, _, rfl⟩ := h
  rfl

theorem Kept.spec_eq (h : a.Kept b) : b.spec = a.spec := by
  obtain ⟨_, _, _, rfl⟩ := h
  rfl

theorem Kept.key_eq (h : a.Kept b) : b.key = a.key := by
  obtain ⟨_, _, _, rfl⟩ := h
  rfl

theorem Kept.name_eq (h : a.Kept b) : b.metadata.name = a.metadata.name := by
  obtain ⟨_, _, _, rfl⟩ := h
  rfl

theorem Kept.ns_eq (h : a.Kept b) : b.metadata.ns = a.metadata.ns := by
  obtain ⟨_, _, _, rfl⟩ := h
  rfl

theorem Kept.uid_eq (h : a.Kept b) : b.metadata.uid = a.metadata.uid := by
  obtain ⟨_, _, _, rfl⟩ := h
  rfl

theorem Kept.owners_eq (h : a.Kept b) : b.metadata.owners = a.metadata.owners := by
  obtain ⟨_, _, _, rfl⟩ := h
  rfl

theorem Kept.isDeleted_eq (h : a.Kept b) : b.metadata.isDeleted = a.metadata.isDeleted := by
  obtain ⟨_, _, _, rfl⟩ := h
  rfl

theorem Restated.finalizers_eq (h : a.Restated b) :
    b.metadata.finalizers = a.metadata.finalizers := by
  obtain ⟨_, _, rfl⟩ := h
  rfl

theorem restated_withStatusOf (stored new : Object σ τ) (version : String) :
    stored.Restated (stored.withStatusOf new version) :=
  ⟨new.status, some version, rfl⟩

theorem Refinalized.inPlaceOf (h : a.Refinalized b) (version : String) :
    a.Refinalized (b.inPlaceOf a version) := by
  obtain ⟨finalizers, _, rfl⟩ := h
  exact ⟨finalizers, some version, rfl⟩

/-- The object with a finalizer. -/
def heldBy (o : Object σ τ) (finalizer : String) : Object σ τ :=
  { o with metadata := (o.metadata.addFinalizer finalizer).1 }

/-- The object without a finalizer. -/
def releasedBy (o : Object σ τ) (finalizer : String) : Object σ τ :=
  { o with metadata := (o.metadata.removeFinalizer finalizer).1 }

theorem refinalized_heldBy (o : Object σ τ) (finalizer : String) :
    o.Refinalized (o.heldBy finalizer) := by
  unfold heldBy Meta.addFinalizer
  split
  · exact ⟨o.metadata.finalizers, o.metadata.resourceVersion, rfl⟩
  · exact ⟨_, o.metadata.resourceVersion, rfl⟩

theorem refinalized_releasedBy (o : Object σ τ) (finalizer : String) :
    o.Refinalized (o.releasedBy finalizer) :=
  ⟨_, o.metadata.resourceVersion, rfl⟩

/-- An object that is marked for deletion goes with a finalizer if it has no other one. -/
theorem isReleased_releasedBy_iff {o : Object σ τ} (marked : o.IsMarked) {finalizer : String} :
    (o.releasedBy finalizer).metadata.isReleased = true ↔
      ∀ f ∈ o.metadata.finalizers.getD [], f = finalizer := by
  have hdeleted : (o.releasedBy finalizer).metadata.isDeleted = true := marked
  unfold Meta.isReleased
  rw [hdeleted, Bool.true_and]
  change (Option.getD (o.metadata.finalizers.map _) []).isEmpty = true ↔ _
  cases o.metadata.finalizers <;> simp

theorem hasFinalizer_heldBy (o : Object σ τ) (finalizer : String) :
    (o.heldBy finalizer).metadata.hasFinalizer finalizer = true := by
  unfold heldBy
  rw [Meta.hasFinalizer_addFinalizer]
  simp

theorem addFinalizer_of_hasFinalizer {o : Object σ τ} {finalizer : String}
    (h : o.metadata.hasFinalizer finalizer = true) :
    o.metadata.addFinalizer finalizer = (o.metadata, false) := by
  simp [Meta.addFinalizer, h]

theorem addFinalizer_of_not_hasFinalizer {o : Object σ τ} {finalizer : String}
    (h : o.metadata.hasFinalizer finalizer = false) :
    o.metadata.addFinalizer finalizer = ((o.heldBy finalizer).metadata, true) := by
  simp [heldBy, Meta.addFinalizer, h]

/-- The object after its deletion was requested. -/
def marked (o : Object σ τ) : Object σ τ :=
  { o with metadata := { o.metadata with deletionTimestamp := some Store.deletionTime } }

/-- The same object, but its deletion may have been requested. -/
def MayMark (a b : Object σ τ) : Prop := b = a ∨ b = a.marked

theorem MayMark.spec_eq (h : a.MayMark b) : b.spec = a.spec := by
  rcases h with rfl | rfl <;> rfl

theorem MayMark.finalizers_eq (h : a.MayMark b) :
    b.metadata.finalizers = a.metadata.finalizers := by
  rcases h with rfl | rfl <;> rfl

theorem mayMark_evolution : IsEvolution (MayMark (σ := σ) (τ := τ)) IsUnheld where
  refl a := .inl rfl
  trans := by
    rintro _ _ _ (rfl | rfl) (rfl | rfl)
    · exact .inl rfl
    · exact .inr rfl
    · exact .inr rfl
    · exact .inr rfl
  back := fun h hb => by
    unfold IsUnheld at *
    rw [← h.finalizers_eq]
    exact hb

theorem restated_evolution : IsEvolution (Restated (σ := σ) (τ := τ)) fun _ => False where
  refl a := ⟨a.status, a.metadata.resourceVersion, rfl⟩
  trans := by
    rintro _ _ _ ⟨_, _, rfl⟩ ⟨status, version, rfl⟩
    exact ⟨status, version, rfl⟩
  back := fun _ h => h

theorem kept_evolution : IsEvolution (Kept (σ := σ) (τ := τ)) IsMarked where
  refl a := ⟨a.metadata.finalizers, a.status, a.metadata.resourceVersion, rfl⟩
  trans := by
    rintro _ _ _ ⟨_, _, _, rfl⟩ ⟨finalizers, status, version, rfl⟩
    exact ⟨finalizers, status, version, rfl⟩
  back := fun h hb => by
    unfold IsMarked at *
    rw [← h.isDeleted_eq]
    exact hb

end Object

/-- What holds once an object was made sure to have a finalizer: it is stored with it. -/
structure Catalog.Holds {σ τ : Type} (finalizer : String) (c : Catalog (Object σ τ))
    (o mine : Object σ τ) (d : Catalog (Object σ τ)) : Prop where
  elsewhere : ∀ k, k ≠ o.key → d.get? k = c.get? k
  stored : d.get? o.key = some mine
  refinalized : o.Refinalized mine
  holds : mine.metadata.hasFinalizer finalizer = true

section Holds

variable {σ τ : Type} {finalizer : String} {c d : Catalog (Object σ τ)} {o mine : Object σ τ}

theorem Catalog.Holds.key_eq (h : c.Holds finalizer o mine d) : mine.key = o.key :=
  h.refinalized.kept.key_eq

/-- It stands under its own key. -/
theorem Catalog.Holds.stands (h : c.Holds finalizer o mine d) : d.get? mine.key = some mine := by
  rw [h.key_eq]
  exact h.stored

end Holds

section Writes

variable {σ τ : Type} {R : Object σ τ → Object σ τ → Prop} {out : Object σ τ → Prop}
variable {c d : Catalog (Object σ τ)} {new stored written : Object σ τ}

/-- A replace that went through. -/
theorem Replaced.changes (e : IsEvolution R out) (h : Replaced c d new stored written)
    (hR : ∀ version, R stored (new.inPlaceOf stored version)) (hout : new.IsLeaving → out stored) :
    c.Changes R out (· = new.key) d := by
  refine ⟨fun _ => h.elsewhere, fun k => ?_⟩
  by_cases hk : k = new.key
  · subst hk
    rw [h.found, h.get?_eq, if_pos rfl]
    split
    · next hr => exact .gone (hout hr)
    · obtain ⟨version, rfl⟩ := h.written_eq
      exact .kept (hR version)
  · rw [h.elsewhere hk]
    exact .refl e _

/-- A replace that went through and changed no more than finalizers. -/
theorem Replaced.kept (h : Replaced c d new stored written) (href : stored.Refinalized new) :
    c.Changes Object.Kept Object.IsMarked (· = new.key) d :=
  h.changes Object.kept_evolution (fun version => (href.inPlaceOf version).kept)
    fun hleaving => Object.kept_evolution.back href.kept hleaving.isMarked

/-- A replace that went through and added a finalizer, while deletion was not requested. -/
theorem Replaced.holds {o : Object σ τ} {finalizer : String}
    (h : Replaced c d (o.heldBy finalizer) stored written) (found : c.get? o.key = some o)
    (live : o.metadata.isDeleted = false) : c.Holds finalizer o written d := by
  have href := o.refinalized_heldBy finalizer
  have hkey : (o.heldBy finalizer).key = o.key := href.kept.key_eq
  obtain ⟨version, hwritten⟩ := h.written_eq
  rw [h.stored_eq (hkey ▸ found)] at hwritten
  subst hwritten
  have stays : (o.heldBy finalizer).metadata.isReleased = false := by
    unfold Meta.isReleased
    rw [href.kept.isDeleted_eq, live]
    rfl
  exact ⟨fun k hk => h.elsewhere (hkey ▸ hk), hkey ▸ h.get?_self stays, href.inPlaceOf version,
    o.hasFinalizer_heldBy finalizer⟩

/-- A write of the status that went through. -/
theorem StatusReplaced.changes (e : IsEvolution R out) (h : StatusReplaced c d new stored written)
    (hR : ∀ version, R stored (stored.withStatusOf new version)) :
    c.Changes R out (· = new.key) d := by
  refine ⟨fun _ => h.elsewhere, fun k => ?_⟩
  by_cases hk : k = new.key
  · subst hk
    rw [h.found, h.get?_self]
    obtain ⟨version, rfl⟩ := h.written_eq
    exact .kept (hR version)
  · rw [h.elsewhere hk]
    exact .refl e _

/-- A request to delete an object. -/
theorem Store.markDeleted_changes (c : Catalog (Object σ τ)) (key : ObjectKey) :
    c.Changes Object.MayMark Object.IsUnheld (· = key) (markDeleted c key) := by
  unfold markDeleted
  cases hg : c.get? key with
  | none => exact .refl Object.mayMark_evolution c
  | some o =>
    dsimp only
    split
    · next hr =>
      refine ⟨fun k hk => by rw [Catalog.get?_erase, if_neg hk], fun k => ?_⟩
      rw [Catalog.get?_erase]
      by_cases hk : k = key
      · rw [if_pos hk, hk, hg]
        exact .gone hr
      · rw [if_neg hk]
        exact .refl Object.mayMark_evolution _
    · refine ⟨fun k hk => by rw [Catalog.get?_insert, if_neg hk], fun k => ?_⟩
      rw [Catalog.get?_insert]
      by_cases hk : k = key
      · rw [if_pos hk, hk, hg]
        exact .kept (.inr rfl)
      · rw [if_neg hk]
        exact .refl Object.mayMark_evolution _

end Writes

/-! ## Wishes -/

/-- What is found was found before, with the same spec. -/
def Catalog.KeepsSpecs {σ τ : Type} (c d : Catalog (Object σ τ)) : Prop :=
  ∀ k b, d.get? k = some b → ∃ a, c.get? k = some a ∧ b.spec = a.spec

namespace Catalog.KeepsSpecs

variable {σ τ : Type} {c d : Catalog (Object σ τ)}

theorem of_eq (h : d = c) : c.KeepsSpecs d := by
  subst h
  exact fun _ b hb => ⟨b, hb, rfl⟩

theorem of_changes {R : Object σ τ → Object σ τ → Prop} {out : Object σ τ → Prop}
    {touched : ObjectKey → Prop} (h : c.Changes R out touched d)
    (hR : ∀ {a b}, R a b → b.spec = a.spec) : c.KeepsSpecs d := by
  intro k b hb
  have hev := h.evolves k
  rw [hb] at hev
  obtain ⟨a, ha, hab⟩ := hev.before
  exact ⟨a, ha, hR hab⟩

end Catalog.KeepsSpecs

/-! ## Stores -/

/-- A store without objects that go with their next replace: those that are marked for deletion
have a finalizer. -/
structure Store.NoneLeaving (s : Store) : Prop where
  sources : ∀ k a, s.sources.get? k = some a → ¬ a.IsLeaving
  hotNews : ∀ k a, s.hotNews.get? k = some a → ¬ a.IsLeaving

/-- It is so if no entry is to go. -/
theorem Store.NoneLeaving.of_entries {s : Store}
    (sources : ∀ e ∈ s.sources.entries, e.2.metadata.isReleased = false)
    (hotNews : ∀ e ∈ s.hotNews.entries, e.2.metadata.isReleased = false) : s.NoneLeaving where
  sources _ _ ha leaving :=
    Bool.false_ne_true ((sources _ (Catalog.mem_of_lookup ha)).symm.trans leaving)
  hotNews _ _ ha leaving :=
    Bool.false_ne_true ((hotNews _ (Catalog.mem_of_lookup ha)).symm.trans leaving)

/-- What happens to a store if Sources alone are touched. -/
structure Store.SourcesChange (R : Source → Source → Prop) (out : Source → Prop)
    (touched : ObjectKey → Prop) (s u : Store) : Prop where
  sources : s.sources.Changes R out touched u.sources
  rest : s.SameButSources u

/-- What happens to a store if HotNews alone are touched. -/
structure Store.HotNewsChange (R : HotNews → HotNews → Prop) (out : HotNews → Prop)
    (touched : ObjectKey → Prop) (s u : Store) : Prop where
  hotNews : s.hotNews.Changes R out touched u.hotNews
  rest : s.SameButHotNews u

section Stores

variable {s t u : Store} {touched : ObjectKey → Prop}

namespace Store.SourcesChange

variable {R : Source → Source → Prop} {out : Source → Prop}

theorem of_sameObjects (e : IsEvolution R out) (h : s.SameObjects u) :
    s.SourcesChange R out touched u := by
  refine ⟨?_, h.hotNews, h.configMaps⟩
  rw [h.sources]
  exact .refl e _

theorem refl (e : IsEvolution R out) (s : Store) : s.SourcesChange R out touched s :=
  ⟨.refl e _, rfl, rfl⟩

theorem trans (e : IsEvolution R out) (hst : s.SourcesChange R out touched t)
    (htu : t.SourcesChange R out touched u) : s.SourcesChange R out touched u :=
  ⟨hst.sources.trans e htu.sources, htu.rest.hotNews.trans hst.rest.hotNews,
    htu.rest.configMaps.trans hst.rest.configMaps⟩

theorem mono {R' : Source → Source → Prop} {out' : Source → Prop} {touched' : ObjectKey → Prop}
    (h : s.SourcesChange R out touched u) (hR : ∀ {a b}, R a b → R' a b)
    (hout : ∀ {a}, out a → out' a) (more : ∀ k, touched k → touched' k) :
    s.SourcesChange R' out' touched' u :=
  ⟨h.sources.mono hR hout more, h.rest⟩

theorem of_replace (e : IsEvolution R out) {new : Source}
    (hR : ∀ a, s.sources.get? new.key = some a → ∀ version, R a (new.inPlaceOf a version))
    (hout : ∀ a, s.sources.get? new.key = some a → new.IsLeaving → out a) :
    s.SourcesChange R out (· = new.key) (s.replaceSource new).2 := by
  rcases s.replaceSource_cases new with ⟨_, _, hsame⟩ | ⟨stored, _, _, h, rest⟩
  · exact .of_sameObjects e hsame
  · exact ⟨h.changes e (hR stored h.found) (hout stored h.found), rest⟩

theorem of_replaceStatus (e : IsEvolution R out) {new : Source}
    (hR : ∀ a, s.sources.get? new.key = some a → ∀ version, R a (a.withStatusOf new version)) :
    s.SourcesChange R out (· = new.key) (s.replaceSourceStatus new).2 := by
  rcases s.replaceSourceStatus_cases new with ⟨_, _, hsame⟩ | ⟨stored, _, _, h, rest⟩
  · exact .of_sameObjects e hsame
  · exact ⟨h.changes e (hR stored h.found), rest⟩

end Store.SourcesChange

namespace Store.HotNewsChange

variable {R : HotNews → HotNews → Prop} {out : HotNews → Prop}

theorem of_sameObjects (e : IsEvolution R out) (h : s.SameObjects u) :
    s.HotNewsChange R out touched u := by
  refine ⟨?_, h.sources, h.configMaps⟩
  rw [h.hotNews]
  exact .refl e _

theorem refl (e : IsEvolution R out) (s : Store) : s.HotNewsChange R out touched s :=
  ⟨.refl e _, rfl, rfl⟩

theorem trans (e : IsEvolution R out) (hst : s.HotNewsChange R out touched t)
    (htu : t.HotNewsChange R out touched u) : s.HotNewsChange R out touched u :=
  ⟨hst.hotNews.trans e htu.hotNews, htu.rest.sources.trans hst.rest.sources,
    htu.rest.configMaps.trans hst.rest.configMaps⟩

theorem mono {R' : HotNews → HotNews → Prop} {out' : HotNews → Prop}
    {touched' : ObjectKey → Prop} (h : s.HotNewsChange R out touched u)
    (hR : ∀ {a b}, R a b → R' a b) (hout : ∀ {a}, out a → out' a)
    (more : ∀ k, touched k → touched' k) : s.HotNewsChange R' out' touched' u :=
  ⟨h.hotNews.mono hR hout more, h.rest⟩

theorem of_replace (e : IsEvolution R out) {new : HotNews}
    (hR : ∀ a, s.hotNews.get? new.key = some a → ∀ version, R a (new.inPlaceOf a version))
    (hout : ∀ a, s.hotNews.get? new.key = some a → new.IsLeaving → out a) :
    s.HotNewsChange R out (· = new.key) (s.replaceHotNews new).2 := by
  rcases s.replaceHotNews_cases new with ⟨_, _, hsame⟩ | ⟨stored, _, _, h, rest⟩
  · exact .of_sameObjects e hsame
  · exact ⟨h.changes e (hR stored h.found) (hout stored h.found), rest⟩

theorem of_replaceStatus (e : IsEvolution R out) {new : HotNews}
    (hR : ∀ a, s.hotNews.get? new.key = some a → ∀ version, R a (a.withStatusOf new version)) :
    s.HotNewsChange R out (· = new.key) (s.replaceHotNewsStatus new).2 := by
  rcases s.replaceHotNewsStatus_cases new with ⟨_, _, hsame⟩ | ⟨stored, _, _, h, rest⟩
  · exact .of_sameObjects e hsame
  · exact ⟨h.changes e (hR stored h.found), rest⟩

end Store.HotNewsChange

end Stores

end FeedOperator
