import FeedOperator.Store.Catalog
import Mathlib.Data.String.Basic

/-!
# Catalogs in order

* `Catalog.Ordered`: the keys ascend strictly, so there is one entry for each.
* `Catalog.Keyed`: every object stands under the key that it has by itself.
* `Catalog.map`: something made of every object.

Results:
* `ObjectKey.eq_of_mem_iff`: lists whose keys ascend are settled by their members.
* `get?_erase`, beside `get?_insert`: what the two changes do to the view.
* `mem_inNamespace_iff`: a list of a namespace holds what is found under its keys.
* `Ordered.insert`, `Ordered.erase`, `Keyed.insert`, `Keyed.erase`: both changes keep both.
* `Ordered.ext`: catalogs in order are equal if the same is found under each key.
* `map_inNamespace_eq`: what is listed of a namespace is settled by what is found under the keys.
-/

namespace FeedOperator

namespace ObjectKey

theorem before_iff {a b : ObjectKey} :
    a.before b = true ↔ a.ns < b.ns ∨ a.ns = b.ns ∧ a.name < b.name := by
  simp [before]

theorem before_irrefl (a : ObjectKey) : ¬ a.before a = true := by
  rw [before_iff]
  rintro (h | ⟨-, h⟩)
  · exact lt_irrefl _ h
  · exact lt_irrefl _ h

theorem before_trans {a b c : ObjectKey} (hab : a.before b = true) (hbc : b.before c = true) :
    a.before c = true := by
  rw [before_iff] at *
  rcases hab with h | ⟨h, h'⟩
  · rcases hbc with g | ⟨g, -⟩
    · exact .inl (h.trans g)
    · exact .inl (g ▸ h)
  · rcases hbc with g | ⟨g, g'⟩
    · exact .inl (h ▸ g)
    · exact .inr ⟨h.trans g, h'.trans g'⟩

/-- Of two keys that differ one comes before the other. -/
theorem before_of_ne {a b : ObjectKey} (hne : a ≠ b) (h : ¬ a.before b = true) :
    b.before a = true := by
  rw [before_iff] at *
  rcases lt_trichotomy a.ns b.ns with hlt | heq | hgt
  · exact absurd (.inl hlt) h
  · rcases lt_trichotomy a.name b.name with hlt | heq' | hgt
    · exact absurd (.inr ⟨heq, hlt⟩) h
    · cases a; cases b
      simp only at heq heq'
      exact absurd (by rw [heq, heq']) hne
    · exact .inr ⟨heq.symm, hgt⟩
  · exact .inl hgt

section Lists

variable {α : Type} {keyOf : α → ObjectKey} {xs ys : List α}

theorem nodup_of_pairwise (h : xs.Pairwise fun a b => (keyOf a).before (keyOf b) = true) :
    xs.Nodup := by
  refine List.Pairwise.imp (fun hab => ?_) h
  rintro rfl
  exact before_irrefl _ hab

/-- Lists whose keys ascend strictly are equal if they have the same members. -/
theorem eq_of_mem_iff (hx : xs.Pairwise fun a b => (keyOf a).before (keyOf b) = true)
    (hy : ys.Pairwise fun a b => (keyOf a).before (keyOf b) = true)
    (h : ∀ a, a ∈ xs ↔ a ∈ ys) : xs = ys := by
  have same : xs.Perm ys :=
    (List.perm_ext_iff_of_nodup (nodup_of_pairwise hx) (nodup_of_pairwise hy)).mpr h
  exact same.eq_of_pairwise (fun a b _ _ hab hba =>
    absurd (before_trans hab hba) (before_irrefl _)) hx hy

end Lists

end ObjectKey

namespace Catalog

variable {α : Type}

/-- The keys ascend strictly. -/
def Ordered (c : Catalog α) : Prop :=
  c.entries.Pairwise fun a b => a.1.before b.1 = true

/-- Every object stands under its own key. -/
def Keyed (keyOf : α → ObjectKey) (c : Catalog α) : Prop :=
  ∀ e ∈ c.entries, keyOf e.2 = e.1

theorem mem_insertEntry {key : ObjectKey} {a : α} {entries : List (ObjectKey × α)}
    {e : ObjectKey × α} (h : e ∈ insertEntry key a entries) : e = (key, a) ∨ e ∈ entries := by
  induction entries with
  | nil => simpa [insertEntry] using h
  | cons d rest ih =>
    unfold insertEntry at h
    split at h
    · rcases List.mem_cons.mp h with rfl | h
      · exact .inl rfl
      · exact .inr (List.mem_cons_of_mem _ h)
    · split at h
      · exact List.mem_cons.mp h
      · rcases List.mem_cons.mp h with rfl | h
        · exact .inr List.mem_cons_self
        · exact (ih h).imp_right (List.mem_cons_of_mem _)

theorem pairwise_insertEntry {entries : List (ObjectKey × α)}
    (h : entries.Pairwise fun a b => a.1.before b.1 = true) (key : ObjectKey) (a : α) :
    (insertEntry key a entries).Pairwise fun a b => a.1.before b.1 = true := by
  induction entries with
  | nil => exact List.pairwise_singleton _ _
  | cons d rest ih =>
    obtain ⟨hd, hrest⟩ := List.pairwise_cons.mp h
    unfold insertEntry
    split
    · next heq => exact List.pairwise_cons.mpr ⟨fun e he => heq ▸ hd e he, hrest⟩
    · next hne =>
      split
      · next hlt =>
        refine List.pairwise_cons.mpr ⟨fun e he => ?_, h⟩
        rcases List.mem_cons.mp he with rfl | he
        · exact hlt
        · exact ObjectKey.before_trans hlt (hd e he)
      · next hlt =>
        refine List.pairwise_cons.mpr ⟨fun e he => ?_, ih hrest⟩
        rcases mem_insertEntry he with rfl | he
        · exact ObjectKey.before_of_ne hne hlt
        · exact hd e he

theorem Ordered.insert {c : Catalog α} (h : c.Ordered) (key : ObjectKey) (a : α) :
    (c.insert key a).Ordered :=
  pairwise_insertEntry h key a

theorem Ordered.erase {c : Catalog α} (h : c.Ordered) (key : ObjectKey) :
    (c.erase key).Ordered :=
  h.filter _

variable {keyOf : α → ObjectKey}

theorem Keyed.insert {c : Catalog α} (h : c.Keyed keyOf) (a : α) :
    (c.insert (keyOf a) a).Keyed keyOf := by
  intro e he
  rcases mem_insertEntry he with rfl | he
  · rfl
  · exact h e he

theorem Keyed.erase {c : Catalog α} (h : c.Keyed keyOf) (key : ObjectKey) :
    (c.erase key).Keyed keyOf :=
  fun e he => h e (List.mem_of_mem_filter he)

theorem mem_of_lookup {k : ObjectKey} {a : α} {entries : List (ObjectKey × α)}
    (h : entries.lookup k = some a) : (k, a) ∈ entries := by
  induction entries with
  | nil => cases h
  | cons e rest ih =>
    obtain ⟨k', b⟩ := e
    by_cases hk : k = k'
    · subst hk
      rw [List.lookup_cons_self] at h
      cases h
      exact List.mem_cons_self
    · rw [lookup_cons_of_ne hk] at h
      exact List.mem_cons_of_mem _ (ih h)

/-- An object is found under its own key. -/
theorem Keyed.eq_of_get? {c : Catalog α} (h : c.Keyed keyOf) {k : ObjectKey} {a : α}
    (ha : c.get? k = some a) : keyOf a = k :=
  h _ (mem_of_lookup ha)

theorem lookup_of_mem {k : ObjectKey} {a : α} {entries : List (ObjectKey × α)}
    (ordered : entries.Pairwise fun a b => a.1.before b.1 = true) (h : (k, a) ∈ entries) :
    entries.lookup k = some a := by
  induction entries with
  | nil => cases h
  | cons e rest ih =>
    obtain ⟨k', b⟩ := e
    obtain ⟨hfirst, hrest⟩ := List.pairwise_cons.mp ordered
    rcases List.mem_cons.mp h with heq | hmem
    · cases heq
      exact List.lookup_cons_self
    · have hk : k ≠ k' := by
        rintro rfl
        exact ObjectKey.before_irrefl _ (hfirst (k, a) hmem)
      rw [lookup_cons_of_ne hk, ih hrest hmem]

/-- **A list of a namespace holds what is found under its keys.** -/
theorem mem_inNamespace_iff {c : Catalog α} (h : c.Ordered) {ns : String} {a : α} :
    a ∈ c.inNamespace ns ↔ ∃ k, c.get? k = some a ∧ k.ns = ns := by
  simp only [inNamespace, List.mem_map, List.mem_filter, beq_iff_eq, Prod.exists, get?]
  constructor
  · rintro ⟨k, _, ⟨hk, hns⟩, rfl⟩
    exact ⟨k, lookup_of_mem h hk, hns⟩
  · rintro ⟨k, hk, hns⟩
    exact ⟨k, a, ⟨mem_of_lookup hk, hns⟩, rfl⟩

theorem get?_erase (c : Catalog α) (key k : ObjectKey) :
    (c.erase key).get? k = if k = key then none else c.get? k := by
  unfold erase get?
  induction c.entries with
  | nil => simp
  | cons e rest ih =>
    obtain ⟨k', b⟩ := e
    by_cases hk : k' = key
    · subst hk
      by_cases h : k = k'
      · simpa [h] using ih
      · simpa [h, lookup_cons_of_ne h] using ih
    · by_cases h : k = k'
      · subst h
        simp [hk]
      · simpa [hk, lookup_cons_of_ne h] using ih

/-! ## What the keys settle -/

theorem Ordered.mem_iff {c : Catalog α} (h : c.Ordered) {e : ObjectKey × α} :
    e ∈ c.entries ↔ c.get? e.1 = some e.2 :=
  ⟨lookup_of_mem h, mem_of_lookup⟩

/-- **Catalogs in order are equal if the same is found under each key.** -/
theorem Ordered.ext {c d : Catalog α} (hc : c.Ordered) (hd : d.Ordered)
    (h : ∀ k, c.get? k = d.get? k) : c = d := by
  have same : c.entries = d.entries := ObjectKey.eq_of_mem_iff hc hd fun e => by
    rw [hc.mem_iff, hd.mem_iff, h]
  cases c; cases d
  exact congrArg Catalog.mk same

variable {β : Type}

/-- The catalog with something made of every object. -/
def map (g : α → β) (c : Catalog α) : Catalog β :=
  ⟨c.entries.map fun e => (e.1, g e.2)⟩

theorem Ordered.map {c : Catalog α} (h : c.Ordered) (g : α → β) : (c.map g).Ordered :=
  List.pairwise_map.mpr h

theorem get?_map (g : α → β) (c : Catalog α) (k : ObjectKey) :
    (c.map g).get? k = (c.get? k).map g := by
  unfold map get?
  induction c.entries with
  | nil => rfl
  | cons e rest ih =>
    obtain ⟨k', a⟩ := e
    by_cases hk : k = k'
    · simp [hk]
    · simpa [lookup_cons_of_ne hk] using ih

theorem inNamespace_map (g : α → β) (c : Catalog α) (ns : String) :
    (c.map g).inNamespace ns = (c.inNamespace ns).map g := by
  simp [map, inNamespace, List.filter_map, Function.comp_def]

/-- What is made of the objects that are listed is settled by what is made of those that are
found. -/
theorem map_inNamespace_eq {c d : Catalog α} (hc : c.Ordered) (hd : d.Ordered) {g : α → β}
    (h : ∀ k, (c.get? k).map g = (d.get? k).map g) (ns : String) :
    (c.inNamespace ns).map g = (d.inNamespace ns).map g := by
  have same : c.map g = d.map g := (hc.map g).ext (hd.map g) fun k => by
    rw [get?_map, get?_map, h]
  rw [← inNamespace_map, ← inNamespace_map, same]

end Catalog

end FeedOperator
