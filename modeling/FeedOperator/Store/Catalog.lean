import FeedOperator.Affected

/-!
# Catalogs

Objects under their keys, in ascending order of namespace and name.

* `Catalog.get?`, `insert`, `erase`: one object.
* `Catalog.toList`, `Catalog.inNamespace`: many objects, in the order of their keys.

Results:
* `get?_insert`: an insertion changes what is found under its key, and nothing else.
-/

namespace FeedOperator

/-- Objects under their keys. -/
structure Catalog (α : Type) where
  entries : List (ObjectKey × α) := []

namespace Catalog

variable {α : Type}

/-- The object under a key. -/
def get? (c : Catalog α) (key : ObjectKey) : Option α :=
  c.entries.lookup key

/-- Puts an entry before the first one with a greater key, or in the place of the one with its
key. -/
def insertEntry (key : ObjectKey) (a : α) : List (ObjectKey × α) → List (ObjectKey × α)
  | [] => [(key, a)]
  | (k, b) :: rest =>
    if key = k then (key, a) :: rest
    else if key.before k then (key, a) :: (k, b) :: rest
    else (k, b) :: insertEntry key a rest

/-- Puts an object under a key. -/
def insert (c : Catalog α) (key : ObjectKey) (a : α) : Catalog α :=
  ⟨insertEntry key a c.entries⟩

/-- Takes the object under a key away. -/
def erase (c : Catalog α) (key : ObjectKey) : Catalog α :=
  ⟨c.entries.filter (·.1 != key)⟩

/-- All objects. -/
def toList (c : Catalog α) : List α :=
  c.entries.map (·.2)

/-- The objects of one namespace. -/
def inNamespace (c : Catalog α) (ns : String) : List α :=
  (c.entries.filter (·.1.ns == ns)).map (·.2)

theorem lookup_cons_of_ne {k k' : ObjectKey} (h : k ≠ k') (a : α)
    (entries : List (ObjectKey × α)) : ((k', a) :: entries).lookup k = entries.lookup k := by
  have hb : (k == k') = false := by simp [h]
  simp [List.lookup_cons, hb]

theorem lookup_insertEntry (key k : ObjectKey) (a : α) (entries : List (ObjectKey × α)) :
    (insertEntry key a entries).lookup k = if k = key then some a else entries.lookup k := by
  induction entries with
  | nil =>
    by_cases h : k = key
    · simp [insertEntry, h]
    · simp [insertEntry, h, lookup_cons_of_ne h]
  | cons e rest ih =>
    obtain ⟨k', b⟩ := e
    unfold insertEntry
    split
    · next heq =>
      subst heq
      by_cases h : k = key
      · simp [h]
      · simp [h, lookup_cons_of_ne h]
    · next hne =>
      split
      · by_cases h : k = key
        · simp [h]
        · simp [h, lookup_cons_of_ne h]
      · by_cases h : k = k'
        · subst h
          simp [Ne.symm hne]
        · simp [lookup_cons_of_ne h, ih]

theorem get?_insert (c : Catalog α) (key k : ObjectKey) (a : α) :
    (c.insert key a).get? k = if k = key then some a else c.get? k :=
  lookup_insertEntry key k a c.entries

end Catalog

end FeedOperator
