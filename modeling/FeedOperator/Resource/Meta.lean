import FeedOperator.Calendar.Instant
import FeedOperator.Json.Basic

/-!
# Object metadata

Model of `has_finalizer`, `add_finalizer`, `remove_finalizer`, `retry_key` and the UID check of
`is_owned_by` (specification 3 and 4.2).

* `OwnerReference`: the object that another one depends on. Objects of which all owners are gone
  are collected by the platform.
* `Meta`: identity, version, finalizers, owners and deletion mark of an object, and what else its
  clients attach to it.
* `Meta.addFinalizer`, `Meta.removeFinalizer`: each says whether it changed anything. An object that
  is marked for deletion stays as long as it has a finalizer.

Results:
* `hasFinalizer_addFinalizer`, `hasFinalizer_removeFinalizer`: what the two do to the view.
-/

namespace FeedOperator

/-- A reference to the owner of an object. -/
structure OwnerReference where
  apiVersion : String
  kind : String
  name : String
  uid : String
  controller : Option Bool := none
  blockOwnerDeletion : Option Bool := none
  deriving DecidableEq

/-- Which client set which fields of an object. -/
structure FieldOwnership where
  apiVersion : Option String := none
  fieldsType : Option String := none
  fields : Option Json := none
  manager : Option String := none
  operation : Option String := none
  subresource : Option String := none
  time : Option Instant := none

/-- The metadata of an object. -/
structure Meta where
  name : Option String := none
  ns : Option String := none
  uid : Option String := none
  /-- Changes with every write. -/
  resourceVersion : Option String := none
  finalizers : Option (List String) := none
  ownerReferences : Option (List OwnerReference) := none
  /-- Set once the deletion of the object was requested. -/
  deletionTimestamp : Option Instant := none
  annotations : Option (List (String × String)) := none
  creationTimestamp : Option Instant := none
  deletionGracePeriodSeconds : Option Int64 := none
  generateName : Option String := none
  generation : Option Int64 := none
  labels : Option (List (String × String)) := none
  managedFields : Option (List FieldOwnership) := none
  selfLink : Option String := none

namespace Meta

/-- Whether deletion was requested. -/
def isDeleted (m : Meta) : Bool :=
  m.deletionTimestamp.isSome

/-- Whether the metadata names a finalizer. -/
def hasFinalizer (m : Meta) (finalizer : String) : Bool :=
  (m.finalizers.getD []).contains finalizer

/-- Adds a finalizer at the end unless it is there, and says whether it was not. -/
def addFinalizer (m : Meta) (finalizer : String) : Meta × Bool :=
  if m.hasFinalizer finalizer then (m, false)
  else ({ m with finalizers := some (m.finalizers.getD [] ++ [finalizer]) }, true)

/-- Drops every occurrence of a finalizer and says whether there was one. -/
def removeFinalizer (m : Meta) (finalizer : String) : Meta × Bool :=
  ({ m with finalizers := m.finalizers.map (·.filter (· != finalizer)) }, m.hasFinalizer finalizer)

/-- Whether the object is to go: deletion was requested and no finalizer is left. -/
def isReleased (m : Meta) : Bool :=
  m.isDeleted && (m.finalizers.getD []).isEmpty

/-- The owners, of which there may be none. -/
def owners (m : Meta) : List OwnerReference :=
  m.ownerReferences.getD []

/-- Whether some owner has a UID. -/
def isOwnedBy (m : Meta) (uid : String) : Bool :=
  m.owners.any (·.uid == uid)

/-- Names an object among all others: its UID, or namespace and name if it has none. -/
def retryKey (m : Meta) : String :=
  match m.uid with
  | some uid => uid
  | none => m.ns.getD "" ++ "/" ++ m.name.getD ""

theorem hasFinalizer_addFinalizer (m : Meta) (f g : String) :
    (m.addFinalizer f).1.hasFinalizer g = (m.hasFinalizer g || g == f) := by
  unfold addFinalizer
  split
  · next h =>
    by_cases hg : g = f
    · subst hg; simp [h]
    · simp [hg]
  · by_cases hg : g = f <;> simp [hasFinalizer, hg]

theorem hasFinalizer_removeFinalizer (m : Meta) (f g : String) :
    (m.removeFinalizer f).1.hasFinalizer g = (m.hasFinalizer g && g != f) := by
  by_cases hg : g = f <;> cases hm : m.finalizers <;> simp [removeFinalizer, hasFinalizer, hm, hg]

end Meta

/-- Group, version and kind of a resource type. -/
structure ResourceType where
  group : String
  version : String
  kind : String
  /-- The name of a collection of such objects. -/
  plural : String

namespace ResourceType

/-- Group and version as objects carry them; the core group is not written. -/
def apiVersion (t : ResourceType) : String :=
  if t.group.isEmpty then t.version else t.group ++ "/" ++ t.version

/-- The kind with its group; the core group is not written. -/
def qualifiedKind (t : ResourceType) : String :=
  if t.group.isEmpty then t.kind else t.kind ++ "." ++ t.group

end ResourceType

/-- An object with metadata, what is wanted of it, and what was observed. -/
structure Object (σ τ : Type) where
  metadata : Meta := {}
  spec : σ
  status : Option τ := none

end FeedOperator
