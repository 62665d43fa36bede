import FeedOperator.Resource.Condition
import FeedOperator.Resource.Meta

/-!
# Sources

A Source is one news feed. The aggregation service gives it an id when it is first registered
there; the id in the status is the one that counts, and zero stands for none.

Model of `SourceSpec`, `SourceStatus`, `external_id`, `is_owned_by`, `add_owner` and `remove_owner`
(specification 3 and 4.2).
-/

namespace FeedOperator

/-- One news feed. -/
structure SourceSpec where
  /-- An id that the aggregation service gave, zero if it gave none. -/
  id : Int64 := 0
  /-- The display name. -/
  name : String := ""
  /-- The URL of the feed. -/
  link : String := ""
  /-- The word by which HotNews and feed groups name the feed. -/
  shortName : String := ""
  deriving DecidableEq

/-- What is known of a registered feed. -/
structure SourceStatus where
  /-- The id that the aggregation service gave, zero if it gave none. -/
  id : Int64 := 0
  conditions : List Condition := []
  deriving DecidableEq

/-- A feed with its metadata and status. -/
abbrev Source := Object SourceSpec SourceStatus

namespace Source

/-- The type of Sources. -/
def type : ResourceType := ⟨"newsaggregator.dev", "v1", "Source", "sources"⟩

/-- Held until the record of the aggregation service is deleted. -/
def finalizer : String := "source.newsaggregator.dev/finalizer"

/-- The status, empty if there is none yet. -/
def statusOrEmpty (s : Source) : SourceStatus :=
  s.status.getD {}

/-- The id that the aggregation service gave, zero if it gave none. -/
def externalId (s : Source) : Int64 :=
  s.statusOrEmpty.id

/-- Whether a HotNews with the UID is among the owners. -/
def isOwnedBy (s : Source) (uid : String) : Bool :=
  s.metadata.isOwnedBy uid

/-- Appends an owner unless one with its UID is there, and says whether there was none. -/
def addOwner (s : Source) (owner : OwnerReference) : Source × Bool :=
  if s.isOwnedBy owner.uid then (s, false)
  else
    ({ s with metadata :=
        { s.metadata with ownerReferences := some (s.metadata.owners ++ [owner]) } }, true)

/-- Drops the owners with a UID and says whether there was one. Owners that come to nothing are
absent. -/
def removeOwner (s : Source) (uid : String) : Source × Bool :=
  let kept := s.metadata.owners.filter (·.uid != uid)
  ({ s with metadata :=
      { s.metadata with ownerReferences := if kept.isEmpty then none else some kept } },
    s.isOwnedBy uid)

end Source

end FeedOperator
