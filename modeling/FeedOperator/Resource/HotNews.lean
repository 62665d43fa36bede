import FeedOperator.Resource.Condition
import FeedOperator.Resource.Meta

/-!
# HotNews

A HotNews is a standing query: keywords, a window of dates and the feeds to search. Its status
holds a summary of the articles that the last query found.

Model of `HotNewsSpec`, `SummaryConfig`, `HotNewsStatus`, `titles_count` and `owner_reference`
(specification 3).
-/

namespace FeedOperator

/-- How much of the articles a summary shows. -/
structure SummaryConfig where
  /-- The number of titles to keep, zero for the usual number. -/
  titlesCount : UInt32 := 0
  deriving DecidableEq

/-- A standing query. -/
structure HotNewsSpec where
  keywords : List String := []
  /-- The first day, `YYYY-MM-DD`. -/
  dateStart : Option String := none
  /-- The last day, `YYYY-MM-DD`. -/
  dateEnd : Option String := none
  /-- Short names of Sources. -/
  sources : List String := []
  /-- Keys of the feed-group ConfigMap. -/
  feedGroups : List String := []
  summaryConfig : SummaryConfig := {}
  deriving DecidableEq

/-- A summary of the articles that were found. -/
structure HotNewsStatus where
  /-- How many articles were found. The number is that of a list in memory, so the bound of a
  machine word is out of reach. -/
  articlesCount : Nat := 0
  /-- The URL of the last query. -/
  newsLink : String := ""
  articlesTitles : List String := []
  conditions : List Condition := []
  deriving DecidableEq

/-- A standing query with its metadata and status. -/
abbrev HotNews := Object HotNewsSpec HotNewsStatus

/-- The number of titles to keep if none is given. -/
def defaultTitlesCount : UInt32 := 10

/-- The number of titles to keep. -/
def HotNewsSpec.titlesCount (spec : HotNewsSpec) : Nat :=
  if spec.summaryConfig.titlesCount = 0 then defaultTitlesCount.toNat
  else spec.summaryConfig.titlesCount.toNat

/-- Writes the usual number of titles where none is given. -/
def HotNewsSpec.withDefaults (spec : HotNewsSpec) : HotNewsSpec :=
  if spec.summaryConfig.titlesCount = 0 then
    { spec with summaryConfig := ⟨defaultTitlesCount⟩ }
  else spec

namespace HotNews

/-- The type of HotNews. -/
def type : ResourceType := ⟨"newsaggregator.dev", "v1", "HotNews", "hotnews"⟩

/-- Held until the owner references on Sources are cleaned up. -/
def finalizer : String := "hotnews.newsaggregator.dev/finalizer"

/-- The status, empty if there is none yet. -/
def statusOrEmpty (h : HotNews) : HotNewsStatus :=
  h.status.getD {}

/-- A reference to the HotNews as an owner, which takes a name and a UID. -/
def ownerReference? (h : HotNews) : Option OwnerReference := do
  return { apiVersion := type.apiVersion, kind := type.kind,
           name := ← h.metadata.name, uid := ← h.metadata.uid }

end HotNews

end FeedOperator
