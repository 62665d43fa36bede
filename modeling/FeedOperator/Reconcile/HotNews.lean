import FeedOperator.FeedGroup
import FeedOperator.Reconcile.Owners
import FeedOperator.Reconcile.Tracking

/-!
# Passes over HotNews

A pass resolves the feed groups, makes the HotNews an owner of the Sources that it searches, fetches
the articles and writes a summary of them to the status. A step that fails leaves a condition on
the status. A HotNews that is marked for deletion is taken from the owners of all Sources of its
namespace, and then its finalizer is released.

Model of the HotNews controller: `reconcile`, `reconcile_hotnews`, `fail`, `summarize`, `finalize`
and `classify_error` (specification 4.2 and 7).
-/

namespace FeedOperator

/-- Why a pass over a HotNews came to nothing. -/
inductive HotNewsError where
  /-- The ConfigMap with the feed groups is not there. -/
  | configMapNotFound (target : FeedGroupRef)
  | ownerReference (e : StoreError)
  | fetchArticles (e : ServiceError)
  | updateStatus (e : StoreError)
  | store (e : StoreError)
  | missingField (field : String)
  deriving DecidableEq

namespace HotNewsError

/-- The error in words. -/
def message : HotNewsError → String
  | .configMapNotFound target =>
    "feed-group ConfigMap " ++ target.ns ++ "/" ++ target.name ++ " not found"
  | .ownerReference e => "failed to link sources: " ++ e.message
  | .fetchArticles e => "failed to fetch articles: " ++ e.message
  | .updateStatus e => "failed to update status: " ++ e.message
  | .store e => "store error: " ++ e.message
  | .missingField field => "Missing required field: " ++ field

/-- What the error calls for. -/
def failure : HotNewsError → Failure
  | .store (.conflict _) => .conflict
  | .ownerReference (.conflict _) => .conflict
  | .updateStatus (.conflict _) => .conflict
  | .missingField _ => .permanent
  | .fetchArticles (.invalidUrl _) => .permanent
  | .configMapNotFound _ => .transient
  | .ownerReference _ => .transient
  | .fetchArticles _ => .transient
  | .updateStatus _ => .transient
  | .store _ => .transient

end HotNewsError

/-- What the operator is told about its surroundings. -/
structure Settings where
  feedGroup : FeedGroupRef := {}
  /-- Seconds after which a HotNews is looked at again when all is well. -/
  resync : Nat := 300

namespace HotNews

/-- Writes the status with a condition that tells of a failure, and fails with it; if that cannot
be written either, fails with the error of the write. -/
def fail {α : Type} (now : String) (hotNews : HotNews) (kind : Condition.Kind)
    (reason : Condition.Reason) (error : HotNewsError) : Attempt HotNewsError α := do
  let status := hotNews.statusOrEmpty
  let condition := Condition.make kind false now reason.text error.message
  let status := { status with conditions := condition.put status.conditions }
  let _ ← Attempt.store .updateStatus (.replaceHotNewsStatus { hotNews with status := some status })
  throw error

/-- The status after a search: the articles, and that all went well. -/
def summarized (now : String) (spec : HotNewsSpec) (conditions : List Condition)
    (found : ArticleSummary) : HotNewsStatus :=
  let count := found.articles.length
  let message := String.ofList (Text.decimal count) ++ " articles found"
  let condition :=
    Condition.make (.next conditions) true now Condition.Reason.reconciled.text message
  { articlesCount := count
    newsLink := found.requestUrl
    articlesTitles := (found.articles.take spec.titlesCount).map (·.title)
    conditions := condition.put conditions }

/-- Resolves, links, searches and writes the summary. -/
def refresh (settings : Settings) (now : String) (hotNews : HotNews) :
    Attempt HotNewsError Unit := do
  let some ns := hotNews.metadata.ns | throw (.missingField "metadata.namespace")
  let conditions := hotNews.statusOrEmpty.conditions
  let kind := Condition.Kind.next conditions
  let target := settings.feedGroup
  match ← Attempt.ofPass (Pass.store (.getConfigMap target.ns target.name)) with
  | .error e => fail now hotNews kind .configMapNotFound (.store e)
  | .ok none => fail now hotNews kind .configMapNotFound (.configMapNotFound target)
  | .ok (some cm) =>
    let sources := FeedGroups.effectiveSources cm.texts hotNews.spec.sources hotNews.spec.feedGroups
    match ← Attempt.ofPass (linkSources ns hotNews sources).run with
    | .error e => fail now hotNews kind .ownerReferenceFailed (.ownerReference e)
    | .ok _ =>
      let query : ArticleQuery := {
        keywords := hotNews.spec.keywords
        dateStart := hotNews.spec.dateStart
        dateEnd := hotNews.spec.dateEnd
        sources := sources }
      match ← Attempt.ofPass (Pass.service (.fetch query)) with
      | .error e => fail now hotNews kind .fetchArticlesFailed (.fetchArticles e)
      | .ok found =>
        let updated :=
          { hotNews with status := some (summarized now hotNews.spec conditions found) }
        match ← Attempt.ofPass (Pass.store (.replaceHotNewsStatus updated)) with
        | .error e => fail now updated kind .updateStatusFailed (.updateStatus e)
        | .ok _ => return ()

/-- Takes the HotNews from the owners of Sources and releases the finalizer. -/
def finalize (hotNews : HotNews) : Attempt HotNewsError Action := do
  if !hotNews.metadata.hasFinalizer finalizer then return .awaitChange
  let some ns := hotNews.metadata.ns | throw (.missingField "metadata.namespace")
  if let some uid := hotNews.metadata.uid then
    match ← Attempt.ofPass (unlinkSources ns uid).run with
    | .ok _ => pure ()
    | .error e => throw (.store e)
  let released := { hotNews with metadata := (hotNews.metadata.removeFinalizer finalizer).1 }
  let _ ← Attempt.store .store (.replaceHotNews released)
  return .awaitChange

/-- Makes sure that the HotNews has the finalizer. -/
def ensureFinalizer (hotNews : HotNews) : Attempt HotNewsError HotNews := do
  match hotNews.metadata.addFinalizer finalizer with
  | (metadata, true) =>
    Attempt.store .store (.replaceHotNews { hotNews with metadata := metadata })
  | (_, false) => return hotNews

/-- One pass over a HotNews, which is read afresh; `now` is the time that a condition gets. Where it
goes well it forgets the failures of the HotNews. -/
def reconcile (settings : Settings) (now : String) (given : HotNews) :
    Tracking HotNewsError Action := do
  let some name := given.metadata.name | throw (.missingField "metadata.name")
  let some ns := given.metadata.ns | throw (.missingField "metadata.namespace")
  let key := given.metadata.retryKey
  let some hotNews ← (Attempt.store .store (.getHotNews ns name)).tracked
    | Tracking.forget key
      return .awaitChange
  if hotNews.metadata.isDeleted then
    let action ← (finalize hotNews).tracked
    Tracking.forget key
    return action
  let hotNews ← (ensureFinalizer hotNews).tracked
  (refresh settings now hotNews).tracked
  Tracking.forget key
  return .requeue settings.resync

end HotNews

end FeedOperator
