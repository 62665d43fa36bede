import FeedOperator.Reconcile.Tracking

/-!
# Passes over Sources

A pass keeps the record of the aggregation service like the Source.

Model of the Source controller: `reconcile`, `create`, `update`, `write_condition`, `finalize` and
`classify_error` (specification 4.1 and 7).

* A Source without an id is registered, and the id goes to its status.
* A Source with an id is updated under that id.
* A Source that is marked for deletion has its record deleted, and then its finalizer released.

A request to register or update leaves a condition on the status, whether it went well or not.
-/

namespace FeedOperator

/-- Why a pass over a Source came to nothing. -/
inductive SourceError where
  | service (e : ServiceError)
  | store (e : StoreError)
  | missingField (field : String)
  deriving DecidableEq

namespace SourceError

/-- The error in words. -/
def message : SourceError → String
  | .service e => "aggregation service error: " ++ e.message
  | .store e => "store error: " ++ e.message
  | .missingField field => "Missing required field: " ++ field

/-- What the error calls for. -/
def failure : SourceError → Failure
  | .store (.conflict _) => .conflict
  | .store (.missingField _) => .permanent
  | .service (.invalidUrl _) => .permanent
  | .service _ => .transient
  | .store _ => .transient
  | .missingField _ => .permanent

end SourceError

namespace Source

/-- Puts a condition on the status and writes it. -/
def writeCondition (source : Source) (condition : Condition) : Attempt SourceError Unit := do
  let status := source.statusOrEmpty
  let status := { status with conditions := condition.put status.conditions }
  let _ ← Attempt.store .store (.replaceSourceStatus { source with status := some status })

/-- Registers a Source and records its id. -/
def register (now : String) (source : Source) (kind : Condition.Kind) :
    Attempt SourceError Unit := do
  match ← Attempt.ofPass (Pass.service (.create source.spec)) with
  | .ok id =>
    let status := { source.statusOrEmpty with id := id }
    let message := "Source registered with id " ++ String.ofList (Text.signedDecimal id.toInt)
    writeCondition { source with status := some status }
      (.make kind true now Condition.Reason.successfulCreation.text message)
  | .error e =>
    writeCondition source
      (.make kind false now Condition.Reason.failedCreation.text e.message)
    throw (.service e)

/-- Brings the record of a Source up to date. -/
def pushUpdate (now : String) (source : Source) (id : Int64) (kind : Condition.Kind) :
    Attempt SourceError Unit := do
  match ← Attempt.ofPass (Pass.service (.update id { source.spec with id := id })) with
  | .ok () =>
    writeCondition source
      (.make kind true now Condition.Reason.successfulUpdate.text
        "Source synced to aggregation service")
  | .error e =>
    writeCondition source (.make kind false now Condition.Reason.failedUpdate.text e.message)
    throw (.service e)

/-- Deletes the record of a Source and releases the finalizer. -/
def finalize (source : Source) : Attempt SourceError Action := do
  if !source.metadata.hasFinalizer finalizer then return .awaitChange
  let id := source.externalId
  if id ≠ 0 then
    match ← Attempt.ofPass (Pass.service (.delete id)) with
    | .ok () => pure ()
    | .error e => throw (.service e)
  let released := { source with metadata := (source.metadata.removeFinalizer finalizer).1 }
  let _ ← Attempt.store .store (.replaceSource released)
  return .awaitChange

/-- Makes sure that the Source has the finalizer. -/
def ensureFinalizer (source : Source) : Attempt SourceError Source := do
  match source.metadata.addFinalizer finalizer with
  | (metadata, true) =>
    Attempt.store .store (.replaceSource { source with metadata := metadata })
  | (_, false) => return source

/-- One pass over a Source, which is read afresh; `now` is the time that a condition gets. Where it
goes well it forgets the failures of the Source. -/
def reconcile (now : String) (given : Source) : Tracking SourceError Action := do
  let some name := given.metadata.name | throw (.missingField "metadata.name")
  let some ns := given.metadata.ns | throw (.missingField "metadata.namespace")
  let key := given.metadata.retryKey
  let some source ← (Attempt.store .store (.getSource ns name)).tracked
    | Tracking.forget key
      return .awaitChange
  if source.metadata.isDeleted then
    let action ← (finalize source).tracked
    Tracking.forget key
    return action
  let source ← (ensureFinalizer source).tracked
  let status := source.statusOrEmpty
  let kind := Condition.Kind.next status.conditions
  if status.id = 0 then (register now source kind).tracked
  else (pushUpdate now source status.id kind).tracked
  Tracking.forget key
  return .awaitChange

end Source

end FeedOperator
