import FeedOperator.Json.Decode
import FeedOperator.Resource.Encode
import FeedOperator.Text.Base64

/-!
# Resources out of JSON

Specs, statuses, conditions and articles are strict structures: a member may not come twice, and
`null` stands for a missing value only where the value may be missing. Metadata, owner references
and ConfigMaps are loose ones. A resource is strict around a loose metadata.
-/

namespace FeedOperator

namespace Condition

/-- The kinds by their words. -/
def Kind.read : Reading → Decoded Kind :=
  Reading.asVariant [(Kind.added.text, .added), (Kind.updated.text, .updated)]

/-- The statuses by their words. -/
def Status.read : Reading → Decoded Status :=
  Reading.asVariant [(Status.holds.text, .holds), (Status.fails.text, .fails),
    (Status.unknown.text, .unknown)]

/-- The fields of a condition, all of which have to be there. -/
def fields : List (Field Condition) := [
  .of "type" .required Kind.read fun v c => { c with kind := v },
  .of "status" .required Status.read fun v c => { c with status := v },
  .of "lastUpdateTime" .required Reading.asString fun v c => { c with lastUpdateTime := v },
  .of "reason" .required Reading.asString fun v c => { c with reason := v },
  .of "message" .required Reading.asString fun v c => { c with message := v }]

/-- A condition. -/
def read : Reading → Decoded Condition :=
  Reading.asRecord fields ⟨.added, .unknown, "", "", ""⟩

end Condition

namespace SourceSpec

/-- The fields of a spec, any of which may be missing. -/
def fields : List (Field SourceSpec) := [
  .of "id" .defaulted Reading.asInt64 fun v s => { s with id := v },
  .of "name" .defaulted Reading.asString fun v s => { s with name := v },
  .of "link" .defaulted Reading.asString fun v s => { s with link := v },
  .of "shortName" .defaulted Reading.asString fun v s => { s with shortName := v }]

/-- A spec. -/
def read : Reading → Decoded SourceSpec :=
  Reading.asRecord fields {}

end SourceSpec

namespace SourceStatus

/-- The fields of a status, any of which may be missing. -/
def fields : List (Field SourceStatus) := [
  .of "id" .defaulted Reading.asInt64 fun v s => { s with id := v },
  .of "conditions" .defaulted (Reading.asList Condition.read) fun v s => { s with conditions := v }]

/-- A status. -/
def read : Reading → Decoded SourceStatus :=
  Reading.asRecord fields {}

end SourceStatus

/-- The configuration of a summary. -/
def SummaryConfig.read : Reading → Decoded SummaryConfig :=
  Reading.asRecord
    [.of "titlesCount" .defaulted Reading.asUInt32 fun v c => { c with titlesCount := v }] {}

namespace HotNewsSpec

/-- The fields of a spec. In the list form the dates have to be there, if only as `null`. -/
def fields : List (Field HotNewsSpec) := [
  .of "keywords" .defaulted Reading.asStrings fun v s => { s with keywords := v },
  .of "dateStart" .nullable (Reading.asOption Reading.asString)
    fun v s => { s with dateStart := v },
  .of "dateEnd" .nullable (Reading.asOption Reading.asString) fun v s => { s with dateEnd := v },
  .of "sources" .defaulted Reading.asStrings fun v s => { s with sources := v },
  .of "feedGroups" .defaulted Reading.asStrings fun v s => { s with feedGroups := v },
  .of "summaryConfig" .defaulted SummaryConfig.read fun v s => { s with summaryConfig := v }]

/-- A spec. -/
def read : Reading → Decoded HotNewsSpec :=
  Reading.asRecord fields {}

end HotNewsSpec

namespace HotNewsStatus

/-- The fields of a status, any of which may be missing. -/
def fields : List (Field HotNewsStatus) := [
  .of "articlesCount" .defaulted Reading.asCount fun v s => { s with articlesCount := v },
  .of "newsLink" .defaulted Reading.asString fun v s => { s with newsLink := v },
  .of "articlesTitles" .defaulted Reading.asStrings fun v s => { s with articlesTitles := v },
  .of "conditions" .defaulted (Reading.asList Condition.read) fun v s => { s with conditions := v }]

/-- A status. -/
def read : Reading → Decoded HotNewsStatus :=
  Reading.asRecord fields {}

end HotNewsStatus

namespace Article

/-- The fields of an article, of which only the title has to be there. -/
def fields : List (Field Article) := [
  .of "Id" .defaulted Reading.asInt64 fun v a => { a with id := v },
  .of "Title" .required Reading.asString fun v a => { a with title := v },
  .of "Description" .defaulted Reading.asString fun v a => { a with description := v },
  .of "Link" .defaulted Reading.asString fun v a => { a with link := v },
  .of "Source" .defaulted Reading.asString fun v a => { a with source := v },
  .of "PubDate" .defaulted Reading.asString fun v a => { a with pubDate := v }]

/-- An article. -/
def read : Reading → Decoded Article :=
  Reading.asRecord fields { title := "" }

end Article

/-! ## Loose structures -/

/-- A point of time. -/
def Instant.read (r : Reading) : Decoded Instant := do
  match Instant.parse? (← r.asString) with
  | some t => return t
  | none => throw .mismatch

/-- A member of a loose structure; `null` takes the value away. -/
def Field.loose {σ α : Type} (name : String) (read : Reading → Decoded α)
    (put : Option α → σ → σ) : Field σ :=
  .of name .nullable (Reading.asOption read) put

/-- An owner reference. -/
def OwnerReference.read : Reading → Decoded OwnerReference :=
  Reading.asLooseRecord [
    .loose "apiVersion" Reading.asString fun v r => { r with apiVersion := v.getD "" },
    .loose "blockOwnerDeletion" Reading.asBool fun v r => { r with blockOwnerDeletion := v },
    .loose "controller" Reading.asBool fun v r => { r with controller := v },
    .loose "kind" Reading.asString fun v r => { r with kind := v.getD "" },
    .loose "name" Reading.asString fun v r => { r with name := v.getD "" },
    .loose "uid" Reading.asString fun v r => { r with uid := v.getD "" }]
    { apiVersion := "", kind := "", name := "", uid := "" }

/-- The fields that a client set. -/
def FieldOwnership.read : Reading → Decoded FieldOwnership :=
  Reading.asLooseRecord [
    .loose "apiVersion" Reading.asString fun v f => { f with apiVersion := v },
    .loose "fieldsType" Reading.asString fun v f => { f with fieldsType := v },
    .loose "fieldsV1" Reading.asJson fun v f => { f with fields := v },
    .loose "manager" Reading.asString fun v f => { f with manager := v },
    .loose "operation" Reading.asString fun v f => { f with operation := v },
    .loose "subresource" Reading.asString fun v f => { f with subresource := v },
    .loose "time" Instant.read fun v f => { f with time := v }] {}

/-- Texts under keys. -/
def Reading.asTexts : Reading → Decoded (List (String × String)) :=
  Reading.asTextMap Reading.asString

/-- Metadata. -/
def Meta.read : Reading → Decoded Meta :=
  Reading.asLooseRecord [
    .loose "annotations" Reading.asTexts fun v m => { m with annotations := v },
    .loose "creationTimestamp" Instant.read fun v m => { m with creationTimestamp := v },
    .loose "deletionGracePeriodSeconds" Reading.asInt64
      fun v m => { m with deletionGracePeriodSeconds := v },
    .loose "deletionTimestamp" Instant.read fun v m => { m with deletionTimestamp := v },
    .loose "finalizers" Reading.asStrings fun v m => { m with finalizers := v },
    .loose "generateName" Reading.asString fun v m => { m with generateName := v },
    .loose "generation" Reading.asInt64 fun v m => { m with generation := v },
    .loose "labels" Reading.asTexts fun v m => { m with labels := v },
    .loose "managedFields" (Reading.asList FieldOwnership.read)
      fun v m => { m with managedFields := v },
    .loose "name" Reading.asString fun v m => { m with name := v },
    .loose "namespace" Reading.asString fun v m => { m with ns := v },
    .loose "ownerReferences" (Reading.asList OwnerReference.read)
      fun v m => { m with ownerReferences := v },
    .loose "resourceVersion" Reading.asString fun v m => { m with resourceVersion := v },
    .loose "selfLink" Reading.asString fun v m => { m with selfLink := v },
    .loose "uid" Reading.asString fun v m => { m with uid := v }] {}

/-! ## Resources -/

/-- Octets in base 64. -/
def Reading.asBase64 (r : Reading) : Decoded String := do
  let text ← r.asString
  if Text.Base64.isCanonical text then return text else throw .mismatch

/-- A string that has to be a given one. -/
def Reading.asConstant (text : String) (r : Reading) : Decoded Unit := do
  if (← r.asString) = text then return () else throw .mismatch

/-- A ConfigMap. Its type may be missing and may not be another. -/
def ConfigMap.read : Reading → Decoded ConfigMap :=
  Reading.asLooseRecord [
    .of "apiVersion" .nullable (Reading.asConstant ConfigMap.type.apiVersion) fun _ cm => cm,
    .of "kind" .nullable (Reading.asConstant ConfigMap.type.kind) fun _ cm => cm,
    .loose "binaryData" (Reading.asTextMap Reading.asBase64)
      fun v cm => { cm with binaryData := v },
    .loose "data" Reading.asTexts fun v cm => { cm with data := v },
    .loose "immutable" Reading.asBool fun v cm => { cm with immutable := v },
    .loose "metadata" Meta.read fun v cm => { cm with metadata := v.getD {} }] {}

/-- An object with metadata, spec and perhaps a status. -/
def Object.read {σ τ : Type} (spec : Reading → Decoded σ) (status : Reading → Decoded τ)
    (start : σ) : Reading → Decoded (Object σ τ) :=
  Reading.asRecord [
    .of "metadata" .required Meta.read fun v o => { o with metadata := v },
    .of "spec" .required spec fun v o => { o with spec := v },
    .of "status" .nullable (Reading.asOption status) fun v o => { o with status := v }]
    { spec := start }

/-- A Source. -/
def Source.read : Reading → Decoded Source :=
  Object.read SourceSpec.read SourceStatus.read {}

/-- A HotNews. -/
def HotNews.read : Reading → Decoded HotNews :=
  Object.read HotNewsSpec.read HotNewsStatus.read {}

end FeedOperator
