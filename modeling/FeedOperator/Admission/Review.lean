import FeedOperator.Json.Patch
import FeedOperator.Resource.Decode

/-!
# Admission reviews

The platform asks before it stores or deletes an object, and gets its question back with an answer.

Model of the reviews that `mutate_handler` and `validate_handler` read and answer with.

* `AdmissionRequest`, `AdmissionReview`: the question. A review may come without a request.
* `AdmissionReview.read`: reads a review about objects of some type. What the operator does not look
  at has to be of the right shape all the same.
* `AdmissionAnswer`: the answer, with its form.
-/

namespace FeedOperator

/-- What is to happen to an object. -/
inductive Operation where
  | create
  | update
  | delete
  | connect
  deriving DecidableEq

/-- The question about one object. -/
structure AdmissionRequest (α : Type) where
  uid : String
  operation : Operation
  /-- The namespace of the object. -/
  ns : Option String := none
  object : Option α := none
  /-- The object as it is stored. -/
  oldObject : Option α := none

/-- A question with the version in which it is put. -/
structure AdmissionReview (α : Type) where
  apiVersion : String
  kind : String
  request : Option (AdmissionRequest α)

/-! ## Reading -/

namespace AdmissionReview

variable {α σ : Type}

/-- A member that only has to be of the right shape. -/
def checked {β : Type} (name : String) (presence : Presence) (read : Reading → Decoded β) :
    Field σ :=
  .of name presence read fun _ s => s

/-- A structure of strings that have to be there. -/
def asNames (names : List String) : Reading → Decoded Unit :=
  Reading.asRecord (names.map fun name => checked name .required Reading.asString) ()

/-- A structure of which nothing is kept. -/
def asShape (fields : List (Field Unit)) : Reading → Decoded Unit :=
  Reading.asRecord fields ()

/-- Lists of strings under keys. -/
def asLists : Reading → Decoded Unit
  | .obj members => members.forM fun (k, v) =>
    if k.isNone then throw .broken else do let _ ← Reading.asStrings v
  | r => .error r.offKind

/-- The user who makes the request. -/
def asUser : Reading → Decoded Unit :=
  Reading.asLooseRecord [
    checked "extra" .nullable (Reading.asOption asLists),
    checked "groups" .nullable (Reading.asOption Reading.asStrings),
    checked "uid" .nullable (Reading.asOption Reading.asString),
    checked "username" .nullable (Reading.asOption Reading.asString)] ()

/-- The operations by their names. -/
def asOperation : Reading → Decoded Operation :=
  Reading.asVariant [("CREATE", .create), ("UPDATE", .update), ("DELETE", .delete),
    ("CONNECT", .connect)]

/-- A request about an object. -/
def asRequest (read : Reading → Decoded α) : Reading → Decoded (AdmissionRequest α) :=
  let typeNames := ["group", "version", "kind"]
  let resourceNames := ["group", "version", "resource"]
  Reading.asRecord [
    .of "uid" .required Reading.asString fun v r => { r with uid := v },
    checked "kind" .required (asNames typeNames),
    checked "resource" .required (asNames resourceNames),
    checked "subResource" .defaulted (Reading.asOption Reading.asString),
    checked "requestKind" .defaulted (Reading.asOption (asNames typeNames)),
    checked "requestResource" .defaulted (Reading.asOption (asNames resourceNames)),
    checked "requestSubResource" .defaulted (Reading.asOption Reading.asString),
    checked "name" .defaulted Reading.asString,
    .of "namespace" .nullable (Reading.asOption Reading.asString) fun v r => { r with ns := v },
    .of "operation" .required asOperation fun v r => { r with operation := v },
    checked "userInfo" .required asUser,
    .of "object" .nullable (Reading.asOption read) fun v r => { r with object := v },
    .of "oldObject" .nullable (Reading.asOption read) fun v r => { r with oldObject := v },
    checked "dryRun" .defaulted Reading.asBool,
    checked "options" .defaulted (Reading.asOption Reading.readThrough)]
    { uid := "", operation := .connect }

/-- One reason for a failure. -/
def asCause : Reading → Decoded Unit :=
  asShape [
    checked "reason" .defaulted Reading.asString,
    checked "message" .defaulted Reading.asString,
    checked "field" .defaulted Reading.asString]

/-- What a failure is about. -/
def asDetails : Reading → Decoded Unit :=
  asShape [
    checked "name" .defaulted Reading.asString,
    checked "group" .defaulted Reading.asString,
    checked "kind" .defaulted Reading.asString,
    checked "uid" .defaulted Reading.asString,
    checked "causes" .defaulted (Reading.asList asCause),
    checked "retryAfterSeconds" .defaulted Reading.asUInt32]

/-- How a request came out. -/
def asOutcome : Reading → Decoded Unit :=
  asShape [
    checked "status" .defaulted
      (Reading.asOption (Reading.asVariant [("Success", ()), ("Failure", ())])),
    checked "code" .defaulted Reading.asUInt16,
    checked "message" .defaulted Reading.asString,
    checked "reason" .defaulted Reading.asString,
    checked "details" .defaulted (Reading.asOption asDetails)]

/-- An answer that comes with the question. It is not looked at. -/
def asAnswer : Reading → Decoded Unit :=
  asShape [
    checked "uid" .required Reading.asString,
    checked "allowed" .required Reading.asBool,
    checked "status" .required asOutcome,
    checked "patch" .nullable (Reading.asOption (Reading.asList fun r => r.asInt 0 255)),
    checked "patchType" .nullable (Reading.asOption (Reading.asVariant [("JSONPatch", ())])),
    checked "auditAnnotations" .defaulted Reading.asTexts,
    checked "warnings" .nullable (Reading.asOption Reading.asStrings)]

/-- What was read of a review: its request, whether there was an answer, and all other members. -/
structure Parts (α : Type) where
  request : Option (Option (AdmissionRequest α)) := none
  answered : Bool := false
  others : List (Option String × Reading) := []

/-- Reads one member of a review. -/
def step (read : Reading → Decoded α) (parts : Parts α) (member : Option String × Reading) :
    Decoded (Parts α) := do
  match member with
  | (none, _) => throw .broken
  | (some "request", v) =>
    if parts.request.isSome then throw .mismatch
    return { parts with request := some (← v.asOption (asRequest read)) }
  | (some "response", v) =>
    if parts.answered then throw .mismatch
    let _ ← v.asOption asAnswer
    return { parts with answered := true }
  | (some k, v) =>
    v.readThrough
    return { parts with others := parts.others ++ [(some k, v)] }

/-- Reads a review about objects of some type. -/
def read (read : Reading → Decoded α) : Reading → Decoded (AdmissionReview α)
  | .obj members => do
    let parts ← members.foldlM (step read) {}
    Reading.asRecord [
      .of "apiVersion" .required Reading.asString fun v r => { r with apiVersion := v },
      .of "kind" .required Reading.asString fun v r => { r with kind := v }]
      { apiVersion := "", kind := "", request := parts.request.getD none } (.obj parts.others)
  | r => .error r.offKind

end AdmissionReview

/-! ## Answers -/

/-- The answer to a review. -/
structure AdmissionAnswer where
  apiVersion : String
  kind : String
  uid : String
  allowed : Bool := true
  status : List (String × Json) := []
  /-- The octets of a patch. -/
  patch : Option (List UInt8) := none
  warnings : Option (List String) := none

namespace AdmissionAnswer

/-- The answer that allows a request. -/
def allow {α : Type} (review : AdmissionReview α) (request : AdmissionRequest α) :
    AdmissionAnswer :=
  { apiVersion := review.apiVersion, kind := review.kind, uid := request.uid }

/-- The answer that denies a request. -/
def deny (answer : AdmissionAnswer) (message : String) : AdmissionAnswer :=
  { answer with allowed := false, status := [("message", .str message)] }

/-- The answer to a review without a request. -/
def withoutRequest : AdmissionAnswer :=
  { apiVersion := "admission.k8s.io/v1beta1"
    kind := "AdmissionReview"
    uid := ""
    allowed := false
    status := [("status", .str "Failure"),
      ("message", .str "failed to convert AdmissionReview into AdmissionRequest"),
      ("reason", .str "InvalidRequest")] }

/-- The answer with a patch of the object, the octets of its compact text. -/
def withPatch (answer : AdmissionAnswer) (patch : Patch) : AdmissionAnswer :=
  { answer with patch := some (Text.Utf8.encode patch.toJson.chars) }

/-- The review with the answer. -/
def toJson (a : AdmissionAnswer) : Json :=
  .obj [("apiVersion", .str a.apiVersion), ("kind", .str a.kind),
    ("response", .ofPresent [("uid", some (.str a.uid)), ("allowed", some (.bool a.allowed)),
      ("status", some (.obj a.status)),
      ("patch", a.patch.map fun octets => .arr (octets.map fun b => .num b.toNat)),
      ("patchType", a.patch.map fun _ => .str "JSONPatch"),
      ("warnings", a.warnings.map .ofStrings)])]

end AdmissionAnswer

end FeedOperator
