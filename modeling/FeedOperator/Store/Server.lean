import FeedOperator.Http
import FeedOperator.Http.Reason
import FeedOperator.Http.Target
import FeedOperator.Resource.Decode
import FeedOperator.Store.Call

/-!
# The resource store as an API server

Objects are read with GET and replaced with PUT, under paths that name group, version, namespace,
collection and object. The server tells of a failure in a body of its own; its code, and not the
status of the response, says what has happened.

Model of `KubeStore` with `identity`, `found`, `written`, `replace` and `replace_status`
(specification 10.2).

* `StoreCall.request`: the request of a call, if it makes one.
* `StoreCall.interpret`: what a reply means. An object that is not found is absent to a read, and a
  replace that is refused with 409 is a conflict.
* `StoreCall.perform`: one call.
-/

namespace FeedOperator

/-- A request to the API server about one object, or about a collection if it names none. -/
structure ApiRequest where
  method : HttpMethod
  type : ResourceType
  /-- The namespace, or nothing for all of them. -/
  ns : Option String
  name : Option String := none
  /-- The part of the object that it is about, if it is not all of it. -/
  subresource : Option String := none
  body : Option Json := none

/-! ## Targets -/

/-- The path of the collection in one namespace or in all. -/
def ResourceType.collectionPath (t : ResourceType) (ns : Option String) : String :=
  let root := if t.group.isEmpty then "/api/" ++ t.version
    else "/apis/" ++ t.group ++ "/" ++ t.version
  root ++ ns.elim "" ("/namespaces/" ++ ·) ++ "/" ++ t.plural

namespace ApiRequest

/-- The path. -/
def path (r : ApiRequest) : String :=
  r.type.collectionPath r.ns ++ r.name.elim "" ("/" ++ ·) ++ r.subresource.elim "" ("/" ++ ·)

/-- Path and query, which is empty; a read of one object has none. A number sign in a name cuts the
target off. -/
def target? (r : ApiRequest) : Option String :=
  let query := if r.method = .get ∧ r.name.isSome then "" else "?"
  (Target.parse? (r.path ++ query).toList).map (·.text)

/-- The request if it can be sent: one object needs a name that is not empty, and the target may
not hold any character. -/
def checked (r : ApiRequest) : Except StoreError ApiRequest :=
  if r.name = some "" then
    .error (.invalidRequest "failed to build request: a resource name is required")
  else if r.target?.isNone then
    .error (.invalidRequest "failed to build request: invalid uri character")
  else .ok r

/-- Reads one object. -/
def get (type : ResourceType) (ns name : String) : Except StoreError ApiRequest :=
  checked { method := .get, type := type, ns := some ns, name := some name }

/-- Reads a collection. -/
def list (type : ResourceType) (ns : Option String) : Except StoreError ApiRequest :=
  checked { method := .get, type := type, ns := ns }

/-- Replaces an object, or a part of it, after making sure that it says where it is. -/
def replace (type : ResourceType) (subresource : Option String) (m : Meta) (body : Json) :
    Except StoreError ApiRequest := do
  let some name := m.name | throw (.missingField "metadata.name")
  let some ns := m.ns | throw (.missingField "metadata.namespace")
  checked {
    method := .put, type := type, ns := some ns, name := some name, subresource := subresource,
    body := some body }

end ApiRequest

/-- The part of an object that tells what was observed. -/
def statusPart : String := "status"

/-- The request of a call. -/
def StoreCall.request : StoreCall → Except StoreError ApiRequest
  | .getSource ns name => ApiRequest.get Source.type ns name
  | .listSources ns => ApiRequest.list Source.type (some ns)
  | .replaceSource s => ApiRequest.replace Source.type none s.metadata s.toJson
  | .replaceSourceStatus s => ApiRequest.replace Source.type (some statusPart) s.metadata s.toJson
  | .getHotNews ns name => ApiRequest.get HotNews.type ns name
  | .listHotNews ns => ApiRequest.list HotNews.type ns
  | .replaceHotNews h => ApiRequest.replace HotNews.type none h.metadata h.toJson
  | .replaceHotNewsStatus h => ApiRequest.replace HotNews.type (some statusPart) h.metadata h.toJson
  | .getConfigMap ns name => ApiRequest.get ConfigMap.type ns name

/-! ## Replies -/

namespace ApiReply

variable {α : Type}

/-- A failure in the words of the server. -/
def asFailure : Reading → Decoded ApiFailure :=
  Reading.asRecord [
    .of "status" .required Reading.asString fun v f => { f with status := v },
    .of "message" .defaulted Reading.asString fun v f => { f with message := v },
    .of "reason" .defaulted Reading.asString fun v f => { f with reason := v },
    .of "code" .required Reading.asUInt16 fun v f => { f with code := v.toNat }]
    ⟨"", "", "", 0⟩

/-- The failure that a response tells of: in its own words, or else with its body quoted. -/
def failure (status : Nat) (body : String) : ApiFailure :=
  match (Document.ofText body).decode asFailure with
  | .ok f => f
  | .error _ =>
    { status := statusLine status
      message := Text.Quoted.encode body
      reason := "Failed to parse error data"
      code := status }

/-- What a reply holds. -/
def value (read : Reading → Decoded α) : HttpReply → Except StoreError α
  | none => .error (.unreachable "connection lost")
  | some response =>
    match response.text? with
    | none => .error (.unreachable "connection lost")
    | some body =>
      if isFailureStatus response.status then .error (.refused (failure response.status body))
      else
        match (Document.ofText body).decode read with
        | .ok v => .ok v
        | .error _ => .error (.unreadable "the body does not decode")

/-- An object that was asked for: one that the server does not find is absent. -/
def found : Except StoreError α → Except StoreError (Option α)
  | .ok v => .ok (some v)
  | .error (.refused f) => if f.code = 404 then .ok none else .error (.refused f)
  | .error e => .error e

/-- An object that was replaced: a refusal because of the version is a conflict. -/
def written (m : Meta) : Except StoreError α → Except StoreError α
  | .ok v => .ok v
  | .error (.refused f) =>
    if f.code = 409 then .error (.conflict (m.name.getD "")) else .error (.refused f)
  | .error e => .error e

/-- What was read of a list: whether there was metadata, and the items. -/
structure Parts (α : Type) where
  described : Bool := false
  items : Option (List α) := none

/-- Reads one member of a list. -/
def listStep (read : Reading → Decoded α) (parts : Parts α)
    (member : Option String × Reading) : Decoded (Parts α) := do
  match member with
  | (none, _) => throw .broken
  | (some "metadata", v) =>
    if parts.described then throw .mismatch
    let _ ← Reading.asLooseRecord [
      .loose "continue" Reading.asString fun _ u => u,
      .loose "remainingItemCount" Reading.asInt64 fun _ u => u,
      .loose "resourceVersion" Reading.asString fun _ u => u,
      .loose "selfLink" Reading.asString fun _ u => u] () v
    return { parts with described := true }
  | (some "items", v) =>
    if parts.items.isSome then throw .mismatch
    return { parts with items := some ((← v.asOption (Reading.asList read)).getD []) }
  | (some _, v) =>
    v.readThrough
    return parts

/-- The items of a list, `null` being none. -/
def asItems (read : Reading → Decoded α) : Reading → Decoded (List α)
  | .obj members => do
    match (← members.foldlM (listStep read) {}).items with
    | some items => return items
    | none => throw .mismatch
  | r => .error r.offKind

end ApiReply

namespace StoreCall

/-- What a reply means. -/
def interpret : (c : StoreCall) → HttpReply → c.Answer
  | .getSource _ _, reply => ApiReply.found (ApiReply.value Source.read reply)
  | .listSources _, reply => ApiReply.value (ApiReply.asItems Source.read) reply
  | .replaceSource s, reply => ApiReply.written s.metadata (ApiReply.value Source.read reply)
  | .replaceSourceStatus s, reply => ApiReply.written s.metadata (ApiReply.value Source.read reply)
  | .getHotNews _ _, reply => ApiReply.found (ApiReply.value HotNews.read reply)
  | .listHotNews _, reply => ApiReply.value (ApiReply.asItems HotNews.read) reply
  | .replaceHotNews h, reply => ApiReply.written h.metadata (ApiReply.value HotNews.read reply)
  | .replaceHotNewsStatus h, reply =>
    ApiReply.written h.metadata (ApiReply.value HotNews.read reply)
  | .getConfigMap _ _, reply => ApiReply.found (ApiReply.value ConfigMap.read reply)

/-- One call to a server that replies from a state. -/
def perform {σ : Type} (serve : ApiRequest → σ → HttpReply × σ) (c : StoreCall) (state : σ) :
    c.Answer × σ :=
  match c.request with
  | .error e => (.error e, state)
  | .ok request =>
    let (reply, state) := serve request state
    (c.interpret reply, state)

end StoreCall

end FeedOperator
