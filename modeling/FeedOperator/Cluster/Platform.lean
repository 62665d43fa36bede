import FeedOperator.Store.Catalog
import FeedOperator.Store.Server

/-!
# The platform in memory

The API server of a cluster, with the changes that it tells of. It stores objects as JSON, and knows
no more of them than metadata and the name of the status.

* A write takes effect if it changes more than the version, and only then is there a change to tell
  of.
* A replace has to carry the stored version. A replace of an object keeps its stored status, and a
  replace of the status keeps everything else.
* A user who puts an object gives its spec. Of an object that is there already, finalizers, owners,
  the mark of deletion and the status stay.
* An object that is marked for deletion goes with the next write that leaves it without finalizers.
* The server refuses the requests that it is told to refuse.
-/

namespace FeedOperator

/-- The collections of objects. -/
inductive Collection where
  | sources
  | hotNews
  | configMaps
  deriving DecidableEq

namespace Collection

/-- The type of the objects. -/
def type : Collection → ResourceType
  | .sources => Source.type
  | .hotNews => HotNews.type
  | .configMaps => ConfigMap.type

/-- All collections. -/
def all : List Collection := [.sources, .hotNews, .configMaps]

/-- The collection of a type. -/
def ofType? (t : ResourceType) : Option Collection :=
  all.find? (·.type.plural == t.plural)

end Collection

/-- A stored object has changed, or is gone. -/
structure Change where
  collection : Collection
  object : Json
  gone : Bool

/-- Requests that the server refuses: those about any object, or about one of a name. -/
structure Rejection where
  method : HttpMethod
  plural : String
  subresource : Option String := none
  name : Option String := none
  code : Nat

/-- Whether a request is refused. -/
def Rejection.covers (x : Rejection) (r : ApiRequest) : Bool :=
  decide (x.method = r.method) && x.plural == r.type.plural && x.subresource == r.subresource &&
    (x.name.isNone || x.name == r.name)

/-! ## Objects -/

namespace StoredObject

/-- The metadata. -/
def metadata (o : Json) : Json :=
  (o.get? "metadata").getD (.obj [])

/-- A member of the metadata that is set. -/
def metaField? (name : String) (o : Json) : Option Json :=
  match (metadata o).get? name with
  | some .null => none
  | value => value

/-- A member of the metadata that is a text. -/
def metaText? (name : String) (o : Json) : Option String :=
  match metaField? name o with
  | some (.str s) => some s
  | _ => none

/-- The object with a member of its metadata, or without it. -/
def withMetaField (name : String) (value : Option Json) (o : Json) : Json :=
  o.withMember "metadata" (some ((metadata o).withMember name value))

/-- The object with a version. -/
def atVersion (version : Nat) (o : Json) : Json :=
  withMetaField "resourceVersion" (some (.str (String.ofList (Text.decimal version)))) o

/-- The key of an object. -/
def key (o : Json) : ObjectKey :=
  ⟨(metaText? "namespace" o).getD "default", (metaText? "name" o).getD ""⟩

/-- Whether the object is to go: deletion was requested and no finalizer is left. -/
def isReleased (o : Json) : Bool :=
  (metaField? "deletionTimestamp" o).isSome &&
    match metaField? "finalizers" o with
    | some (.arr (_ :: _)) => false
    | _ => true

/-- The second object with the status of the first. -/
def keepStatus (old new : Json) : Json :=
  new.withMember statusPart (old.get? statusPart)

/-- The second object with those parts of the metadata of the first that users do not give. -/
def keepMarks (old new : Json) : Json :=
  ["finalizers", "ownerReferences", "deletionTimestamp"].foldl
    (fun o name => withMetaField name (metaField? name old) o) new

end StoredObject

open StoredObject

/-- The stored objects. -/
structure Platform where
  sources : Catalog Json := {}
  hotNews : Catalog Json := {}
  configMaps : Catalog Json := {}
  /-- The last version that was given out. -/
  version : Nat := 0
  rejections : List Rejection := []
  /-- The changes that were not yet told of, in order. -/
  changes : List Change := []

namespace Platform

/-- The objects of a collection. -/
def catalog (p : Platform) : Collection → Catalog Json
  | .sources => p.sources
  | .hotNews => p.hotNews
  | .configMaps => p.configMaps

/-- Other objects of a collection. -/
def withCatalog (p : Platform) (k : Collection) (c : Catalog Json) : Platform :=
  match k with
  | .sources => { p with sources := c }
  | .hotNews => { p with hotNews := c }
  | .configMaps => { p with configMaps := c }

/-- Writes an object, and gives what is stored then or was stored last. -/
def write (p : Platform) (k : Collection) (o : Json) : Json × Platform :=
  let version := p.version + 1
  let new := atVersion version o
  let told := fun (c : Catalog Json) (gone : Bool) =>
    { p.withCatalog k c with version := version, changes := p.changes ++ [⟨k, new, gone⟩] }
  match (p.catalog k).get? (key o) with
  | none => (new, told ((p.catalog k).insert (key o) new) false)
  | some old =>
    if isReleased new then (new, told ((p.catalog k).erase (key o)) true)
    else if (atVersion version old).same new then (old, p)
    else (new, told ((p.catalog k).insert (key o) new) false)

/-! ## Users -/

/-- A user puts an object. -/
def put (p : Platform) (k : Collection) (o : Json) : Platform :=
  let o := withMetaField "namespace" (some (.str (key o).ns)) o
  let o := withMetaField "uid" ((metaText? "name" o).map fun name => .str ("uid-" ++ name)) o
  match (p.catalog k).get? (key o) with
  | none => (p.write k o).2
  | some old => (p.write k (keepStatus old (keepMarks old o))).2

/-- When all deletions are requested. -/
def deletionTime : String := "2024-01-01T00:00:00Z"

/-- A user deletes an object. -/
def delete (p : Platform) (k : Collection) (target : ObjectKey) : Platform :=
  match (p.catalog k).get? target with
  | none => p
  | some old => (p.write k (withMetaField "deletionTimestamp" (some (.str deletionTime)) old)).2

/-! ## Requests -/

/-- A reply with a body. -/
def reply (status : Nat) (body : Json) : HttpReply :=
  some { status := status, body := Text.Utf8.encode body.chars }

/-- A refusal. -/
def refuse (code : Nat) (message : String) : HttpReply :=
  reply code (.obj [("status", .str "Failure"), ("message", .str message), ("reason", .str ""),
    ("code", .num code)])

/-- Reads a collection. -/
def list (p : Platform) (k : Collection) (ns : Option String) : HttpReply :=
  let items := match ns with
    | some ns => (p.catalog k).inNamespace ns
    | none => (p.catalog k).toList
  reply 200 (.obj [("metadata", .obj []), ("items", .arr items)])

/-- Replaces an object, or its status alone. -/
def replace (p : Platform) (k : Collection) (old : Json) (subresource : Option String)
    (o : Json) : HttpReply × Platform :=
  if metaText? "resourceVersion" old ≠ metaText? "resourceVersion" o then
    (refuse 409 "the object has been modified", p)
  else
    let new := if subresource.isSome then keepStatus o old else keepStatus old o
    let (stored, p) := p.write k new
    (reply 200 stored, p)

/-- Serves a request. -/
def serve (r : ApiRequest) (p : Platform) : HttpReply × Platform :=
  match p.rejections.find? (·.covers r), Collection.ofType? r.type with
  | some x, _ => (refuse x.code "rejected", p)
  | none, none => (refuse 404 "not found", p)
  | none, some k =>
    match r.name with
    | none => (p.list k r.ns, p)
    | some name =>
      match (p.catalog k).get? ⟨r.ns.getD "", name⟩, r.body with
      | none, _ => (refuse 404 "not found", p)
      | some old, none => (reply 200 old, p)
      | some old, some o => p.replace k old r.subresource o

end Platform

end FeedOperator
