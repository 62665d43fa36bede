import FeedOperator.Pass
import FeedOperator.Store.Catalog

/-!
# A store in memory

The store of the platform, as far as passes depend on it.

Model of `FakeStore`, the store of the tests: `insert_source` and its kin, `replace_in`,
`replace_status_in`, `mark_source_deleted`, `mark_hotnews_deleted`, and the failures that it is told
to show (specification 10.11).

* Every object has a namespace, a UID and a version of its own, which changes with every write.
* A replace has to carry the stored version. It keeps the stored status, and removes the object if
  that is marked for deletion and has no finalizer left.
* A write of the status keeps everything else; without a version it is not checked.
* Some calls can be made to fail: replaces of Sources with a conflict, writes of a status, lists.

A write that is checked takes a version even if the check fails.
-/

namespace FeedOperator

/-- Objects of three types, and what goes wrong. -/
structure Store where
  sources : Catalog Source := {}
  hotNews : Catalog HotNews := {}
  configMaps : Catalog ConfigMap := {}
  /-- The last version that was given out. The counter has 64 bits; that it overflows is out of
  reach, so it has no bound here. -/
  version : Nat := 0
  /-- How many of the next replaces of Sources meet a conflict. -/
  sourceConflicts : Nat := 0
  /-- Whether no status can be written. -/
  failStatusWrites : Bool := false
  /-- Whether no list can be read. -/
  failLists : Bool := false

/-- The namespace of objects that name none. -/
def defaultNamespace : String := "default"

/-- The key under which an object with some metadata is stored. -/
def ObjectKey.ofMeta (m : Meta) : ObjectKey :=
  ⟨m.ns.getD defaultNamespace, m.name.getD ""⟩

namespace Store

/-- A failure that a server reports. -/
def failed (code : Nat) (message : String) : StoreError :=
  .refused { status := "Failure", message := message, reason := "", code := code }

/-- The time at which all deletions are requested. -/
def deletionTime : Instant := ⟨⟨2024, 1, 1⟩, 0, 0, 0⟩

/-- A version as it stands in metadata. -/
def versionText (n : Nat) : String := String.ofList (Text.decimal n)

/-- The store after the next version was given out, and the version. -/
def nextVersion (s : Store) : Store × String :=
  ({ s with version := s.version + 1 }, versionText (s.version + 1))

/-- The metadata with what every stored object has. -/
def stamp (version : String) (m : Meta) : Meta :=
  { m with
    ns := some (m.ns.getD defaultNamespace)
    uid := m.uid <|> m.name.map ("uid-" ++ ·)
    resourceVersion := some version }

/-! ## Insertion and deletion -/

/-- Stores a Source, whatever was there. -/
def insertSource (s : Store) (source : Source) : Store :=
  let (s, version) := s.nextVersion
  let source := { source with metadata := stamp version source.metadata }
  { s with sources := s.sources.insert (.ofMeta source.metadata) source }

/-- Stores a HotNews, whatever was there. -/
def insertHotNews (s : Store) (hotNews : HotNews) : Store :=
  let (s, version) := s.nextVersion
  let hotNews := { hotNews with metadata := stamp version hotNews.metadata }
  { s with hotNews := s.hotNews.insert (.ofMeta hotNews.metadata) hotNews }

/-- Stores a ConfigMap, whatever was there. -/
def insertConfigMap (s : Store) (cm : ConfigMap) : Store :=
  let (s, version) := s.nextVersion
  let cm := { cm with metadata := stamp version cm.metadata }
  { s with configMaps := s.configMaps.insert (.ofMeta cm.metadata) cm }

section Objects

variable {σ τ : Type}

/-- Marks an object for deletion. One without finalizers disappears at once. -/
def markDeleted (c : Catalog (Object σ τ)) (key : ObjectKey) : Catalog (Object σ τ) :=
  match c.get? key with
  | none => c
  | some o =>
    let metadata := { o.metadata with deletionTimestamp := some deletionTime }
    if metadata.isReleased then c.erase key else c.insert key { o with metadata := metadata }

/-- Replaces an object but for its status. -/
def replaceIn (c : Catalog (Object σ τ)) (version : String) (o : Object σ τ) :
    Except StoreError (Object σ τ) × Catalog (Object σ τ) :=
  let key := ObjectKey.ofMeta o.metadata
  match c.get? key with
  | none => (.error (failed 404 "not found"), c)
  | some stored =>
    if stored.metadata.resourceVersion ≠ o.metadata.resourceVersion then
      (.error (.conflict key.name), c)
    else
      let updated := { o with
        status := stored.status
        metadata := { o.metadata with resourceVersion := some version } }
      (.ok updated,
        if updated.metadata.isReleased then c.erase key else c.insert key updated)

/-- Replaces the status of an object. -/
def replaceStatusIn (c : Catalog (Object σ τ)) (version : String) (o : Object σ τ) :
    Except StoreError (Object σ τ) × Catalog (Object σ τ) :=
  let key := ObjectKey.ofMeta o.metadata
  match c.get? key with
  | none => (.error (failed 404 "not found"), c)
  | some stored =>
    let expected := o.metadata.resourceVersion
    if expected.isSome ∧ stored.metadata.resourceVersion ≠ expected then
      (.error (.conflict key.name), c)
    else
      let updated := { stored with
        status := o.status
        metadata := { stored.metadata with resourceVersion := some version } }
      (.ok updated, c.insert key updated)

end Objects

/-- Marks a Source for deletion. -/
def deleteSource (s : Store) (key : ObjectKey) : Store :=
  { s with sources := markDeleted s.sources key }

/-- Marks a HotNews for deletion. -/
def deleteHotNews (s : Store) (key : ObjectKey) : Store :=
  { s with hotNews := markDeleted s.hotNews key }

/-! ## Calls -/

/-- Replaces a Source, unless a conflict is due. -/
def replaceSource (s : Store) (source : Source) : Except StoreError Source × Store :=
  if s.sourceConflicts = 0 then
    let (s, version) := s.nextVersion
    let (answer, sources) := replaceIn s.sources version source
    (answer, { s with sources := sources })
  else
    (.error (.conflict (ObjectKey.ofMeta source.metadata).name),
      { s with sourceConflicts := s.sourceConflicts - 1 })

/-- Writes the status of a Source. -/
def replaceSourceStatus (s : Store) (source : Source) : Except StoreError Source × Store :=
  if s.failStatusWrites then (.error (failed 500 "status write failed"), s)
  else
    let (s, version) := s.nextVersion
    let (answer, sources) := replaceStatusIn s.sources version source
    (answer, { s with sources := sources })

/-- Replaces a HotNews. -/
def replaceHotNews (s : Store) (hotNews : HotNews) : Except StoreError HotNews × Store :=
  let (s, version) := s.nextVersion
  let (answer, catalog) := replaceIn s.hotNews version hotNews
  (answer, { s with hotNews := catalog })

/-- Writes the status of a HotNews. -/
def replaceHotNewsStatus (s : Store) (hotNews : HotNews) : Except StoreError HotNews × Store :=
  if s.failStatusWrites then (.error (failed 500 "status write failed"), s)
  else
    let (s, version) := s.nextVersion
    let (answer, catalog) := replaceStatusIn s.hotNews version hotNews
    (answer, { s with hotNews := catalog })

/-- Answers a call. -/
def answer (s : Store) : (c : StoreCall) → c.Answer × Store
  | .getSource ns name => (.ok (s.sources.get? ⟨ns, name⟩), s)
  | .listSources ns =>
    (if s.failLists then .error (failed 500 "list failed") else .ok (s.sources.inNamespace ns), s)
  | .replaceSource source => s.replaceSource source
  | .replaceSourceStatus source => s.replaceSourceStatus source
  | .getHotNews ns name => (.ok (s.hotNews.get? ⟨ns, name⟩), s)
  | .listHotNews ns =>
    (if s.failLists then .error (failed 500 "list failed")
      else .ok (match ns with
        | some ns => s.hotNews.inNamespace ns
        | none => s.hotNews.toList), s)
  | .replaceHotNews hotNews => s.replaceHotNews hotNews
  | .replaceHotNewsStatus hotNews => s.replaceHotNewsStatus hotNews
  | .getConfigMap ns name => (.ok (s.configMaps.get? ⟨ns, name⟩), s)

/-! ## Ageing -/

/-- The conditions with another time. -/
def ageConditions (time : String) (conditions : List Condition) : List Condition :=
  conditions.map fun c => { c with lastUpdateTime := time }

/-- The status with another time in its conditions. -/
def ageSourceStatus (time : String) (status : SourceStatus) : SourceStatus :=
  { status with conditions := ageConditions time status.conditions }

/-- The status with another time in its conditions. -/
def ageHotNewsStatus (time : String) (status : HotNewsStatus) : HotNewsStatus :=
  { status with conditions := ageConditions time status.conditions }

/-- Stores every object with a status again, with another time in its conditions: first the
Sources, then the HotNews, each in the order of their keys. -/
def age (s : Store) (time : String) : Store :=
  let s := (s.sources.toList.filter (·.status.isSome)).foldl
    (fun s o => s.insertSource { o with status := o.status.map (ageSourceStatus time) }) s
  (s.hotNews.toList.filter (·.status.isSome)).foldl
    (fun s o => s.insertHotNews { o with status := o.status.map (ageHotNewsStatus time) }) s

end Store

end FeedOperator
