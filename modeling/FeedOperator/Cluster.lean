import FeedOperator.Cluster.Agenda
import FeedOperator.Cluster.Platform
import FeedOperator.Reconcile.HotNews
import FeedOperator.Reconcile.Source

/-!
# Both controllers in a cluster

The two controllers run against the platform and the aggregation service while time passes.

Model of both `run` loops with `error_policy`, and of the watches of the HotNews controller
(specification 10.4).

* A change of a Source makes it due, and the HotNews that search it; a change of a HotNews makes it
  due; a change of the ConfigMap with the feed groups makes the HotNews due whose groups stand for
  something, or did so at the change before.
* A pass over an object says when the object is due again. An object that is due and gone is passed
  over.
* A pass is not interrupted, and what it changes is told of when it is done. The passes of one
  second all happen before the next one.
-/

namespace FeedOperator

/-- How the aggregation service behaves. -/
structure ServiceRules where
  /-- The ids of feeds by their short names, where they are not 1. -/
  ids : List (String × Int64) := []
  /-- The titles that every query finds. -/
  titles : List String := []
  /-- The requests that fail. -/
  down : List (ServiceMethod × ServiceError) := []

namespace ServiceRules

/-- The answer to a request that does not fail. -/
def result (rules : ServiceRules) (queryUrl : ArticleQuery → String) :
    (c : ServiceCall) → c.Result
  | .create spec => (rules.ids.lookup spec.shortName).getD 1
  | .update _ _ => ()
  | .delete _ => ()
  | .fetch query => ⟨queryUrl query, rules.titles.map fun title => { title := title }⟩

/-- The answer to a request. -/
def answer (rules : ServiceRules) (queryUrl : ArticleQuery → String) (c : ServiceCall) :
    c.Answer :=
  match rules.down.lookup c.method with
  | some e => .error e
  | none => .ok (rules.result queryUrl c)

end ServiceRules

/-- A cluster at some second. -/
structure Cluster where
  platform : Platform := {}
  rules : ServiceRules := {}
  /-- The URL of a query. -/
  queryUrl : ArticleQuery → String
  settings : Settings := {}
  /-- The time that conditions get. -/
  now : String
  runsSources : Bool := true
  runsHotNews : Bool := true
  dueSources : Agenda := {}
  dueHotNews : Agenda := {}
  /-- The feed groups at their last change. -/
  previousGroups : Option FeedGroups := none
  tracker : Tracker := {}
  /-- Seconds since the start. -/
  clock : Nat := 0
  /-- The requests to the service, last first. -/
  requests : List ServiceCall := []

namespace Cluster

/-! ## Changes -/

/-- An object of a type, if it is there. -/
def read? {α : Type} (c : Cluster) (k : Collection) (read : Reading → Decoded α)
    (key : ObjectKey) : Option α := do
  (Json.decode read (← (c.platform.catalog k).get? key)).toOption

/-- All HotNews. -/
def allHotNews (c : Cluster) : List HotNews :=
  c.platform.hotNews.toList.filterMap fun o => (o.decode HotNews.read).toOption

/-- The feed groups as they are stored now. -/
def currentGroups (c : Cluster) : Option FeedGroups :=
  let target := c.settings.feedGroup
  (c.read? .configMaps ConfigMap.read ⟨target.ns, target.name⟩).map (·.texts)

/-- Makes HotNews due. -/
def wakeHotNews (c : Cluster) (keys : List ObjectKey) : Cluster :=
  if c.runsHotNews then { c with dueHotNews := c.dueHotNews.noteAll keys c.clock } else c

/-- Makes Sources due. -/
def wakeSources (c : Cluster) (keys : List ObjectKey) : Cluster :=
  if c.runsSources then { c with dueSources := c.dueSources.noteAll keys c.clock } else c

/-- What a change of a Source makes due. -/
def tellSource (c : Cluster) (s : Source) (gone : Bool) : Cluster :=
  let c := c.wakeHotNews (affectedBySource s c.allHotNews c.currentGroups)
  if gone then c else c.wakeSources (ObjectKey.ofMeta? s.metadata).toList

/-- What a change of a HotNews makes due. -/
def tellHotNews (c : Cluster) (h : HotNews) (gone : Bool) : Cluster :=
  if gone then c else c.wakeHotNews (ObjectKey.ofMeta? h.metadata).toList

/-- What a change of a ConfigMap makes due. -/
def tellConfigMap (c : Cluster) (cm : ConfigMap) : Cluster :=
  let target := c.settings.feedGroup
  let c := c.wakeHotNews (affectedByFeedGroups cm target c.allHotNews c.previousGroups)
  { c with previousGroups := rememberedFeedGroups cm target c.previousGroups }

/-- What a change makes due. One of an object that does not decode makes nothing due. -/
def tell (c : Cluster) (change : Change) : Cluster :=
  match change.collection with
  | .sources => (change.object.decode Source.read).toOption.elim c (c.tellSource · change.gone)
  | .hotNews => (change.object.decode HotNews.read).toOption.elim c (c.tellHotNews · change.gone)
  | .configMaps => (change.object.decode ConfigMap.read).toOption.elim c c.tellConfigMap

/-- Tells of all changes. -/
def tellAll (c : Cluster) : Cluster :=
  c.platform.changes.foldl tell { c with platform := { c.platform with changes := [] } }

/-! ## Passes -/

/-- Answers every call, and writes down the requests to the service. -/
def environment : Pass.Environment Cluster := fun call c =>
  match call with
  | .store s =>
    let (answer, platform) := s.perform Platform.serve c.platform
    (answer, { c with platform := platform })
  | .service s => (c.rules.answer c.queryUrl s, { c with requests := s :: c.requests })

/-- Runs a pass with the tracker, and tells of what it changed. -/
def perform {ε : Type} (c : Cluster) (pass : Tracking ε Action) : Except ε Action × Cluster :=
  let ((outcome, tracker), c) := (pass.run c.tracker).run environment c
  (outcome, { c with tracker := tracker }.tellAll)

/-- Settles the outcome of a pass over an object: a failure is counted, and the answer says after
how many seconds the object is due again. -/
def settle {ε : Type} (c : Cluster) (m : Meta) (failure : ε → Failure)
    (outcome : Except ε Action) : Cluster × Option Nat :=
  let (tracker, action) := c.tracker.settle m.retryKey failure outcome
  let c := { c with tracker := tracker }
  match action with
  | .awaitChange => (c, none)
  | .requeue seconds => (c, some seconds)

/-- A pass over a Source. -/
def passSource (c : Cluster) (key : ObjectKey) : Cluster :=
  match c.read? .sources Source.read key with
  | none => c
  | some s =>
    let (outcome, c) := c.perform (Source.reconcile c.now s)
    match c.settle s.metadata SourceError.failure outcome with
    | (c, none) => c
    | (c, some seconds) => { c with dueSources := c.dueSources.note key (c.clock + seconds) }

/-- A pass over a HotNews. -/
def passHotNews (c : Cluster) (key : ObjectKey) : Cluster :=
  match c.read? .hotNews HotNews.read key with
  | none => c
  | some h =>
    let (outcome, c) := c.perform (HotNews.reconcile c.settings c.now h)
    match c.settle h.metadata HotNewsError.failure outcome with
    | (c, none) => c
    | (c, some seconds) => { c with dueHotNews := c.dueHotNews.note key (c.clock + seconds) }

/-- The next pass that is due, Sources first. -/
def step? (c : Cluster) : Option Cluster :=
  match c.dueSources.takeDue? c.clock with
  | some (key, agenda) => some ({ c with dueSources := agenda }.passSource key)
  | none =>
    match c.dueHotNews.takeDue? c.clock with
    | some (key, agenda) => some ({ c with dueHotNews := agenda }.passHotNews key)
    | none => none

/-! ## Time -/

/-- How many passes there are in one second at most. -/
def maxPassesPerSecond : Nat := 1000

/-- At most so many passes that are due. -/
def work : Nat → Cluster → Cluster
  | 0, c => c
  | passes + 1, c =>
    match c.step? with
    | some c => work passes c
    | none => c

/-- Lets seconds pass. -/
def advance : Nat → Cluster → Cluster
  | 0, c => c
  | seconds + 1, c =>
    let c := c.work maxPassesPerSecond
    advance seconds { c with clock := c.clock + 1 }

/-! ## Users -/

/-- A user changes the stored objects. -/
def edit (c : Cluster) (change : Platform → Platform) : Cluster :=
  tellAll { c with platform := change c.platform }

end Cluster

end FeedOperator
