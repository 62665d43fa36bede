import FeedOperator.Reconcile.HotNews
import FeedOperator.Reconcile.Source
import FeedOperator.Store

/-!
# Rehearsals

A rehearsal runs passes against a store in memory and a scripted aggregation service, with failures
where the script wants them, and keeps a journal of the calls.

* `StoreScript`: what happens at the next calls of each method of the store.
* `ServiceScript`: how the service answers the next calls of each kind. Where the script ends, it
  gives the id 1, agrees to everything and finds nothing.
* `Rehearsal.environment`: writes each call to the journal, looks it up in the script, and turns to
  the store.
-/

namespace FeedOperator

/-- The methods of the store. -/
inductive StoreMethod where
  | getSource
  | listSources
  | replaceSource
  | replaceSourceStatus
  | getHotNews
  | listHotNews
  | replaceHotNews
  | replaceHotNewsStatus
  | getConfigMap
  deriving DecidableEq

/-- The method of a call. -/
def StoreCall.method : StoreCall → StoreMethod
  | .getSource _ _ => .getSource
  | .listSources _ => .listSources
  | .replaceSource _ => .replaceSource
  | .replaceSourceStatus _ => .replaceSourceStatus
  | .getHotNews _ _ => .getHotNews
  | .listHotNews _ => .listHotNews
  | .replaceHotNews _ => .replaceHotNews
  | .replaceHotNewsStatus _ => .replaceHotNewsStatus
  | .getConfigMap _ _ => .getConfigMap

/-- Stores an object, whatever was there. -/
def Store.insert (s : Store) : Resource → Store
  | .source o => s.insertSource o
  | .hotNews o => s.insertHotNews o
  | .configMap o => s.insertConfigMap o

/-- What happens at a call to the store. -/
inductive StoreEvent where
  /-- Nothing out of the ordinary. -/
  | ordinary
  /-- Someone else stores an object first. -/
  | interference (o : Resource)
  /-- A read of one object finds none. -/
  | absence
  /-- The call fails. -/
  | failure (e : StoreError)

/-- What happens at the next calls of each method. -/
abbrev StoreScript := List (StoreMethod × StoreEvent)

/-- How the service answers a request. -/
inductive ServiceReply where
  /-- As it does without a script. -/
  | usual
  | failure (e : ServiceError)
  /-- A record is registered under an id. -/
  | registered (id : Int64)
  /-- Articles are found, perhaps under a URL of their own. -/
  | found (titles : List String) (url : Option String)

/-- How the service answers the next requests of each kind. -/
abbrev ServiceScript := List (ServiceMethod × ServiceReply)

/-- A store, a script, and what has happened. -/
structure Rehearsal where
  store : Store := {}
  storeScript : StoreScript := []
  serviceScript : ServiceScript := []
  /-- The URL of a query, where the script gives none. -/
  queryUrl : ArticleQuery → String
  tracker : Tracker := {}
  /-- The calls of the present step, last first. -/
  journal : List Call := []

namespace Rehearsal

/-- Takes the first entry of a kind. -/
def take? {κ α : Type} [DecidableEq κ] (kind : κ) : List (κ × α) → Option (α × List (κ × α))
  | [] => none
  | (k, a) :: rest =>
    if k = kind then some (a, rest)
    else (take? kind rest).map fun (a', rest) => (a', (k, a) :: rest)

/-- The answer of a read that finds nothing, if it is a read of one object. -/
def absent? : (c : StoreCall) → Option c.Answer
  | .getSource _ _ => some (.ok none)
  | .getHotNews _ _ => some (.ok none)
  | .getConfigMap _ _ => some (.ok none)
  | _ => none

/-- Answers a call to the store from the script and then the store. -/
def answerStore (r : Rehearsal) (c : StoreCall) : c.Answer × Rehearsal :=
  let ordinary := fun (r : Rehearsal) =>
    let (answer, store) := r.store.answer c
    (answer, { r with store := store })
  match take? c.method r.storeScript with
  | none => ordinary r
  | some (event, script) =>
    let r := { r with storeScript := script }
    match event with
    | .ordinary => ordinary r
    | .interference o => ordinary { r with store := r.store.insert o }
    | .absence =>
      match absent? c with
      | some answer => (answer, r)
      | none => ordinary r
    | .failure e => (.error e, r)

/-- What the service answers to a request. -/
def reply (queryUrl : ArticleQuery → String) (r : ServiceReply) : (c : ServiceCall) → c.Answer
  | .create _ =>
    match r with
    | .failure e => .error e
    | .registered id => .ok id
    | _ => .ok 1
  | .update _ _ =>
    match r with
    | .failure e => .error e
    | _ => .ok ()
  | .delete _ =>
    match r with
    | .failure e => .error e
    | _ => .ok ()
  | .fetch query =>
    match r with
    | .failure e => .error e
    | .found titles url =>
      .ok ⟨url.getD (queryUrl query), titles.map fun title => { title := title }⟩
    | _ => .ok ⟨queryUrl query, []⟩

/-- Answers a request to the service from the script. -/
def answerService (r : Rehearsal) (c : ServiceCall) : c.Answer × Rehearsal :=
  match take? c.method r.serviceScript with
  | none => (reply r.queryUrl .usual c, r)
  | some (entry, script) => (reply r.queryUrl entry c, { r with serviceScript := script })

/-- Answers every call and writes it to the journal. -/
def environment : Pass.Environment Rehearsal := fun call r =>
  let r := { r with journal := call :: r.journal }
  match call with
  | .store c => r.answerStore c
  | .service c => r.answerService c

/-- Runs a pass. -/
def perform {α : Type} (r : Rehearsal) (p : Pass α) : α × Rehearsal :=
  p.run environment r

end Rehearsal

end FeedOperator
