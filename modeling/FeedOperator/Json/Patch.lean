import FeedOperator.Json.Basic

/-!
# JSON patches

A patch changes a JSON value by a list of operations, each at a place that a path of names and
positions leads to. Adding puts a value at a place, removing takes it away, and replacing does both
and needs something to be there.

Computed by `mutate`.

* `Patch.applyTo?`: the value after all operations, if every path leads somewhere.
* `Patch.between`: a patch that makes one value into another.
* `Patch.toJson`: the form in which a patch is sent.
-/

namespace FeedOperator

/-- One operation of a patch. -/
inductive PatchOp where
  | add (path : List String) (value : Json)
  | remove (path : List String)
  | replace (path : List String) (value : Json)

/-- Operations in the order in which they are done. -/
abbrev Patch := List PatchOp

namespace Patch

/-! ## Application -/

/-- The position that a step of a path means in a list of some length. -/
def position? (length : Nat) (step : String) : Option Nat :=
  let digits := step.toList
  if digits.isEmpty || digits.any (!Text.isDigit ·) ||
      (1 < digits.length && digits.head? == some '0') then none
  else
    let n := Text.ofDigits 10 digits
    if n < length then some n else none

/-- What to do at the end of a path. -/
inductive Change where
  | add (value : Json)
  | remove
  | replace (value : Json)

/-- Changes a member of an object or an item of a list. -/
def changeAt? (c : Change) (step : String) : Json → Option Json
  | .obj members =>
    let there := (members.lookup step).isSome
    match c with
    | .add v => some (.obj (Json.putMember step v members))
    | .remove => if there then some (.obj (members.filter (·.1 != step))) else none
    | .replace v => if there then some (.obj (Json.putMember step v members)) else none
  | .arr items =>
    match c with
    | .add v =>
      if step = "-" then some (.arr (items ++ [v]))
      else (position? (items.length + 1) step).map fun i => .arr (items.insertIdx i v)
    | .remove => (position? items.length step).map fun i => .arr (items.eraseIdx i)
    | .replace v => (position? items.length step).map fun i => .arr (items.set i v)
  | _ => none

/-- Changes a value at a place within it. -/
def change? (c : Change) : List String → Json → Option Json
  | [], _ =>
    match c with
    | .add w => some w
    | .remove => none
    | .replace w => some w
  | [step], v => changeAt? c step v
  | step :: path, .obj members => do
    let inner ← members.lookup step
    return .obj (Json.putMember step (← change? c path inner) members)
  | step :: path, .arr items => do
    let i ← position? items.length step
    let inner ← items[i]?
    return .arr (items.set i (← change? c path inner))
  | _, _ => none

/-- The value after one operation. -/
def applyOp? (v : Json) : PatchOp → Option Json
  | .add path w => change? (.add w) path v
  | .remove path => change? .remove path v
  | .replace path w => change? (.replace w) path v

/-- The value after all operations. -/
def applyTo? (patch : Patch) (v : Json) : Option Json :=
  patch.foldlM applyOp? v

/-! ## Difference -/

mutual

/-- The operations at a place that make the first value into the second. -/
def betweenAt (path : List String) : Json → Json → Patch
  | .obj old, .obj new =>
    memberChanges path new old ++
      (new.filter fun (k, _) => (old.lookup k).isNone).map fun (k, v) => .add (path ++ [k]) v
  | .arr old, .arr new => itemChanges path 0 new old
  | old, new => if old.same new then [] else [.replace path new]

/-- The operations for the members that were there. -/
def memberChanges (path : List String) (new : List (String × Json)) :
    List (String × Json) → Patch
  | [] => []
  | (k, v) :: old =>
    (match new.lookup k with
      | some w => betweenAt (path ++ [k]) v w
      | none => [.remove (path ++ [k])]) ++ memberChanges path new old

/-- The operations for the items from a position on: those that are too many go from there. -/
def itemChanges (path : List String) (i : Nat) (new : List Json) : List Json → Patch
  | [] => new.map fun w => .add (path ++ ["-"]) w
  | v :: old =>
    match new with
    | w :: new =>
      betweenAt (path ++ [String.ofList (Text.decimal i)]) v w ++ itemChanges path (i + 1) new old
    | [] => .remove (path ++ [String.ofList (Text.decimal i)]) :: itemChanges path i [] old

end

/-- A patch that makes one value into another. -/
def between (old new : Json) : Patch :=
  betweenAt [] old new

/-! ## Form -/

/-- The text of a path: a slash before each step, and a tilde before what stands for a tilde or a
slash. -/
def pathText (path : List String) : String :=
  String.ofList <| path.flatMap fun step =>
    '/' :: step.toList.flatMap fun c =>
      if c = '~' then ['~', '0'] else if c = '/' then ['~', '1'] else [c]

/-- An operation as it is sent. -/
def opToJson : PatchOp → Json
  | .add path v => .obj [("op", .str "add"), ("path", .str (pathText path)), ("value", v)]
  | .remove path => .obj [("op", .str "remove"), ("path", .str (pathText path))]
  | .replace path v => .obj [("op", .str "replace"), ("path", .str (pathText path)), ("value", v)]

/-- A patch as it is sent. -/
def toJson (patch : Patch) : Json :=
  .arr (patch.map opToJson)

end Patch

end FeedOperator
