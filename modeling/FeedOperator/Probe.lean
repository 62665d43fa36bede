import FeedOperator.Http.Target

/-!
# Probes

The platform asks whether the operator lives and whether it is ready. It lives as long as it
answers; it is ready once its controllers were started, and stays so.

Model of `HealthState`, `health_router`, `healthz` and `readyz` (specification 10.9).

* `Health.markStarted`: the controllers were started.
* `Health.probe`: the status that a request is answered with.
-/

namespace FeedOperator

/-- What the operator knows of its own health. -/
structure Health where
  started : Bool := false
  deriving DecidableEq

namespace Health

/-- The controllers were started. -/
def markStarted (h : Health) : Health :=
  { h with started := true }

/-- The status for a path, if something is there. -/
def statusAt? (h : Health) (path : String) : Option Nat :=
  if path = "/healthz" then some 200
  else if path = "/readyz" then some (if h.started then 200 else 503)
  else none

/-- Whether a character may stand in the name of a method. -/
def isMethodChar (c : Char) : Bool :=
  Text.isLetter c || Text.isDigit c ||
    c ∈ ['!', '#', '$', '%', '&', '\x27', '*', '+', '-', '.', '^', '_', '\x60', '|', '~']

/-- Whether a text can be the first line of a request together with others of its kind: it is not
empty, and no blank or control is in it. -/
def isPart (s : String) : Bool :=
  !s.isEmpty && s.toList.all fun c => ' ' < c && c != '\x7f'

/-- The status that a request is answered with. A request that cannot be read is a bad one; a path
where nothing is, is not found, and only GET and HEAD are allowed elsewhere. -/
def probe (h : Health) (method target : String) : Nat :=
  if !isPart method || !method.toList.all isMethodChar || !isPart target then 400
  else if Target.isTooLong target.toList then 414
  else
    match Target.parse? target.toList with
    | none => 400
    | some t =>
      match h.statusAt? (String.ofList t.path) with
      | none => 404
      | some status => if method = "GET" ∨ method = "HEAD" then status else 405

theorem markStarted_markStarted (h : Health) : h.markStarted.markStarted = h.markStarted := rfl

end Health

end FeedOperator
