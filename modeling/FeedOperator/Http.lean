import FeedOperator.Http.Target
import FeedOperator.Json.Basic
import FeedOperator.Text.Utf8
import FeedOperator.Url.Parse

/-!
# Exchanges over HTTP

* `HttpRequest`, `HttpReply`: a request, and a response or none.
* `Exchange`: what a client does: it sends a request and goes on as the reply says.
* `HttpRequest.fetch`: sends a request and follows redirections, at most ten.

A redirection asks for the same thing at another place; where it does not say that the method is to
be kept, a POST becomes a GET without a body.
-/

namespace FeedOperator

/-- The methods that are used. -/
inductive HttpMethod where
  | get
  | post
  | put
  | delete
  deriving DecidableEq

/-- The name of a method. -/
def HttpMethod.text : HttpMethod → String
  | .get => "GET"
  | .post => "POST"
  | .put => "PUT"
  | .delete => "DELETE"

/-- A request, perhaps with a body that is JSON. -/
structure HttpRequest where
  method : HttpMethod
  url : Url
  body : Option Json := none

/-- A response. -/
structure HttpResponse where
  status : Nat
  /-- Where to look instead. -/
  location : Option String := none
  body : List UInt8 := []
  /-- Whether the body came to its end. -/
  whole : Bool := true

/-- What comes of a request: nothing if the connection breaks or the time runs out. -/
abbrev HttpReply := Option HttpResponse

/-- What a client does. -/
inductive Exchange (α : Type) where
  | done (result : α)
  | send (request : HttpRequest) (next : HttpReply → Exchange α)

namespace Exchange

variable {α β σ : Type}

/-- Goes on with another exchange. -/
def andThen (e : Exchange α) (f : α → Exchange β) : Exchange β :=
  match e with
  | .done a => f a
  | .send r next => .send r fun reply => (next reply).andThen f

instance : Monad Exchange where
  pure := .done
  bind := .andThen

/-- Runs an exchange with a server that replies from a state. -/
def run (serve : HttpRequest → σ → HttpReply × σ) : Exchange α → σ → α × σ
  | .done a, state => (a, state)
  | .send r next, state =>
    let (reply, state) := serve r state
    run serve (next reply) state

end Exchange

/-- How often a request is redirected at most. -/
def maxRedirections : Nat := 10

namespace HttpResponse

/-- The statuses of responses that have no body, whatever follows them. -/
def bodilessStatuses : List Nat := [101, 204, 304]

/-- The response that ends an exchange. An interim one is followed by another, and here by none; one
that goes over to another protocol is not interim. A status has three digits. -/
def final? (r : HttpResponse) : HttpReply :=
  if r.status ∈ bodilessStatuses then some { r with body := [], whole := true }
  else if r.status < 200 ∨ 999 < r.status then none
  else some r

/-- Whether a text can be the value of a header: it has no controls but the tab. -/
def isHeaderValue (value : String) : Bool :=
  value.toList.all fun c => c == '\t' || (' ' ≤ c && c != '\x7f')

/-- Whether a response asks to look elsewhere. -/
def isRedirection (r : HttpResponse) : Bool :=
  r.status ∈ [301, 302, 303, 307, 308]

/-- The text of a whole body. -/
def text? (r : HttpResponse) : Option String :=
  if r.whole then some (String.ofList (Text.Utf8.lossy r.body)) else none

end HttpResponse

namespace HttpRequest

/-- The request that a redirection asks for. -/
def redirected (r : HttpRequest) (status : Nat) (url : Url) : HttpRequest :=
  let toGet := status = 303 && r.method ≠ .get || (status = 301 || status = 302) && r.method = .post
  if toGet then { method := .get, url := url } else { r with url := url }

/-- Whether a URL can be the target of a request. -/
def isTarget (url : Url) : Bool :=
  (Target.parse? url.text.toList).isSome

/-- Where a response asks to look instead, if that can be asked for at all. -/
def redirection? (r : HttpRequest) (response : HttpResponse) : Option Url := do
  let location ← response.location
  let url ← (Url.parse (some r.url) location).toOption
  if response.isRedirection && isTarget url then some url else none

/-- Sends a request and follows at most so many redirections. Nothing comes of a URL that is not one
of HTTP. -/
def fetchWithin (r : HttpRequest) (redirections : Nat) : Exchange HttpReply :=
  if r.url.isHttp && isTarget r.url then
    .send r fun reply =>
      match reply.bind (·.final?) with
      | none => return none
      | some response =>
        match r.redirection? response with
        | none => return some response
        | some url =>
          match redirections with
          | 0 => return none
          | n + 1 => fetchWithin (r.redirected response.status url) n
  else return none
termination_by redirections

/-- Sends a request and follows redirections. -/
def fetch (r : HttpRequest) : Exchange HttpReply :=
  r.fetchWithin maxRedirections

end HttpRequest

end FeedOperator
