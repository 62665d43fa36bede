import FeedOperator.Aggregator.Query
import FeedOperator.Http
import FeedOperator.Resource.Decode

/-!
# The aggregation service over HTTP

Records are created with POST at one URL, and updated and deleted with PUT and DELETE at that URL
and the id; articles are fetched with GET from another URL. Any status but 200 is a failure, but a
record that is not there to be deleted is as good as deleted.

Model of `HttpAggregatorClient`: `new`, `source_item_url`, `ensure_ok` and its four calls
(specification 10.3).

* `ServiceUrls.parse`: the two URLs, which have to be absolute.
* `ServiceUrls.perform`: one request to the service.
-/

namespace FeedOperator

/-- Where the service is. -/
structure ServiceUrls where
  sources : Url
  articles : Url

namespace ServiceUrls

/-- Reads one of the URLs. -/
def parseOne (text : String) : Except ServiceError Url :=
  (Url.parse none text).mapError fun e => .invalidUrl (text ++ ": " ++ e.message)

/-- Reads the two URLs. -/
def parse (sources articles : String) : Except ServiceError ServiceUrls := do
  return ⟨← parseOne sources, ← parseOne articles⟩

/-- The URL of a record. -/
def item (urls : ServiceUrls) (id : Int64) : Except ServiceError Url :=
  match urls.sources.child? (Text.signedDecimal id.toInt) with
  | some url => .ok url
  | none => .error (.invalidUrl urls.sources.text)

/-- Sends a request; without a reply it failed. -/
def send (method : HttpMethod) (url : Url) (body : Option Json) :
    ExceptT ServiceError Exchange HttpResponse :=
  ExceptT.mk do
    match ← (HttpRequest.mk method url body).fetch with
    | some response => return .ok response
    | none => return .error (.transport "error sending request")

/-- Makes sure that a response is a success. -/
def ensureOk (response : HttpResponse) : Except ServiceError HttpResponse :=
  if response.status = 200 then .ok response
  else .error (.refused response.status (response.text?.getD "<failed to read body>"))

/-- Decodes the body of a response. -/
def decodeBody {α : Type} (what : String) (read : Reading → Decoded α) (response : HttpResponse) :
    Except ServiceError α :=
  match response.whole, (Document.ofOctets response.body).decode read with
  | true, .ok value => .ok value
  | _, _ => .error (.undecodable (what ++ " response: error decoding response body"))

/-- The id in a new record. -/
def asCreated : Reading → Decoded Int64 :=
  Reading.asRecord [.of "id" .required Reading.asInt64 fun v _ => v] 0

/-- One request to the service. -/
def perform (urls : ServiceUrls) : (c : ServiceCall) → ExceptT ServiceError Exchange c.Result
  | .create spec => do
    let response ← send .post urls.sources (some spec.toJson)
    decodeBody "create" asCreated (← ensureOk response)
  | .update id spec => do
    let response ← send .put (← urls.item id) (some spec.toJson)
    let _ ← ensureOk response
  | .delete id => do
    let response ← send .delete (← urls.item id) none
    if response.status ≠ 404 then
      let _ ← ensureOk response
  | .fetch query => do
    let url := query.url urls.articles
    let response ← send .get url none
    return ⟨url.text, ← decodeBody "articles" (Reading.asList Article.read) (← ensureOk response)⟩

end ServiceUrls

end FeedOperator
