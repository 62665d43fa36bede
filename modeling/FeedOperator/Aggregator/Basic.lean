import FeedOperator.Resource.Source
import FeedOperator.Text.Numeral

/-!
# The aggregation service

The service keeps a record of each feed and finds articles in them. It registers, updates and
deletes records by their ids, and answers a query with articles.

Model of `AggregatorClient`, `ClientError`, `Article`, `ArticleQuery` and `ArticleSummary`
(specification 6 and 10.3).

* `ServiceCall`: a request to the service, with the type of its answer.
* `ServiceError`: why a request came to nothing.
-/

namespace FeedOperator

/-- An article as the service knows it. -/
structure Article where
  id : Int64 := 0
  title : String
  description : String := ""
  link : String := ""
  source : String := ""
  pubDate : String := ""
  deriving DecidableEq

/-- What to search articles for. -/
structure ArticleQuery where
  keywords : List String := []
  dateStart : Option String := none
  dateEnd : Option String := none
  sources : List String := []
  deriving DecidableEq

/-- The articles that a query found. -/
structure ArticleSummary where
  /-- The URL of the query. -/
  requestUrl : String
  articles : List Article
  deriving DecidableEq

/-- Why a request to the service came to nothing. -/
inductive ServiceError where
  /-- The URL of the service does not do. -/
  | invalidUrl (detail : String)
  /-- The request was not answered. -/
  | transport (detail : String)
  /-- The service answered with another status than 200. -/
  | refused (status : Nat) (body : String)
  /-- The answer is not what was asked for. -/
  | undecodable (detail : String)
  deriving DecidableEq

/-- The error in words. -/
def ServiceError.message : ServiceError → String
  | .invalidUrl detail => "invalid service URL: " ++ detail
  | .transport detail => "HTTP request failed: " ++ detail
  | .refused status body =>
    "aggregation service returned " ++ String.ofList (Text.decimal status) ++ ": " ++ body
  | .undecodable detail => "failed to decode response: " ++ detail

/-- A request to the service. -/
inductive ServiceCall where
  | create (spec : SourceSpec)
  | update (id : Int64) (spec : SourceSpec)
  | delete (id : Int64)
  | fetch (query : ArticleQuery)
  deriving DecidableEq

/-- The kinds of requests to the service. -/
inductive ServiceMethod where
  | create
  | update
  | delete
  | fetch
  deriving DecidableEq

/-- The kind of a request. -/
def ServiceCall.method : ServiceCall → ServiceMethod
  | .create _ => .create
  | .update _ _ => .update
  | .delete _ => .delete
  | .fetch _ => .fetch

/-- What a request yields when it succeeds. -/
abbrev ServiceCall.Result : ServiceCall → Type
  | .create _ => Int64
  | .update _ _ => Unit
  | .delete _ => Unit
  | .fetch _ => ArticleSummary

/-- The answer to a request. -/
abbrev ServiceCall.Answer (c : ServiceCall) : Type :=
  Except ServiceError c.Result

end FeedOperator
