import FeedOperator.Aggregator.Basic
import FeedOperator.Url.Basic

/-!
# The URL of an article query

A query is written behind the URL of the service: keywords, first day, last day and sources, each
left out if it is empty. The values of a list are joined by commas, and every value is encoded by
itself, so that a comma between values is never one inside a value.

Model of `article_query_url`, `encode_list` and `encode_value` (specification 6 and 10.3).

* `ArticleQuery.params`: what is written.
* `ArticleQuery.url`: the URL, in which any other query is lost.
-/

namespace FeedOperator.ArticleQuery

open Text

/-- One parameter of a list of values, if there are any. -/
def listParam (name : String) (values : List String) : List (List Char) :=
  if values.isEmpty then []
  else [name.toList ++ '=' :: joined [','] (values.map Url.formEncode)]

/-- One parameter of a value, if there is one. -/
def valueParam (name : String) (value : Option String) : List (List Char) :=
  match value with
  | none => []
  | some v => if v.isEmpty then [] else [name.toList ++ '=' :: Url.formEncode v]

/-- The parameters of a query. -/
def params (q : ArticleQuery) : List (List Char) :=
  listParam "keywords" q.keywords ++ valueParam "date_start" q.dateStart ++
    valueParam "date_end" q.dateEnd ++ listParam "sources" q.sources

/-- The URL of a query to a service. -/
def url (base : Url) (q : ArticleQuery) : Url :=
  base.withQuery (if q.params.isEmpty then none else some (joined ['&'] q.params))

end FeedOperator.ArticleQuery
