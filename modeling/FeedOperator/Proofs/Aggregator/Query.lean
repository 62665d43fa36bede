import FeedOperator.Aggregator.Query
import FeedOperator.Proofs.Url.Query

/-!
# The URL of an article query loses nothing

The service gets a query as the URL of a request. Here that URL is read back, in the way any service
does it: the query of the URL is cut at ampersands, each part at its first equals sign, the value
of a list at commas, and every piece is read as a form.

* `parameter`, `parameters`: the names and values of a query.
* `ofQuery`: the article query behind the query of a URL. A list that is left out is empty.
* `tidy`: an article query without empty days. A day that is empty is as good as none.

Results:
* `parameters_url`: the parameters that were written are the ones that are read.
* `url_loses_nothing`: what is read is the article query, so that two URLs are the same only if
  their queries are; the rest of the URL of the service stays, and a query in it does not matter.
-/

namespace FeedOperator.ArticleQuery

open Text Url

/-! ## Reading -/

/-- A name and a value: what stands before the first equals sign, and after it. -/
def parameter (s : List Char) : List Char × List Char :=
  (s.takeWhile (· ≠ '='), (s.dropWhile (· ≠ '=')).drop 1)

/-- The names and values of the query of a URL. -/
def parameters (query : Option (List Char)) : List (List Char × List Char) :=
  match query with
  | none => []
  | some q => (pieces '&' q).map parameter

/-- The values behind a list in a query. One that is left out is empty. -/
def listed : Option (List Char) → List String
  | none => []
  | some s => (pieces ',' s).map formDecode

/-- The article query behind the query of a URL. -/
def ofQuery (query : Option (List Char)) : ArticleQuery :=
  let value (name : String) := (parameters query).lookup name.toList
  { keywords := listed (value "keywords"), sources := listed (value "sources")
    dateStart := (value "date_start").map formDecode
    dateEnd := (value "date_end").map formDecode }

/-- A query with none in the place of an empty day. -/
def tidy (q : ArticleQuery) : ArticleQuery :=
  { q with
    dateStart := q.dateStart.filter (!·.isEmpty), dateEnd := q.dateEnd.filter (!·.isEmpty) }

/-! ## What is written -/

variable {q : ArticleQuery} {name : String} {values : List String} {value : Option String}

/-- An empty day is left out like one that is not there. -/
theorem params_tidy (q : ArticleQuery) : q.tidy.params = q.params := by
  have day (name : String) (value : Option String) :
      valueParam name (value.filter (!·.isEmpty)) = valueParam name value := by
    obtain _ | v := value
    · rfl
    · by_cases empty : v.isEmpty = true <;> simp [valueParam, Option.filter, empty]
  simp only [params, tidy, day]

theorem parameter_append {name : List Char} (plain : '=' ∉ name) (value : List Char) :
    parameter (name ++ '=' :: value) = (name, value) := by
  have keeps : ∀ c ∈ name, decide (c ≠ '=') = true :=
    fun c mem => decide_eq_true fun e => plain (e ▸ mem)
  simp only [parameter, List.takeWhile_append_of_pos keeps, List.dropWhile_append_of_pos keeps]
  simp

/-- How a parameter is written: a plain name, and a value of the characters of forms and commas. -/
structure Written (part name value : List Char) : Prop where
  eq : part = name ++ '=' :: value
  name_plain : name.all isFormPlain = true
  value_form : ∀ c ∈ value, isFormChar c = true ∨ c = ','

theorem Written.isQueryChar {part name value : List Char} (w : Written part name value) {c : Char}
    (mem : c ∈ part) : isQueryChar c = true ∧ c ≠ '&' := by
  rw [w.eq, List.mem_append, List.mem_cons] at mem
  have form (h : isFormChar c = true) : Url.isQueryChar c = true ∧ c ≠ '&' :=
    ⟨by simp only [Url.isQueryChar, h, Bool.true_or], fun e => absurd (e ▸ h) (by decide)⟩
  obtain inName | rfl | inValue := mem
  · have plain : isFormPlain c = true := List.all_eq_true.1 w.name_plain c inName
    exact form (by simp only [isFormChar, plain, Bool.true_or])
  · decide
  · obtain isForm | rfl := w.value_form c inValue
    · exact form isForm
    · decide

theorem written_of_mem_listParam {part : List Char}
    (plain : name.toList.all isFormPlain = true) (h : part ∈ listParam name values) :
    ∃ value, Written part name.toList value := by
  unfold listParam at h
  split at h
  · cases h
  · refine ⟨_, List.mem_singleton.1 h, plain, fun c mem => ?_⟩
    obtain comma | ⟨p, inList, inside⟩ := mem_joined mem
    · exact .inr (List.mem_singleton.1 comma)
    · obtain ⟨v, -, rfl⟩ := List.mem_map.1 inList
      exact .inl (isFormChar_of_mem inside)

theorem written_of_mem_valueParam {part : List Char}
    (plain : name.toList.all isFormPlain = true) (h : part ∈ valueParam name value) :
    ∃ value, Written part name.toList value := by
  unfold valueParam at h
  split at h
  · cases h
  · split at h
    · cases h
    · exact ⟨_, List.mem_singleton.1 h, plain, fun c mem => .inl (isFormChar_of_mem mem)⟩

theorem written_of_mem_params {part : List Char} (h : part ∈ q.params) :
    ∃ name value, Written part name value := by
  simp only [params, List.mem_append] at h
  obtain ((keywords | start) | finish) | sources := h
  · exact ⟨_, written_of_mem_listParam (by decide) keywords⟩
  · exact ⟨_, written_of_mem_valueParam (by decide) start⟩
  · exact ⟨_, written_of_mem_valueParam (by decide) finish⟩
  · exact ⟨_, written_of_mem_listParam (by decide) sources⟩

/-! ## What is read -/

/-- The query as it stands in the URL: the parameters with ampersands between them, and nothing of
it written in another way. -/
theorem url_eq {base : Url} {names : List (List Char)} (segments : base.path = .segments names) :
    q.url base = { base with
      query := if q.params.isEmpty then none else some (joined ['&'] q.params) } := by
  refine withQuery_eq segments fun written mem c inside => ?_
  split at mem
  · cases mem
  · cases mem
    obtain sign | ⟨part, isPart, inPart⟩ := mem_joined inside
    · rw [List.mem_singleton.1 sign]
      decide
    · obtain ⟨_, _, w⟩ := written_of_mem_params isPart
      exact (w.isQueryChar inPart).1

/-- The parameters that were written are the ones that are read. -/
theorem parameters_url {base : Url} {names : List (List Char)}
    (segments : base.path = .segments names) :
    parameters (q.url base).query = q.params.map parameter := by
  rw [url_eq segments]
  cases params : q.params with
  | nil => rfl
  | cons part parts =>
    have apart : ∀ p ∈ q.params, '&' ∉ p := fun p mem inside =>
      have ⟨_, _, w⟩ := written_of_mem_params mem
      (w.isQueryChar inside).2 rfl
    rw [params] at apart
    simp only [parameters, List.isEmpty_cons, Bool.false_eq_true, if_false]
    rw [pieces_joined _ (List.cons_ne_nil _ _) apart]

/-- What a name stands for in a parameter of a list. -/
theorem lookup_listParam (name : String) (plain : '=' ∉ name.toList) (other : List Char) :
    ((listParam name values).map parameter).lookup other =
      if other = name.toList ∧ values ≠ [] then some (joined [','] (values.map formEncode))
      else none := by
  cases values with
  | nil => simp [listParam]
  | cons v vs => simp [listParam, parameter_append plain]

/-- What a name stands for in a parameter of a value. -/
theorem lookup_valueParam (name : String) (plain : '=' ∉ name.toList) (other : List Char) :
    ((valueParam name value).map parameter).lookup other =
      if other = name.toList then (value.filter (!·.isEmpty)).map formEncode else none := by
  obtain _ | v := value
  · simp [valueParam]
  · by_cases empty : v.isEmpty = true
    · simp [valueParam, empty, Option.filter]
    · simp [valueParam, empty, Option.filter, parameter_append plain]

/-- The values of a list come back, and a list without any was left out. -/
theorem listed_joined (values : List String) :
    listed (if values = [] then none else some (joined [','] (values.map formEncode))) =
      values := by
  cases values with
  | nil => rfl
  | cons v vs =>
    have apart : ∀ p ∈ (v :: vs).map formEncode, ',' ∉ p := by
      intro p mem inside
      obtain ⟨v, -, rfl⟩ := List.mem_map.1 mem
      exact absurd (isFormChar_of_mem inside) (by decide)
    rw [if_neg (List.cons_ne_nil v vs), listed, pieces_joined _ (by simp) apart, List.map_map]
    simp [Function.comp_def, formDecode_formEncode]

/-- The article query behind a URL is the one that was written. -/
theorem ofQuery_url {base : Url} {names : List (List Char)}
    (segments : base.path = .segments names) : ofQuery (q.url base).query = q.tidy := by
  have day (value : Option String) : (value.map formEncode).map formDecode = value := by
    cases value <;> simp [formDecode_formEncode]
  simp only [ofQuery, parameters_url segments, params, List.map_append, List.lookup_append,
    lookup_listParam "keywords" (by decide),
    lookup_listParam "sources" (by decide),
    lookup_valueParam "date_start" (by decide),
    lookup_valueParam "date_end" (by decide)]
  simp [tidy, listed_joined, day]

/-- **The URL of a query loses nothing**: read back, it gives the article query, so that two URLs
have the same text only if their queries are the same. All else of the URL of the service stays, and
it does not matter whether a query stood in it. -/
theorem url_loses_nothing {text : String} {base : Url} (read : Url.parse none text = .ok base)
    (http : base.isHttp = true) :
    (∀ q : ArticleQuery,
      ofQuery (q.url base).query = q.tidy ∧
      q.url base = { base with query := (q.url base).query } ∧
      ∀ old, q.url { base with query := old } = q.url base) ∧
    ∀ q q' : ArticleQuery, (q.url base).text = (q'.url base).text ↔ q.tidy = q'.tidy := by
  obtain ⟨names, segments⟩ := segments_of_parse read http
  refine ⟨fun q => ⟨ofQuery_url segments, by rw [url_eq segments], fun old => ?_⟩,
    fun q q' => ⟨fun same => ?_, fun same => ?_⟩⟩
  · rw [url_eq segments]
    exact url_eq segments
  · have query : (q.url base).query = (q'.url base).query := by
      rw [url_eq segments, url_eq segments] at same ⊢
      exact query_of_text_eq same
    rw [← ofQuery_url segments, query, ofQuery_url segments]
  · rw [url, url, show q.params = q'.params by rw [← params_tidy, same, params_tidy]]

/-- A service on this host, behind a URL with a query and a fragment. -/
def localService : Url where
  scheme := ['h', 't', 't', 'p']
  host := some (.ipv6 [0, 0, 0, 0, 0, 0, 0, 1])
  port := some 8080
  path := .segments [['n', 'e', 'w', 's']]
  query := some ['o', 'l', 'd']
  fragment := some ['t', 'o', 'p']

/-- Values full of separators, an empty one and an empty day. -/
def separators : ArticleQuery where
  keywords := ["a,b", "", "c&d=e"]
  dateStart := some ""
  dateEnd := some "2024-02-29"
  sources := ["1 + 1 = 100%", "žurnál"]

/-- A comma inside a keyword is told from one between two keywords. -/
theorem comma_kept :
    Url.parse none "http://[::1]:8080/news?old#top" = .ok localService ∧
      localService.isHttp = true ∧
      ofQuery (separators.url localService).query = { separators with dateStart := none } ∧
      (url localService { keywords := ["a,b"] }).text ≠
        (url localService { keywords := ["a", "b"] }).text := by
  have read : Url.parse none "http://[::1]:8080/news?old#top" = .ok localService := rfl
  have http : localService.isHttp = true := rfl
  obtain ⟨back, apart⟩ := url_loses_nothing read http
  exact ⟨read, http, (back separators).1, mt (apart _ _).1 (by decide)⟩

end FeedOperator.ArticleQuery
