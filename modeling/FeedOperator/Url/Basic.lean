import FeedOperator.Url.Host

/-!
# URLs

A URL in its parts. Every part holds the characters that stand in the text, so that a percent sign
in it is a percent sign of the text.

* `Url.chars`: the text of a URL.
* `Url.withQuery`: another query in the place of the old one.
* `Url.child?`: one more segment at the end of the path.
* `Url.target`: the text without user, password and fragment.
-/

namespace FeedOperator

/-- The path of a URL. -/
inductive UrlPath where
  /-- Characters that mean something to the scheme alone. -/
  | plain (chars : List Char)
  /-- Segments, with a slash before each. -/
  | segments (names : List (List Char))
  deriving DecidableEq

/-- A URL in its parts. -/
structure Url where
  scheme : List Char
  username : List Char := []
  password : List Char := []
  /-- The host, perhaps an empty name; nothing if the URL has no place for one. -/
  host : Option Host := none
  /-- The port if it is not the usual one of the scheme. -/
  port : Option Nat := none
  path : UrlPath
  query : Option (List Char) := none
  fragment : Option (List Char) := none
  deriving DecidableEq

namespace Url

/-- The usual port of a scheme. -/
def defaultPort? (scheme : List Char) : Option Nat :=
  if scheme = ['h', 't', 't', 'p'] ∨ scheme = ['w', 's'] then some 80
  else if scheme = ['h', 't', 't', 'p', 's'] ∨ scheme = ['w', 's', 's'] then some 443
  else if scheme = ['f', 't', 'p'] then some 21
  else none

/-- Whether a scheme is that of files. -/
def isFile (scheme : List Char) : Bool :=
  scheme = ['f', 'i', 'l', 'e']

/-- Whether a scheme is one of those that are known. -/
def isSpecial (scheme : List Char) : Bool :=
  (defaultPort? scheme).isSome || isFile scheme

/-- Whether a URL can be requested over HTTP. -/
def isHttp (u : Url) : Bool :=
  u.scheme = ['h', 't', 't', 'p'] || u.scheme = ['h', 't', 't', 'p', 's']

/-- The characters of a path. -/
def pathChars : UrlPath → List Char
  | .plain s => s
  | .segments names => names.flatMap ('/' :: ·)

/-- User and password with the sign that ends them. -/
def userinfoChars (u : Url) : List Char :=
  if u.username.isEmpty && u.password.isEmpty then []
  else
    u.username ++ (if u.password.isEmpty then [] else ':' :: u.password) ++ ['@']

/-- The characters of a URL up to its query. A path that starts with an empty segment gets a dot in
front, so that it is not taken for a host. -/
def hierarchyChars (u : Url) : List Char :=
  u.scheme ++ ':' ::
    match u.host with
    | some host =>
      ['/', '/'] ++ u.userinfoChars ++ host.chars ++
        (match u.port with
        | some port => ':' :: Text.decimal port
        | none => []) ++ pathChars u.path
    | none =>
      match u.path with
      | .segments ([] :: _ :: _) => ['/', '.'] ++ pathChars u.path
      | path => pathChars path

/-- A part with the sign that starts it, if there is such a part. -/
def partChars (sign : Char) : Option (List Char) → List Char
  | some s => sign :: s
  | none => []

/-- The characters of a URL. -/
def chars (u : Url) : List Char :=
  u.hierarchyChars ++ partChars '?' u.query ++ partChars '#' u.fragment

/-- The text of a URL. -/
def text (u : Url) : String :=
  String.ofList u.chars

/-- The text of a URL as a server gets to see it: without user, password and fragment. -/
def target (u : Url) : String :=
  { u with username := [], password := [], fragment := none }.text

/-- Drops blanks at the end of a plain path, which nothing follows. -/
def tidyPath (u : Url) : Url :=
  match u.path, u.query, u.fragment with
  | .plain s, none, none => { u with path := .plain (s.reverse.dropWhile (· == ' ')).reverse }
  | _, _, _ => u

/-- Another query in the place of the old one. Tabs and line breaks, which a reader of URLs drops,
are encoded like other characters: no caller has any in a query. -/
def withQuery (u : Url) : Option (List Char) → Url
  | some q =>
    let cls := if isSpecial u.scheme then inSpecialQuery else inQuery
    { u with query := some (encode cls q) }
  | none => tidyPath { u with query := none }

/-- The path without an empty segment at its end, or the empty path in the place of a slash. -/
def openSegments (names : List (List Char)) : List (List Char) :=
  let names := if names.getLast? = some [] then names.dropLast else names
  if names = [[]] then [] else names

/-- One more segment at the end of the path, in the place of an empty one. A plain path takes
none. -/
def child? (u : Url) (name : List Char) : Option Url :=
  match u.path with
  | .plain _ => none
  | .segments names => some { u with path := .segments (openSegments names ++ [name]) }

end Url

end FeedOperator
