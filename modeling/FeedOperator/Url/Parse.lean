import FeedOperator.Url.Basic

/-!
# Reading URLs

A URL is read in the way browsers do. Blanks and controls around it and line ends inside it do not
count, a backslash is as good as a slash in a special scheme, steps `.` and `..` of a path are
taken at once, and what a part cannot hold is percent-encoded.

Read by `check_link` and by `new` of `HttpAggregatorClient`.

* `Url.parse`: reads a URL, perhaps relative to another one.
* `Url.walk`: takes the steps of a path.
-/

namespace FeedOperator.Url

open Text

/-! ## The text -/

/-- Drops what does not count: controls and blanks around the URL, line ends and tabs inside. -/
def essential (s : List Char) : List Char :=
  let isOuter := fun (c : Char) => c.toNat ≤ 0x20
  ((s.dropWhile isOuter).reverse.dropWhile isOuter).reverse.filter
    fun c => !(c ∈ ['\t', '\n', '\r'])

/-- Whether a character may stand in a scheme after the first letter. -/
def isSchemeChar (c : Char) : Bool :=
  isLetter c || isDigit c || c ∈ ['+', '-', '.']

/-- A scheme in small letters and what stands after its colon. -/
def scheme? (s : List Char) : Option (List Char × List Char) :=
  if s.head?.any isLetter then
    match s.dropWhile isSchemeChar with
    | ':' :: rest => some ((s.takeWhile isSchemeChar).map Char.toLower, rest)
    | _ => none
  else none

/-- Cuts before the first character of a class. -/
def cut (cls : Char → Bool) (s : List Char) : List Char × List Char :=
  (s.takeWhile fun c => !cls c, s.dropWhile fun c => !cls c)

/-- Whether a character ends a path. -/
def endsPath (c : Char) : Bool := c == '?' || c == '#'

/-- Whether a character parts segments. -/
def isSlash (special : Bool) (c : Char) : Bool := c == '/' || (special && c == '\\')

/-! ## Query and fragment -/

/-- The query and the fragment that stand after a path. -/
def tail (special : Bool) (s : List Char) : Option (List Char) × Option (List Char) :=
  match s with
  | '?' :: rest =>
    let (query, rest) := cut (· == '#') rest
    (some (encode (if special then inSpecialQuery else inQuery) query), fragment rest)
  | rest => (none, fragment rest)
where
  /-- The fragment after its sign. -/
  fragment : List Char → Option (List Char)
    | '#' :: rest => some (encode inFragment rest)
    | _ => none

/-! ## Paths -/

/-- A segment with its encoded points decoded. -/
def plainDots : List Char → List Char
  | '%' :: '2' :: 'e' :: rest => '.' :: plainDots rest
  | '%' :: '2' :: 'E' :: rest => '.' :: plainDots rest
  | c :: rest => c :: plainDots rest
  | [] => []

/-- Whether a segment names a drive: a letter with a colon or a bar. -/
def isDrive : List Char → Bool
  | [c, sign] => isLetter c && (sign == ':' || sign == '|')
  | _ => false

/-- One segment fewer, unless the last one names a drive. -/
def shorten (names : List (List Char)) : List (List Char) :=
  if names.getLast?.any isDrive then names else names.dropLast

/-- A segment as it is kept behind others. In the path of a file, a drive at the very front is
written with a colon. -/
def kept (file : Bool) (names : List (List Char)) (name : List Char) : List Char :=
  match name with
  | [c, sign] => if file && names.isEmpty && isDrive [c, sign] then [c, ':'] else encode inPath name
  | _ => encode inPath name

/-- Takes the steps of a path from where it stands. A step `..` at the end leaves an empty segment,
and so does a step `.` there. -/
def walk (file : Bool) (names : List (List Char)) : List (List Char) → List (List Char)
  | [] => names
  | name :: rest =>
    let atEnd := if rest.isEmpty then [[]] else []
    match plainDots name with
    | ['.', '.'] => walk file (shorten names ++ atEnd) rest
    | ['.'] => walk file (names ++ atEnd) rest
    | _ => walk file (names ++ [kept file names name]) rest

/-- The segments between slashes, with one slash for either kind. -/
def steps (special : Bool) (s : List Char) : List (List Char) :=
  pieces '/' (s.map fun c => if special && c == '\\' then '/' else c)

/-- A path without the slash in front of it, if there is one. -/
def withoutSlash (special : Bool) : List Char → List Char
  | [] => []
  | c :: rest => if isSlash special c then rest else c :: rest

/-- The path that starts at a slash, or without one. -/
def absolutePath (special : Bool) (s : List Char) : List (List Char) :=
  walk false [] (steps special (withoutSlash special s))

/-! ## Authority -/

/-- Cuts at the last sign of a user. -/
def cutUser (s : List Char) : Option (List Char × List Char) :=
  if s.contains '@' then
    let host := (s.reverse.takeWhile (· != '@')).reverse
    some (s.take (s.length - host.length - 1), host)
  else none

/-- User and password, encoded. -/
def userinfo (s : List Char) : List Char × List Char :=
  let (name, rest) := cut (· == ':') s
  (encode inUserinfo name, encode inUserinfo (rest.drop 1))

/-- Cuts a host from its port: at the first colon outside brackets. -/
def cutHost (inside : Bool) : List Char → List Char × List Char
  | [] => ([], [])
  | c :: rest =>
    if c == ':' && !inside then ([], c :: rest)
    else
      let inside := if c == '[' then true else if c == ']' then false else inside
      let (host, port) := cutHost inside rest
      (c :: host, port)

/-- Reads digits of a port, of which there may be none. Nothing but a backslash may follow. -/
def readPort (scheme : List Char) (s : List Char) : Except UrlError (Option Nat × List Char) :=
  let digits := s.takeWhile isDigit
  let rest := s.dropWhile isDigit
  let n := ofDigits 10 digits
  if rest.head?.any (· != '\\') || 65535 < n then .error .invalidPort
  else if digits.isEmpty || defaultPort? scheme = some n then .ok (none, rest)
  else .ok (some n, rest)

/-- Reads what stands after the two slashes of an authority. -/
def authority (scheme : List Char) (s : List Char) : Except UrlError Url := do
  let special := isSpecial scheme
  let (front, rest) := cut (fun c => isSlash special c || endsPath c) s
  let (user, hostPort) := (cutUser front).getD ([], front)
  if hostPort.isEmpty && !rest.isEmpty && cutUser front = some ([], []) then throw .emptyHost
  let (username, password) := userinfo user
  let (hostText, portText) := cutHost false hostPort
  if special && hostText.isEmpty then throw .emptyHost
  let host ← if special then Host.parseSpecial hostText else Host.parseOther hostText
  if hostText.isEmpty && !portText.isEmpty then throw .emptyHost
  let (port, front) ← readPort scheme (portText.drop 1)
  let _ ← if hostText.isEmpty && !(username.isEmpty && password.isEmpty) then
      throw UrlError.emptyHost else pure ()
  let (path, rest) := cut endsPath rest
  let path := front ++ path
  let (query, fragment) := tail special rest
  return {
    scheme := scheme, username := username, password := password
    host := some host, port := port, query := query, fragment := fragment
    path := .segments (if path.isEmpty && !special then [] else absolutePath special path) }

/-! ## Files -/

/-- Where the path of a file is: the host, the segments that stand before the path, and the path. -/
structure FilePlace where
  host : Host := .name []
  front : List (List Char) := []
  path : List Char

/-- The host of files that are here. -/
def localhost : Host := .name ['l', 'o', 'c', 'a', 'l', 'h', 'o', 's', 't']

/-- Where the path of a file is, after its scheme. Behind two slashes stands a host, but not if it
is the name of a drive. Without a host the path starts with one more slash. -/
def filePlace (s : List Char) : Except UrlError FilePlace :=
  match s with
  | a :: b :: rest =>
    if isSlash true a && isSlash true b then do
      let (front, after) := cut (fun c => isSlash true c || endsPath c) rest
      if isDrive front then return { path := rest }
      else if front.isEmpty then return { front := [[]], path := after }
      else
        let host ← Host.parseSpecial front
        return if host = localhost then { front := [[]], path := after }
          else { host := host, path := after }
    else .ok { path := s }
  | s => .ok { path := s }

/-- Drops the empty segments in front of others. -/
def withoutEmptyFront : List (List Char) → List (List Char)
  | [] :: name :: rest => withoutEmptyFront (name :: rest)
  | names => names

/-- Reads what stands after the scheme of a file. A path that starts with a drive has no host. -/
def file (scheme : List Char) (s : List Char) : Except UrlError Url := do
  let place ← filePlace s
  let (path, rest) := cut endsPath place.path
  let (query, fragment) := tail true rest
  let names := walk true place.front (steps true (withoutSlash true path))
  return {
    scheme := scheme, query := query, fragment := fragment
    host := some (if names.head?.any isDrive then .name [] else place.host)
    path := .segments (withoutEmptyFront names) }

/-! ## Whole URLs -/

/-- Reads what stands after a scheme of which nothing is known. -/
def other (scheme : List Char) (s : List Char) : Except UrlError Url :=
  match s with
  | '/' :: '/' :: rest => authority scheme rest
  | s =>
    let (path, rest) := cut endsPath s
    let (query, fragment) := tail false rest
    .ok {
      scheme := scheme, query := query, fragment := fragment
      path := match path with
        | '/' :: _ => .segments (absolutePath false path)
        | path => .plain (encode (fun _ => false) path) }

/-- Reads a URL without a scheme relative to one of a special scheme. -/
def relative (base : Url) (s : List Char) : Except UrlError Url :=
  let (path, rest) := cut endsPath s
  let (query, fragment) := tail true rest
  let names := match base.path with
    | .segments names => names
    | .plain _ => []
  let at_ := fun (path : List (List Char)) =>
    { base with path := .segments path, query := query, fragment := fragment }
  match path with
  | a :: b :: more =>
    if isSlash true a && isSlash true b then
      authority base.scheme ((b :: more).dropWhile (isSlash true) ++ rest)
    else if isSlash true a then .ok (at_ (absolutePath true path))
    else .ok (at_ (walk false names.dropLast (steps true path)))
  | [a] =>
    if isSlash true a then .ok (at_ (absolutePath true path))
    else .ok (at_ (walk false names.dropLast (steps true path)))
  | [] =>
    if query.isSome then .ok { base with query := query, fragment := fragment }
    else .ok { base with fragment := fragment }

/-- Reads a URL. One without a scheme is read relative to the base, which is of a special scheme. -/
def parse (base : Option Url) (text : String) : Except UrlError Url :=
  let s := essential text.toList
  match scheme? s with
  | none =>
    match base with
    | some base => relative base s
    | none => .error .relativeWithoutBase
  | some (scheme, rest) =>
    if isFile scheme then file scheme rest
    else if isSpecial scheme then
      let slashes := (rest.takeWhile (isSlash true)).length
      match base with
      | some base =>
        if slashes < 2 && base.scheme = scheme then relative base rest
        else authority scheme (rest.dropWhile (isSlash true))
      | none => authority scheme (rest.dropWhile (isSlash true))
    else other scheme rest

end FeedOperator.Url
