import FeedOperator.Text.Numeral

/-!
# Media types

The kind of content that a message has: a type and a subtype with a slash between them, and perhaps
parameters. A subtype may end in a suffix, behind its last plus sign, that names the format it is
built on.

* `MediaType.parse?`: reads a media type. Parameters have to be well formed, and are not kept.
* `MediaType.isJson`: whether the content is JSON.

Parameters stand behind semicolons. Each is a name, an equals sign and a value, which is
a token or stands in quotation marks; blanks may stand before a name and behind a closing mark.
-/

namespace FeedOperator

/-- A kind of content. -/
structure MediaType where
  type : List Char
  subtype : List Char
  suffix : Option (List Char) := none
  deriving DecidableEq

namespace MediaType

open Text

/-- Whether a character may stand in a name or a token. -/
def isTokenChar (c : Char) : Bool :=
  isLetter c || isDigit c ||
    c ∈ ['!', '#', '$', '%', '&', '\x27', '*', '+', '-', '.', '^', '_', '\x60', '|', '~']

/-- Whether a character may stand in quotation marks. -/
def isQuotable (c : Char) : Bool :=
  ' ' ≤ c && c ≤ '~'

/-! ## Parameters -/

/-- How far the parameters were read. -/
inductive ParamState where
  /-- Before a name. -/
  | start
  | name
  /-- Behind the equals sign. -/
  | equals
  | token
  /-- Behind the opening quotation mark; at least one character follows it. -/
  | opened
  | quoted
  /-- Behind the closing quotation mark. -/
  | closed
  deriving DecidableEq

/-- Reads one character of the parameters. -/
def ParamState.next? (s : ParamState) (c : Char) : Option ParamState :=
  match s with
  | .start => if c == ' ' then some .start else if isTokenChar c then some .name else none
  | .name => if c == '=' then some .equals else if isTokenChar c then some .name else none
  | .equals => if c == '\"' then some .opened else if isTokenChar c then some .token else none
  | .token => if c == ';' then some .start else if isTokenChar c then some .token else none
  | .opened => if isQuotable c then some .quoted else none
  | .quoted => if c == '\"' then some .closed else if isQuotable c then some .quoted else none
  | .closed => if c == ';' then some .start else if c == ' ' then some .closed else none

/-- Whether the parameters may end here. -/
def ParamState.mayEnd : ParamState → Bool
  | .start | .equals | .token | .closed => true
  | .name | .opened | .quoted => false

/-- Whether a text is a list of parameters. -/
def areParams (s : List Char) : Bool :=
  (s.foldlM ParamState.next? .start).any (·.mayEnd)

/-! ## Names -/

/-- A subtype without its suffix, and the suffix. A plus sign at the very beginning starts none. -/
def splitSuffix (name : List Char) : List Char × Option (List Char) :=
  let suffix := (name.reverse.takeWhile (· != '+')).reverse
  if suffix.length + 1 < name.length then
    (name.take (name.length - suffix.length - 1), some suffix)
  else (name, none)

/-- A media type of which the names are given. -/
def ofNames (type name : List Char) : MediaType :=
  let (subtype, suffix) := splitSuffix (name.map Char.toLower)
  ⟨type.map Char.toLower, subtype, suffix⟩

/-- Reads a media type; case does not count. -/
def parse? (s : List Char) : Option MediaType :=
  let type := s.takeWhile isTokenChar
  match s.dropWhile isTokenChar with
  | '/' :: rest =>
    if type.isEmpty then none
    else
      let name := rest.takeWhile isTokenChar
      match rest.dropWhile isTokenChar with
      | [] => some (ofNames type name)
      | sign :: params =>
        if !name.isEmpty && sign == ';' && areParams params then
          some (ofNames type name)
        else none
  | _ => none

/-- Whether the content is JSON: the type of JSON, or one that is built on it. -/
def isJson (m : MediaType) : Bool :=
  m.type == "application".toList &&
    (m.subtype == "json".toList || m.suffix == some "json".toList)

end MediaType

end FeedOperator
