import FeedOperator.Text.Numeral

/-!
# Targets of requests

A request is for a path, perhaps with a query behind a question mark, perhaps on some host. A number
sign ends the target, whatever follows it.

* `Target`: what a target holds.
* `Target.parse?`: reads a path (`/a?b`), a whole address (`http://host/a?b`), a host with its port
  (`host:80`) or an asterisk.

Results:
* `pathOf_append`: nothing behind the first question mark or number sign belongs to the path.
-/

namespace FeedOperator

/-- What a request is for. -/
structure Target where
  /-- The host, with its port and perhaps a user. -/
  authority : List Char := []
  path : List Char
  /-- The query with its question mark, or nothing. -/
  query : List Char := []
  deriving DecidableEq

namespace Target

open Text

/-! ## Paths -/

/-- Whether a character may stand in a path. -/
def isPathChar (c : Char) : Bool :=
  let n := c.toNat
  n == 0x21 || n == 0x22 || (0x24 ≤ n && n ≤ 0x3B) || n == 0x3D || (0x40 ≤ n && n ≤ 0x5F) ||
    (0x61 ≤ n && n ≤ 0x7E) || 0x80 ≤ n

/-- Whether a character may stand in a query. -/
def isQueryChar (c : Char) : Bool :=
  let n := c.toNat
  n == 0x21 || (0x24 ≤ n && n ≤ 0x3B) || n == 0x3D || (0x3F ≤ n && n ≤ 0x7E) || 0x80 ≤ n

/-- Whether a character ends a path. -/
def endsPath (c : Char) : Bool :=
  c == '?' || c == '#'

/-- The path in front of a text. -/
def pathOf (s : List Char) : List Char :=
  s.takeWhile (!endsPath ·)

theorem pathOf_append {path rest : List Char} {sign : Char} (h : ∀ c ∈ path, endsPath c = false)
    (hs : endsPath sign = true) : pathOf (path ++ sign :: rest) = path := by
  induction path with
  | nil => simp [pathOf, hs]
  | cons c path ih =>
    have hc : endsPath c = false := h c (by simp)
    have := ih fun d hd => h d (by simp [hd])
    simpa [pathOf, hc] using this

/-- A path, perhaps with a query, on a host. -/
def ofPath? (authority s : List Char) : Option Target :=
  let path := pathOf s
  let query := (s.takeWhile (· != '#')).drop path.length
  if path.all isPathChar && (query.drop 1).all isQueryChar then some ⟨authority, path, query⟩
  else none

/-! ## Hosts -/

/-- Whether a character may stand in the name of a scheme. -/
def isSchemeChar (c : Char) : Bool :=
  isLetter c || isDigit c || c ∈ ['+', '-', '.', '~']

/-- The greatest length of the name of a scheme. -/
def maxScheme : Nat := 64

/-- Whether a character ends a host. -/
def endsHost (c : Char) : Bool :=
  c == '/' || endsPath c

/-- Whether a character may stand in a host that has no brackets, user or port. -/
def isHostChar (c : Char) : Bool :=
  isLetter c || isDigit c ||
    c ∈ ['!', '$', '&', '\x27', '(', ')', '*', '+', ',', '-', '.', ';', '=', '_', '~']

/-- What was seen of a host. -/
structure HostState where
  /-- The colons since the last bracket or at sign. -/
  colons : Nat := 0
  opened : Bool := false
  closed : Bool := false
  /-- Whether there was a percent sign since the last bracket or at sign. -/
  percent : Bool := false
  /-- Whether the last character was an at sign. -/
  user : Bool := false

/-- Reads one character of a host. -/
def HostState.next? (s : HostState) (c : Char) : Option HostState :=
  let s := { s with user := false }
  if c = ':' then if s.colons < 8 then some { s with colons := s.colons + 1 } else none
  else if c = '[' then if s.percent || s.opened then none else some { s with opened := true }
  else if c = ']' then
    if s.opened && !s.closed then some { s with closed := true, colons := 0, percent := false }
    else none
  else if c = '@' then some { s with colons := 0, percent := false, user := true }
  else if c = '%' then some { s with percent := true }
  else if isHostChar c then some s
  else none

/-- Whether a host may end here: brackets are closed, one colon at most stands before a port, and a
percent sign stood in the user or in brackets only. -/
def HostState.mayEnd (s : HostState) : Bool :=
  s.opened == s.closed && s.colons ≤ 1 && !s.percent && !s.user

/-- Whether a text is a host, perhaps with a user before it and a port behind it. -/
def isHost (s : List Char) : Bool :=
  !s.isEmpty && (s.foldlM HostState.next? {}).any (·.mayEnd)

/-! ## Targets -/

/-- The greatest length in octets. -/
def maxLength : Nat := 65534

/-- Whether a target is longer than any that can be read. -/
def isTooLong (s : List Char) : Bool :=
  maxLength < s.foldl (fun n c => n + c.utf8Size) 0

/-- A target behind a scheme. A path that is missing is the root. -/
def ofAddress? (s : List Char) : Option Target :=
  let host := s.takeWhile (!endsHost ·)
  if isHost host then
    (ofPath? host (s.drop host.length)).map fun t =>
      { t with path := if t.path.isEmpty then ['/'] else t.path }
  else none

/-- The text behind a scheme, if there is one in front. -/
def behindScheme? (s : List Char) : Option (List Char × List Char) :=
  match s.dropWhile isSchemeChar with
  | ':' :: '/' :: '/' :: rest => some (s.takeWhile isSchemeChar, rest)
  | _ => none

/-- Reads a target. -/
def parse? (s : List Char) : Option Target :=
  if isTooLong s then none
  else
    match s with
    | ['*'] => some { path := ['*'] }
    | '/' :: _ => ofPath? [] s
    | _ =>
      match behindScheme? s with
      | some (scheme, rest) => if scheme.length ≤ maxScheme then ofAddress? rest else none
      | none => if isHost s then some { authority := s, path := [] } else none

/-- Path and query as they are sent. -/
def text (t : Target) : String :=
  String.ofList (t.path ++ t.query)

end Target

end FeedOperator
