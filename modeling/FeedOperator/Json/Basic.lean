import FeedOperator.Json.Number

/-!
# JSON values and their compact text

* `Json`: a value. Members stand in the order in which they were put.
* `Json.compact`: the text without blanks. A string is escaped no more than needed: quotes,
  backslashes and controls, the five common controls by a letter.
* `Json.same`: equality that does not look at the order of members.
-/

namespace FeedOperator

/-- A JSON value. -/
inductive Json where
  | null
  | bool (b : Bool)
  | num (n : Int)
  | real (d : Double)
  | str (s : String)
  | arr (items : List Json)
  | obj (members : List (String × Json))

namespace Json

/-- The value of the first member with a name. -/
def get? (name : String) : Json → Option Json
  | .obj members => members.lookup name
  | _ => none

/-- Puts a member in the place of the first one with its name, or else behind all others. -/
def putMember (name : String) (value : Json) : List (String × Json) → List (String × Json)
  | [] => [(name, value)]
  | (k, v) :: rest => if name = k then (k, value) :: rest else (k, v) :: putMember name value rest

/-- The object with a member of a name, or without any. -/
def withMember (name : String) (value : Option Json) : Json → Json
  | .obj members =>
    match value with
    | some v => .obj (putMember name v members)
    | none => .obj (members.filter (·.1 != name))
  | v => v

/-! ## Compact text -/

/-- One character inside a JSON string. -/
def escapeChar (c : Char) : List Char :=
  if c = '\"' then ['\\', '\"']
  else if c = '\\' then ['\\', '\\']
  else if c = '\n' then ['\\', 'n']
  else if c = '\r' then ['\\', 'r']
  else if c = '\t' then ['\\', 't']
  else if c = '\x08' then ['\\', 'b']
  else if c = '\x0c' then ['\\', 'f']
  else if c.toNat < 0x20 then ['\\', 'u'] ++ Text.padded 4 (Text.hexLower c.toNat)
  else [c]

/-- A JSON string with its quotes. -/
def quoted (s : String) : List Char :=
  '\"' :: s.toList.flatMap escapeChar ++ ['\"']

mutual

/-- The characters of the compact text. -/
def chars : Json → List Char
  | .null => ['n', 'u', 'l', 'l']
  | .bool true => ['t', 'r', 'u', 'e']
  | .bool false => ['f', 'a', 'l', 's', 'e']
  | .num n => Text.signedDecimal n
  | .real d => d.jsonChars
  | .str s => quoted s
  | .arr [] => ['[', ']']
  | .arr (v :: items) => '[' :: chars v ++ itemChars items
  | .obj [] => ['{', '}']
  | .obj ((k, v) :: members) => '{' :: quoted k ++ ':' :: chars v ++ memberChars members

/-- What follows the first item of a list. -/
def itemChars : List Json → List Char
  | [] => [']']
  | v :: items => ',' :: chars v ++ itemChars items

/-- What follows the first member of an object. -/
def memberChars : List (String × Json) → List Char
  | [] => ['}']
  | (k, v) :: members => ',' :: quoted k ++ ':' :: chars v ++ memberChars members

end

/-- The text without blanks. -/
def compact (v : Json) : String :=
  String.ofList v.chars

/-! ## Members in order -/

/-- Puts a member before the first one with a greater name. -/
def insertMember (k : String) (v : Json) : List (String × Json) → List (String × Json)
  | [] => [(k, v)]
  | (k', v') :: rest =>
    if k < k' then (k, v) :: (k', v') :: rest else (k', v') :: insertMember k v rest

mutual

/-- The same value with the members of every object in ascending order of their names. -/
def sorted : Json → Json
  | .arr items => .arr (sortedItems items)
  | .obj members => .obj (sortedMembers members)
  | v => v

/-- Sorts within each item. -/
def sortedItems : List Json → List Json
  | [] => []
  | v :: items => sorted v :: sortedItems items

/-- Sorts members by name, and within each. -/
def sortedMembers : List (String × Json) → List (String × Json)
  | [] => []
  | (k, v) :: members => insertMember k (sorted v) (sortedMembers members)

end

/-- Whether two values have one sorted text, so that the order of members does not count. -/
def same (a b : Json) : Bool :=
  a.sorted.chars == b.sorted.chars

/-! ## Building -/

/-- A string, or `null`. -/
def ofString? : Option String → Json
  | some s => .str s
  | none => .null

/-- A list of strings. -/
def ofStrings (names : List String) : Json :=
  .arr (names.map .str)

/-- An object with the members whose value is given, in order. -/
def ofPresent (members : List (String × Option Json)) : Json :=
  .obj (members.filterMap fun (k, v) => v.map (k, ·))

end Json

end FeedOperator
