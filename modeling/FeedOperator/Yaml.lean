import FeedOperator.Json.Basic
import FeedOperator.Text.Pieces

/-!
# YAML

A value as a YAML document in block style. A member whose value has members is indented under its
name; the items of a list stand under the name itself, each behind a dash. A text of several lines
is a literal block, and a text that would be read as something else stands between single quotes.

* `Yaml.lines`: the lines of a value.
* `Yaml.document`: the text of a value.
-/

namespace FeedOperator.Yaml

open Text

/-- A line. -/
abbrev Line := List Char

/-- The words that stand for other values than texts. -/
def reservedWords : List String := [
  "~", "null", "Null", "NULL", "true", "True", "TRUE", "false", "False", "FALSE"]

/-- The characters with which no plain text begins. -/
def isIndicator (c : Char) : Bool :=
  c ∈ ['-', '?', ':', ',', '[', ']', '{', '}', '#', '&', '*', '!', '|', '>', '\'', '\"', '%', '@',
    '\x60']

/-- Whether a character after another one ends a plain text: a colon before a blank, or a hash sign
behind one. -/
def endsPlain : List Char → Bool
  | ':' :: ' ' :: _ => true
  | ' ' :: '#' :: _ => true
  | [':'] => true
  | [' '] => true
  | _ :: rest => endsPlain rest
  | [] => false

/-- Whether a text could be read as a number. -/
def isNumberLike (s : List Char) : Bool :=
  match s with
  | '-' :: c :: _ | '+' :: c :: _ | '.' :: c :: _ => isDigit c
  | c :: _ => isDigit c
  | [] => false

/-- Whether a text needs no quotes. -/
def isPlain (s : List Char) : Bool :=
  match s with
  | [] => false
  | c :: _ =>
    !isIndicator c && c != ' ' && !endsPlain s && !isNumberLike s &&
      !reservedWords.contains (String.ofList s)

/-- A text on one line. -/
def scalar (s : List Char) : Line :=
  if isPlain s then s
  else '\'' :: s.flatMap (fun c => if c = '\'' then ['\'', '\''] else [c]) ++ ['\'']

/-- A line one step further in; an empty line stays empty. -/
def indent (l : Line) : Line :=
  if l.isEmpty then l else ' ' :: ' ' :: l

/-- An item of a list: a dash before its first line. -/
def item : List Line → List Line
  | [] => []
  | first :: rest => ('-' :: ' ' :: first) :: rest.map indent

/-- A text as a literal block, or on one line. -/
def textLines (name : Line) (s : List Char) : List Line :=
  if '\n' ∈ s then (name ++ [':', ' ', '|', '-']) :: (pieces '\n' s).map indent
  else [name ++ ':' :: ' ' :: scalar s]

mutual

/-- The lines of a value. -/
def lines : Json → List Line
  | .str s => [scalar s.toList]
  | .arr (v :: items) => item (lines v) ++ itemLines items
  | .obj ((k, v) :: members) => entry k v ++ memberLines members
  | v => [v.chars]

/-- The lines of the items of a list. -/
def itemLines : List Json → List Line
  | [] => []
  | v :: items => item (lines v) ++ itemLines items

/-- The lines of a member: what is nested stands on lines of its own. -/
def entry (k : String) : Json → List Line
  | .str s => textLines (scalar k.toList) s.toList
  | .arr (v :: items) => (scalar k.toList ++ [':']) :: (item (lines v) ++ itemLines items)
  | .obj ((k', v) :: members) =>
    (scalar k.toList ++ [':']) :: (entry k' v ++ memberLines members).map indent
  | v => [scalar k.toList ++ ':' :: ' ' :: v.chars]

/-- The lines of the members of an object. -/
def memberLines : List (String × Json) → List Line
  | [] => []
  | (k, v) :: members => entry k v ++ memberLines members

end

/-- The text of a value, with a line end after each line. -/
def document (v : Json) : String :=
  String.ofList ((lines v).flatMap (· ++ ['\n']))

end FeedOperator.Yaml
