import FeedOperator.Json.Basic

/-!
# Schemas

A schema says what a value of a resource has to look like: a text, an integer, a list or a record.

* `Schema.toJson`: the schema as the platform reads it.
-/

namespace FeedOperator

/-- What is said of a value whatever its type. -/
structure Notes where
  description : Option String := none
  /-- The value that stands for a missing one. -/
  default : Option Json := none
  /-- Whether `null` will do. -/
  nullable : Bool := false
  title : Option String := none

/-- What a value has to look like. -/
inductive Schema where
  /-- A text, one of some choices if there are any. -/
  | text (notes : Notes) (choices : List String)
  /-- An integer in a number format; a count is not below zero. -/
  | integer (notes : Notes) (format : String) (isCount : Bool)
  | list (notes : Notes) (items : Schema)
  /-- Members by name, and which of them have to be there. -/
  | record (notes : Notes) (members : List (String × Schema)) (required : List String)

namespace Schema

/-- A list if it holds something. -/
def ofNames? (names : List String) : Option Json :=
  if names.isEmpty then none else some (.ofStrings names)

/-- A schema of a type with its notes and what else is said. -/
def ofParts (notes : Notes) (type : String) (more : List (String × Option Json)) : Json :=
  .ofPresent <|
    [("default", notes.default), ("description", notes.description.map .str),
      ("nullable", if notes.nullable then some (.bool true) else none),
      ("title", notes.title.map .str), ("type", some (.str type))] ++ more

mutual

/-- The schema as the platform reads it. -/
def toJson : Schema → Json
  | .text notes choices => ofParts notes "string" [("enum", ofNames? choices)]
  | .integer notes format isCount =>
    ofParts notes "integer" [("format", some (.str format)),
      ("minimum", if isCount then some (.real .zero) else none)]
  | .list notes items => ofParts notes "array" [("items", some items.toJson)]
  | .record notes members required =>
    ofParts notes "object" [("properties", some (.obj (membersJson members))),
      ("required", ofNames? required)]

/-- The schemas of members. -/
def membersJson : List (String × Schema) → List (String × Json)
  | [] => []
  | (k, s) :: members => (k, s.toJson) :: membersJson members

end

end Schema

end FeedOperator
