import FeedOperator.Admission.FieldError
import FeedOperator.Pass
import FeedOperator.Store
import FeedOperator.Url.Parse

/-!
# Admission of Sources

A Source has a name and a short name of at most twenty characters and a link that is a URL, and no
other Source of its namespace has the same name, short name or link.

Model of `SourceValidator`: `check_name`, `check_link`, `format_errors`, `uniqueness_errors` and
`validate` (specification 4.4).
-/

namespace FeedOperator.Source

/-- The greatest length of a name and a short name. -/
def maxNameLength : Nat := 20

/-- What is wrong with a name. -/
def nameErrors (field value : String) : List FieldError :=
  if value.isEmpty then [.required field "must be present"]
  else if maxNameLength < value.length then
    [.invalid field value
      ("cannot be more than " ++ String.ofList (Text.decimal maxNameLength) ++ " characters")]
  else []

/-- What is wrong with a link. -/
def linkErrors (value : String) : List FieldError :=
  if value.isEmpty then [.required "spec.link" "must be present"]
  else match Url.parse none value with
    | .ok _ => []
    | .error e => [.invalid "spec.link" value ("must be an absolute URL: " ++ e.message)]

/-- What is wrong with the fields by themselves. -/
def formatErrors (source : Source) : List FieldError :=
  nameErrors "spec.name" source.spec.name ++
    nameErrors "spec.shortName" source.spec.shortName ++ linkErrors source.spec.link

/-- The error of a value that another Source has, too. -/
def duplicateErrors (field : String) (value : SourceSpec → String) (spec : SourceSpec)
    (others : List Source) : List FieldError :=
  if !(value spec).isEmpty && others.any fun o => value o.spec == value spec then
    [.duplicate field (value spec)]
  else []

/-- The fields that a Source of another name has, too. -/
def uniquenessErrors (source : Source) (existing : List Source) : List FieldError :=
  let others := existing.filter (·.metadata.name != source.metadata.name)
  duplicateErrors "spec.name" (·.name) source.spec others ++
    duplicateErrors "spec.shortName" (·.shortName) source.spec others ++
    duplicateErrors "spec.link" (·.link) source.spec others

/-- The verdict on a Source, new or changed. -/
def validate (source : Source) : Pass Verdict := do
  let ns := source.metadata.ns.getD defaultNamespace
  let errors := match ← Pass.store (.listSources ns) with
    | .ok existing => uniquenessErrors source existing
    | .error e => [.internal "spec" ("failed to list sources: " ++ e.message)]
  return .of type source.metadata (formatErrors source ++ errors) []

end FeedOperator.Source
