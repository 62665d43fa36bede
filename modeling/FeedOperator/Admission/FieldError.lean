import FeedOperator.Resource.Meta

/-!
# Errors in the fields of an object

What is wrong with an object is a list of errors, each at a field. An object with any is denied, and
the denial names them all.

Model of `FieldError` and `FieldErrors`, and of `into_result` and `ValidationError` (specification 7
and 10.5).
-/

namespace FeedOperator

/-- What is wrong with a field. -/
inductive FieldError where
  | required (field detail : String)
  | invalid (field value detail : String)
  | duplicate (field value : String)
  | notFound (field value : String)
  | forbidden (field detail : String)
  | internal (field detail : String)
  deriving DecidableEq

/-- The error in words. -/
def FieldError.text : FieldError → String
  | .required field detail => field ++ ": Required value: " ++ detail
  | .invalid field value detail => field ++ ": Invalid value: \"" ++ value ++ "\": " ++ detail
  | .duplicate field value => field ++ ": Duplicate value: \"" ++ value ++ "\""
  | .notFound field value => field ++ ": Not found: \"" ++ value ++ "\""
  | .forbidden field detail => field ++ ": Forbidden: " ++ detail
  | .internal field detail => field ++ ": Internal error: " ++ detail

/-- All that is wrong with an object. -/
structure Denial where
  /-- The kind of the object with its group. -/
  kind : String
  name : String
  errors : List FieldError
  deriving DecidableEq

/-- The denial in words: one error as it is, any other number of them in brackets. -/
def Denial.message (d : Denial) : String :=
  d.kind ++ " \"" ++ d.name ++ "\" is invalid: " ++
    match d.errors with
    | [e] => e.text
    | errors => "[" ++ ", ".intercalate (errors.map (·.text)) ++ "]"

/-- Either warnings, or a denial. -/
abbrev Verdict := Except Denial (List String)

/-- The verdict on an object: warnings if there are no errors. -/
def Verdict.of (type : ResourceType) (m : Meta) (errors : List FieldError)
    (warnings : List String) : Verdict :=
  if errors.isEmpty then .ok warnings
  else .error ⟨type.qualifiedKind, m.name.getD "", errors⟩

theorem Verdict.of_eq_ok_iff {type : ResourceType} {m : Meta} {errors : List FieldError}
    {warnings ws : List String} :
    Verdict.of type m errors warnings = .ok ws ↔ errors = [] ∧ warnings = ws := by
  cases errors <;> simp [Verdict.of]

end FeedOperator
