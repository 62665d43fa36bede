import FeedOperator.Admission.FieldError
import FeedOperator.Calendar.Date
import FeedOperator.FeedGroup
import FeedOperator.Pass
import FeedOperator.Store

/-!
# Admission of HotNews

A HotNews has a keyword, dates that exist, the first one not after the last one, and searches
Sources that exist, itself and by its feed groups. A feed group that is not defined calls for a
warning only.

Model of `HotNewsValidator`: `apply_defaults`, `parse_date`, `spec_errors`, `missing_sources`,
`feed_group_findings` and `validate` (specification 4.4).
-/

namespace FeedOperator.HotNews

/-- What is wrong with a date. -/
def dateErrors (field : String) (value : Option String) : List FieldError :=
  match value with
  | none => []
  | some text =>
    if (Date.parse? text).isSome then []
    else [.invalid field text "must be a date in YYYY-MM-DD format"]

/-- What is wrong with the order of two dates. -/
def windowErrors (first last : Option String) : List FieldError :=
  match first.bind Date.parse?, last.bind Date.parse? with
  | some first, some last =>
    if last.before first then
      [.invalid "spec.dateStart" first.text "dateStart must be before dateEnd"]
    else []
  | _, _ => []

/-- What is wrong with keywords and dates. -/
def specErrors (spec : HotNewsSpec) : List FieldError :=
  (if spec.keywords.isEmpty then
      [.required "spec.keywords" "at least one keyword must be present"]
    else []) ++
    dateErrors "spec.dateStart" spec.dateStart ++ dateErrors "spec.dateEnd" spec.dateEnd ++
    windowErrors spec.dateStart spec.dateEnd

/-- A field of a list, with the position in it. -/
def itemField (field : String) (i : Nat) : String :=
  field ++ "[" ++ String.ofList (Text.decimal i) ++ "]"

/-- The short names that are not known. -/
def missingSources (spec : HotNewsSpec) (known : List String) : List FieldError :=
  (spec.sources.zipIdx.filter fun (name, _) => !known.contains name).map
    fun (name, i) => .notFound (itemField "spec.sources" i) name

/-- The short names that a feed group stands for and that are not known. -/
def missingInGroup (groups : FeedGroups) (known : List String) (group : String) (i : Nat) :
    List FieldError :=
  ((groups.resolveGroup group).filter fun name => !known.contains name).map
    fun name => .notFound (itemField "spec.feedGroups" i) name

/-- What is wrong with the feed groups, where the Sources are known. -/
def groupErrors (spec : HotNewsSpec) (groups : FeedGroups) (known : Option (List String)) :
    List FieldError :=
  match known with
  | none => []
  | some known =>
    spec.feedGroups.zipIdx.flatMap fun (group, i) => missingInGroup groups known group i

/-- The place of a ConfigMap as it stands in a warning. -/
def placeText (target : FeedGroupRef) : String :=
  target.ns ++ "/" ++ target.name

/-- The warnings about feed groups that are not defined. -/
def groupWarnings (spec : HotNewsSpec) (groups : FeedGroups) (target : FeedGroupRef) :
    List String :=
  (spec.feedGroups.filter fun group => !groups.defines group).map fun group =>
    "feed group \"" ++ group ++ "\" is not defined in ConfigMap " ++ placeText target

/-- What is wrong with the feed groups, and the warnings about them. -/
def groupFindings (target : FeedGroupRef) (spec : HotNewsSpec) (known : Option (List String)) :
    Pass (List FieldError × List String) := do
  if spec.feedGroups.isEmpty then return ([], [])
  match ← Pass.store (.getConfigMap target.ns target.name) with
  | .ok (some cm) =>
    return (groupErrors spec cm.texts known, groupWarnings spec cm.texts target)
  | .ok none =>
    return ([], ["feed-group ConfigMap " ++ placeText target ++
      " not found, feedGroups will not resolve"])
  | .error e =>
    return ([], ["could not read feed-group ConfigMap " ++ placeText target ++ ": " ++ e.message])

/-- The verdict on a HotNews, new or changed. -/
def validate (target : FeedGroupRef) (hotNews : HotNews) : Pass Verdict := do
  let spec := hotNews.spec
  let ns := hotNews.metadata.ns.getD defaultNamespace
  let listed ← Pass.store (.listSources ns)
  let (known, sourceErrors) := match listed with
    | .ok sources =>
      let known := sources.map (·.spec.shortName)
      (some known, missingSources spec known)
    | .error e =>
      (none, [.internal "spec.sources" ("failed to list sources: " ++ e.message)])
  let (groupErrors, warnings) ← groupFindings target spec known
  return .of type hotNews.metadata (specErrors spec ++ sourceErrors ++ groupErrors) warnings

/-- The HotNews with its defaults written out. -/
def withDefaults (hotNews : HotNews) : HotNews :=
  { hotNews with spec := hotNews.spec.withDefaults }

end FeedOperator.HotNews
