import FeedOperator.Admission.FieldError
import FeedOperator.FeedGroup
import FeedOperator.Pass
import FeedOperator.Store

/-!
# Admission of feed groups

The ConfigMap with the feed groups lists only Sources that exist, and it cannot be deleted while a
HotNews names a feed group. Other ConfigMaps are not looked at.

Model of `FeedGroupValidator`: `is_target`, `validate_groups`, `validate_create`, `validate_update`
and `validate_delete` (specification 4.4).
-/

namespace FeedOperator.ConfigMap

/-- Whether this is the ConfigMap with the feed groups. -/
def isTarget (target : FeedGroupRef) (cm : ConfigMap) : Bool :=
  target.isAt cm.metadata.ns cm.metadata.name

/-- The short names in feed groups that are not known. -/
def missingNames (groups : FeedGroups) (known : List String) : List FieldError :=
  groups.flatMap fun (group, value) =>
    ((shortNames value).filter fun name => !known.contains name).map
      fun name => .notFound ("data[" ++ group ++ "]") name

/-- The verdict on a ConfigMap, new or changed. -/
def validate (target : FeedGroupRef) (cm : ConfigMap) : Pass Verdict := do
  if !cm.isTarget target then return .ok []
  let ns := cm.metadata.ns.getD defaultNamespace
  let errors := match ← Pass.store (.listSources ns) with
    | .ok sources => missingNames cm.texts (sources.map (·.spec.shortName))
    | .error e => [.internal "data" ("failed to list sources: " ++ e.message)]
  return .of type cm.metadata errors []

/-- The error of feed groups that some HotNews uses. -/
def useErrors (all : List HotNews) : List FieldError :=
  match all.find? fun h => !h.spec.feedGroups.isEmpty with
  | none => []
  | some h =>
    [.forbidden "data" ("feed groups are in use by HotNews " ++ h.metadata.ns.getD "" ++ "/" ++
      h.metadata.name.getD "")]

/-- The verdict on the deletion of a ConfigMap. -/
def validateDelete (target : FeedGroupRef) (cm : ConfigMap) : Pass Verdict := do
  if !cm.isTarget target then return .ok []
  let errors := match ← Pass.store (.listHotNews none) with
    | .ok all => useErrors all
    | .error e => [.internal "data" ("failed to list hotnews: " ++ e.message)]
  return .of type cm.metadata errors []

end FeedOperator.ConfigMap
