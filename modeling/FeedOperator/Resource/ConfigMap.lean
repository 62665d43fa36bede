import FeedOperator.Resource.Meta

/-!
# ConfigMaps

A ConfigMap holds texts under keys. The one that the operator is pointed at holds the feed groups.

Model of what `config_data` reads of a ConfigMap.
-/

namespace FeedOperator

/-- Texts under keys, with the keys in ascending order. -/
structure ConfigMap where
  metadata : Meta := {}
  data : Option (List (String × String)) := none
  /-- Octets under keys, in base 64. -/
  binaryData : Option (List (String × String)) := none
  immutable : Option Bool := none

namespace ConfigMap

/-- The type of ConfigMaps. -/
def type : ResourceType := ⟨"", "v1", "ConfigMap", "configmaps"⟩

/-- The texts, of which there may be none. -/
def texts (cm : ConfigMap) : List (String × String) :=
  cm.data.getD []

end ConfigMap

end FeedOperator
