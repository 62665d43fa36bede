import FeedOperator.Resource.ConfigMap
import FeedOperator.Resource.HotNews
import FeedOperator.Resource.Source
import FeedOperator.Store.Error

/-!
# Calls to the resource store

The operator reads single objects and lists, and writes by replacing an object that it has read: a
replace of the object itself keeps the stored status, and a replace of the status keeps the rest.

Model of `ResourceStore` (specification 6 and 10.2).
-/

namespace FeedOperator

/-- An object of one of the three types. -/
inductive Resource where
  | source (s : Source)
  | hotNews (h : HotNews)
  | configMap (cm : ConfigMap)

/-- A call to the store. -/
inductive StoreCall where
  | getSource (ns name : String)
  | listSources (ns : String)
  | replaceSource (source : Source)
  | replaceSourceStatus (source : Source)
  | getHotNews (ns name : String)
  /-- The HotNews of one namespace, or of all. -/
  | listHotNews (ns : Option String)
  | replaceHotNews (hotNews : HotNews)
  | replaceHotNewsStatus (hotNews : HotNews)
  | getConfigMap (ns name : String)

namespace StoreCall

/-- What a call yields when it succeeds. -/
abbrev Result : StoreCall → Type
  | .getSource _ _ => Option Source
  | .listSources _ => List Source
  | .replaceSource _ => Source
  | .replaceSourceStatus _ => Source
  | .getHotNews _ _ => Option HotNews
  | .listHotNews _ => List HotNews
  | .replaceHotNews _ => HotNews
  | .replaceHotNewsStatus _ => HotNews
  | .getConfigMap _ _ => Option ConfigMap

/-- The answer to a call. -/
abbrev Answer (c : StoreCall) : Type :=
  Except StoreError c.Result

end StoreCall

end FeedOperator
