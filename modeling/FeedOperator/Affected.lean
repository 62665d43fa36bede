import FeedOperator.FeedGroup
import FeedOperator.Resource.ConfigMap
import FeedOperator.Resource.HotNews
import FeedOperator.Resource.Source

/-!
# HotNews affected by a change

A change of a Source, or of the ConfigMap with the feed groups, makes some HotNews due for another
pass. Both maps look at nothing but what is handed to them, and answer with references in strictly
ascending order of namespace and name.

Model of `hotnews_for_source` and `hotnews_for_feed_groups` with `object_ref` and `sorted_unique`
(specification 4.3).

* `affectedBySource`: the HotNews of the namespace of a Source that search it.
* `affectedByFeedGroups`: the HotNews with a group that stands for something, now or before.
-/

namespace FeedOperator

/-- Names an object within its kind. -/
structure ObjectKey where
  ns : String
  name : String
  deriving DecidableEq

namespace ObjectKey

/-- Whether one key comes before another: first by namespace, then by name. -/
def before (a b : ObjectKey) : Bool :=
  decide (a.ns < b.ns) || (a.ns == b.ns && decide (a.name < b.name))

/-- Puts a key into an ascending list that lacks it. -/
def insert (k : ObjectKey) : List ObjectKey → List ObjectKey
  | [] => [k]
  | k' :: rest =>
    if k = k' then k' :: rest
    else if k.before k' then k :: k' :: rest
    else k' :: insert k rest

/-- The keys in ascending order, each once. -/
def ascending (keys : List ObjectKey) : List ObjectKey :=
  keys.foldr insert []

/-- The key of an object that has a namespace and a name. -/
def ofMeta? (m : Meta) : Option ObjectKey := do
  return ⟨← m.ns, ← m.name⟩

theorem ofMeta?_eq_some_iff {m : Meta} {key : ObjectKey} :
    ofMeta? m = some key ↔ m.ns = some key.ns ∧ m.name = some key.name := by
  obtain ⟨ns, name⟩ := key
  cases hns : m.ns <;> cases hname : m.name <;> simp [ofMeta?, hns, hname]

end ObjectKey

/-- The HotNews in the namespace of a Source that search it, themselves or by a feed group. Feed
groups that could not be read count as none. -/
def affectedBySource (source : Source) (hotNews : List HotNews) (groups : Option FeedGroups) :
    List ObjectKey :=
  let name := source.spec.shortName
  if name.isEmpty then []
  else
    ObjectKey.ascending <|
      (hotNews.filter fun h =>
        h.metadata.ns == source.metadata.ns &&
          (h.spec.sources.contains name ||
            groups.any fun g => (g.resolveGroups h.spec.feedGroups).contains name))
      |>.filterMap (ObjectKey.ofMeta? ·.metadata)

/-- The HotNews with a feed group that stands for something in the ConfigMap, or did so before.
Another ConfigMap affects none. -/
def affectedByFeedGroups (cm : ConfigMap) (target : FeedGroupRef) (hotNews : List HotNews)
    (previous : Option FeedGroups) : List ObjectKey :=
  if target.isAt cm.metadata.ns cm.metadata.name then
    ObjectKey.ascending <|
      (hotNews.filter fun h =>
        FeedGroups.anyResolves cm.texts h.spec.feedGroups ||
          previous.any fun old => old.anyResolves h.spec.feedGroups)
      |>.filterMap (ObjectKey.ofMeta? ·.metadata)
  else []

/-- The feed groups to remember after an event: those of the ConfigMap if it is the one. -/
def rememberedFeedGroups (cm : ConfigMap) (target : FeedGroupRef)
    (previous : Option FeedGroups) : Option FeedGroups :=
  if target.isAt cm.metadata.ns cm.metadata.name then some cm.texts else previous

end FeedOperator
