import FeedOperator.Aggregator.Basic
import FeedOperator.Resource.ConfigMap
import FeedOperator.Resource.HotNews

/-!
# The JSON form of resources

A spec and a status are written with all their fields. Metadata is written with the fields that are
set, and a status only if there is one.
-/

namespace FeedOperator

/-- A number with a sign. -/
def Json.ofInt64 (n : Int64) : Json := .num n.toInt

/-- Texts under keys. -/
def Json.ofTexts (texts : List (String × String)) : Json :=
  .obj (texts.map fun (k, v) => (k, .str v))

namespace Condition

/-- The word for a kind. -/
def Kind.text : Kind → String
  | .added => "Added"
  | .updated => "Updated"

/-- The word for a status. -/
def Status.text : Status → String
  | .holds => "True"
  | .fails => "False"
  | .unknown => "Unknown"

/-- A condition with all its fields. -/
def toJson (c : Condition) : Json :=
  .obj [("type", .str c.kind.text), ("status", .str c.status.text),
    ("lastUpdateTime", .str c.lastUpdateTime), ("reason", .str c.reason),
    ("message", .str c.message)]

end Condition

/-- An owner reference with the fields that are set. -/
def OwnerReference.toJson (r : OwnerReference) : Json :=
  .ofPresent [("apiVersion", some (.str r.apiVersion)),
    ("blockOwnerDeletion", r.blockOwnerDeletion.map .bool),
    ("controller", r.controller.map .bool),
    ("kind", some (.str r.kind)), ("name", some (.str r.name)), ("uid", some (.str r.uid))]

/-- The fields that are set. -/
def FieldOwnership.toJson (f : FieldOwnership) : Json :=
  .ofPresent [("apiVersion", f.apiVersion.map .str), ("fieldsType", f.fieldsType.map .str),
    ("fieldsV1", f.fields), ("manager", f.manager.map .str), ("operation", f.operation.map .str),
    ("subresource", f.subresource.map .str), ("time", f.time.map (.str ·.text))]

/-- The fields that are set. -/
def Meta.toJson (m : Meta) : Json :=
  .ofPresent [("annotations", m.annotations.map .ofTexts),
    ("creationTimestamp", m.creationTimestamp.map (.str ·.text)),
    ("deletionGracePeriodSeconds", m.deletionGracePeriodSeconds.map .ofInt64),
    ("deletionTimestamp", m.deletionTimestamp.map (.str ·.text)),
    ("finalizers", m.finalizers.map .ofStrings),
    ("generateName", m.generateName.map .str),
    ("generation", m.generation.map .ofInt64),
    ("labels", m.labels.map .ofTexts),
    ("managedFields", m.managedFields.map fun fs => .arr (fs.map (·.toJson))),
    ("name", m.name.map .str),
    ("namespace", m.ns.map .str),
    ("ownerReferences", m.ownerReferences.map fun rs => .arr (rs.map (·.toJson))),
    ("resourceVersion", m.resourceVersion.map .str),
    ("selfLink", m.selfLink.map .str),
    ("uid", m.uid.map .str)]

/-- A spec with all its fields. -/
def SourceSpec.toJson (s : SourceSpec) : Json :=
  .obj [("id", .ofInt64 s.id), ("name", .str s.name), ("link", .str s.link),
    ("shortName", .str s.shortName)]

/-- A status with all its fields. -/
def SourceStatus.toJson (s : SourceStatus) : Json :=
  .obj [("id", .ofInt64 s.id), ("conditions", .arr (s.conditions.map (·.toJson)))]

/-- The configuration of a summary. -/
def SummaryConfig.toJson (c : SummaryConfig) : Json :=
  .obj [("titlesCount", .num c.titlesCount.toNat)]

/-- A spec with all its fields; a date that is not set is `null`. -/
def HotNewsSpec.toJson (s : HotNewsSpec) : Json :=
  .obj [("keywords", .ofStrings s.keywords), ("dateStart", .ofString? s.dateStart),
    ("dateEnd", .ofString? s.dateEnd), ("sources", .ofStrings s.sources),
    ("feedGroups", .ofStrings s.feedGroups), ("summaryConfig", s.summaryConfig.toJson)]

/-- A status with all its fields. -/
def HotNewsStatus.toJson (s : HotNewsStatus) : Json :=
  .obj [("articlesCount", .num s.articlesCount), ("newsLink", .str s.newsLink),
    ("articlesTitles", .ofStrings s.articlesTitles),
    ("conditions", .arr (s.conditions.map (·.toJson)))]

/-- An object with its type. -/
def Object.toJson {σ τ : Type} (type : ResourceType) (spec : σ → Json) (status : τ → Json)
    (o : Object σ τ) : Json :=
  .ofPresent [("apiVersion", some (.str type.apiVersion)), ("kind", some (.str type.kind)),
    ("metadata", some o.metadata.toJson), ("spec", some (spec o.spec)),
    ("status", o.status.map status)]

/-- A Source as an object. -/
def Source.toJson (s : Source) : Json :=
  Object.toJson Source.type SourceSpec.toJson SourceStatus.toJson s

/-- A HotNews as an object. -/
def HotNews.toJson (h : HotNews) : Json :=
  Object.toJson HotNews.type HotNewsSpec.toJson HotNewsStatus.toJson h

/-- A ConfigMap as an object. -/
def ConfigMap.toJson (cm : ConfigMap) : Json :=
  .ofPresent [("apiVersion", some (.str ConfigMap.type.apiVersion)),
    ("kind", some (.str ConfigMap.type.kind)),
    ("binaryData", cm.binaryData.map .ofTexts), ("data", cm.data.map .ofTexts),
    ("immutable", cm.immutable.map .bool), ("metadata", some cm.metadata.toJson)]

/-- An article with all its fields. -/
def Article.toJson (a : Article) : Json :=
  .obj [("Id", .ofInt64 a.id), ("Title", .str a.title), ("Description", .str a.description),
    ("Link", .str a.link), ("Source", .str a.source), ("PubDate", .str a.pubDate)]

/-- The search of a query. -/
def ArticleQuery.toJson (q : ArticleQuery) : Json :=
  .obj [("keywords", .ofStrings q.keywords), ("dateStart", .ofString? q.dateStart),
    ("dateEnd", .ofString? q.dateEnd), ("sources", .ofStrings q.sources)]

end FeedOperator
