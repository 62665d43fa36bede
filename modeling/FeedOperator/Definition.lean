import FeedOperator.Definition.Schema
import FeedOperator.Resource.Encode
import FeedOperator.Yaml

/-!
# Definitions of the resources

The platform has to be told of Sources and HotNews before it stores any: their names, the columns in
which they are listed, and their schemas. The conditions have one schema for both.

Model of the `crdgen` program and of the attributes of `SourceSpec` and `HotNewsSpec` (specification
10.1).

* `Source.definition`, `HotNews.definition`: the two definitions.
* `definitionsText`: both as one stream of YAML documents.
-/

namespace FeedOperator

/-- A column of a listing. -/
structure Column where
  path : String
  name : String
  type : String

/-- What the platform is told of a type of resources. -/
structure Definition where
  type : ResourceType
  singular : String
  shortName : String
  columns : List Column
  /-- The name of the structure of a spec. -/
  specName : String
  spec : Schema
  status : Schema

namespace Column

/-- A column as the platform reads it. -/
def toJson (c : Column) : Json :=
  .obj [("jsonPath", .str c.path), ("name", .str c.name), ("type", .str c.type)]

end Column

namespace Definition

/-- The schema of a whole object, which has to have a spec. -/
def schema (d : Definition) : Schema :=
  .record
    { description := some
        ("Auto-generated derived type for " ++ d.specName ++ " via \x60CustomResource\x60")
      title := some d.type.kind }
    [("spec", d.spec), ("status", d.status)] ["spec"]

/-- The names of the type. -/
def namesJson (d : Definition) : Json :=
  .obj [("categories", .arr []), ("kind", .str d.type.kind), ("plural", .str d.type.plural),
    ("shortNames", .ofStrings [d.shortName]), ("singular", .str d.singular)]

/-- The one version of the type. -/
def versionJson (d : Definition) : Json :=
  .obj [("additionalPrinterColumns", .arr (d.columns.map (·.toJson))),
    ("name", .str d.type.version),
    ("schema", .obj [("openAPIV3Schema", d.schema.toJson)]),
    ("served", .bool true), ("storage", .bool true),
    ("subresources", .obj [("status", .obj [])])]

/-- The definition as the platform reads it, its members in the order of their names. -/
def toJson (d : Definition) : Json :=
  Json.sorted <| .obj [("apiVersion", .str "apiextensions.k8s.io/v1"),
    ("kind", .str "CustomResourceDefinition"),
    ("metadata", .obj [("name", .str (d.type.plural ++ "." ++ d.type.group))]),
    ("spec", .obj [("group", .str d.type.group), ("names", d.namesJson),
      ("scope", .str "Namespaced"), ("versions", .arr [d.versionJson])])]

end Definition

/-! ## Schemas -/

/-- A text that may be missing. -/
def Schema.optionalText (description : Option String) : Schema :=
  .text { description := description, default := some (.str "") } []

/-- A list of texts that may be missing. -/
def Schema.optionalTexts (description : Option String) : Schema :=
  .list { description := description, default := some (.arr []) } (.text {} [])

namespace Condition

/-- What is said of the kinds of conditions. -/
def kindDescription : String :=
  "Condition type recorded by the reconcilers.\n\n" ++
    "The first status update ever written on a resource is \x60Added\x60; " ++
    "every later one is \x60Updated\x60, regardless of whether the pass succeeded."

/-- The schema of a condition. -/
def schema : Schema :=
  .record { description := some "Kubernetes-style condition" }
    [("lastUpdateTime",
        .text { description := some "RFC 3339 timestamp of the last change" } []),
      ("message", .text {} []),
      ("reason",
        .text { description := some "Machine-readable reason, e.g. \x60SuccessfulCreation\x60" }
          []),
      ("status", .text {} [Status.holds.text, Status.fails.text, Status.unknown.text]),
      ("type", .text { description := some kindDescription }
        [Kind.added.text, Kind.updated.text])]
    ["lastUpdateTime", "message", "reason", "status", "type"]

/-- The schema of a list of conditions. -/
def listSchema : Schema :=
  .list { default := some (.arr []) } schema

end Condition

/-- The schema of a Source's spec. -/
def SourceSpec.schema : Schema :=
  .record { description := some "Source spec - a single news feed" }
    [("id", .integer
        { description := some "Aggregator id (0 while unassigned)", default := some (.num 0) }
        "int64" false),
      ("link", .optionalText "Feed URL"),
      ("name", .optionalText "Display name"),
      ("shortName", .optionalText "Search key referenced by HotNews \x60sources\x60")]
    []

/-- The schema of a Source's status. -/
def SourceStatus.schema : Schema :=
  .record { description := some "Source status", nullable := true }
    [("conditions", Condition.listSchema),
      ("id", .integer
        { description :=
            some "Id assigned by the aggregation service, authoritative once non-zero"
          default := some (.num 0) }
        "int64" false)]
    []

/-- The definition of Sources. -/
def Source.definition : Definition :=
  { type := Source.type
    singular := "source"
    shortName := "src"
    columns := [⟨".spec.shortName", "Short Name", "string"⟩, ⟨".spec.link", "Link", "string"⟩,
      ⟨".status.id", "ID", "integer"⟩]
    specName := "SourceSpec"
    spec := SourceSpec.schema
    status := SourceStatus.schema }

/-- The schema of the configuration of a summary. -/
def SummaryConfig.schema : Schema :=
  .record { default := some (SummaryConfig.toJson {}) }
    [("titlesCount", .integer { default := some (.num 0) } "uint32" true)] []

/-- The schema of a HotNews' spec. -/
def HotNewsSpec.schema : Schema :=
  .record
    { description := some "HotNews spec - keywords, date window and the sources to search" }
    [("dateEnd", .text
        { description := some "Inclusive end date, \x60YYYY-MM-DD\x60", nullable := true } []),
      ("dateStart", .text
        { description := some "Inclusive start date, \x60YYYY-MM-DD\x60", nullable := true } []),
      ("feedGroups", .optionalTexts "Keys into the feed-group ConfigMap"),
      ("keywords", .optionalTexts none),
      ("sources", .optionalTexts "Source short names"),
      ("summaryConfig", SummaryConfig.schema)]
    []

/-- The schema of a HotNews' status. -/
def HotNewsStatus.schema : Schema :=
  .record { description := some "HotNews status", nullable := true }
    [("articlesCount", .integer { default := some (.num 0) } "uint" true),
      ("articlesTitles", .optionalTexts none),
      ("conditions", Condition.listSchema),
      ("newsLink", .optionalText "Query URL used for the last fetch")]
    []

/-- The definition of HotNews. -/
def HotNews.definition : Definition :=
  { type := HotNews.type
    singular := "hotnews"
    shortName := "hn"
    columns := [⟨".status.articlesCount", "Articles", "integer"⟩,
      ⟨".status.conditions[0].reason", "Reason", "string"⟩]
    specName := "HotNewsSpec"
    spec := HotNewsSpec.schema
    status := HotNewsStatus.schema }

/-- Both definitions as one stream of YAML documents. -/
def definitionsText : String :=
  Yaml.document Source.definition.toJson ++ "---\n" ++ Yaml.document HotNews.definition.toJson

end FeedOperator
