import FeedOperator.Proofs.Json.Respelling
import FeedOperator.Resource.Decode

/-!
# Resources: what is written is read

Specs, statuses, conditions and articles are written with all their members in a fixed order, and
read from members in any order, with unknown ones among them and usual ones left out. So a value
comes back from its own text and from that of another program.

* `layout`, for each type: the names of its members as they are written, which of them may be left
  out if they hold which value, and which of them are structures or lists of structures.
* `RoundTrips`: a value comes back from its text, and from any other spelling of it.

Results:
* `read_seen`, `keeps`, for each type: a value is read as it was written; respelling it keeps that.
* `resources_roundTrip`: each value of each type comes back.

A count of articles is a natural number here, and one of 64 bits where it is read.
-/

namespace FeedOperator

/-! ## Simple values -/

namespace Reading

variable {α σ : Type} {room : Nat}

theorem asInt_seen {least most n : Int} (low : least ≤ n) (high : n ≤ most)
    (signed : -9223372036854775808 ≤ least) (word : most ≤ 18446744073709551615) :
    asInt least most ((Json.num n).seen room) = .ok n := by
  rw [Json.seen, ofNumeral_ofInt (by omega) (by omega), asInt, if_pos ⟨low, high⟩]

theorem asInt64_seen (n : Int64) : asInt64 ((Json.ofInt64 n).seen room) = .ok n := by
  have low : -9223372036854775808 ≤ n.toInt := n.le_toInt
  have high : n.toInt < 9223372036854775808 := n.toInt_lt
  rw [asInt64, Json.ofInt64, asInt_seen low (by omega) (by decide) (by decide)]
  exact congrArg Except.ok n.ofInt_toInt

theorem asUInt32_seen (n : UInt32) : asUInt32 ((Json.num n.toNat).seen room) = .ok n := by
  have bound := n.toNat_lt
  rw [asUInt32, asInt_seen (by omega) (by omega) (by decide) (by decide)]
  exact congrArg Except.ok (by simp)

theorem asCount_seen {n : Nat} (word : n ≤ 18446744073709551615) :
    asCount ((Json.num n).seen room) = .ok n := by
  rw [asCount, asInt_seen (by omega) (by omega) (by decide) (by decide)]
  rfl

theorem asOption_seen (s : Option String) :
    asOption asString ((Json.ofString? s).seen room) = .ok s := by
  cases s <;> rfl

theorem asList_seen {toJson : α → Json} {read : Reading → Decoded α} (deep : room ≠ 0) {xs : List α}
    (each : ∀ x, read ((toJson x).seen (room - 1)) = .ok x) :
    asList read ((Json.arr (xs.map toJson)).seen room) = .ok xs := by
  refine asList_seen_iff.mpr ⟨deep, ?_⟩
  rw [List.forall₂_map_left_iff, List.forall₂_same]
  exact fun x _ => each x

theorem asStrings_seen (deep : room ≠ 0) (names : List String) :
    asStrings ((Json.ofStrings names).seen room) = .ok names :=
  asList_seen deep fun _ => rfl

/-- A member that is read and put. -/
theorem Reads.put {fields : List (Field σ)} {members : List (Option String × Reading)}
    {puts : Puts σ} {k : String} {presence : Presence} {read : Reading → Decoded α}
    {put : α → σ → σ} {r : Reading} {x : α}
    (found : fields.find? (·.name == k) = some (.of k presence read put)) (h : read r = .ok x)
    (rest : Reads fields members puts) :
    Reads fields ((some k, r) :: members) ((k, put x) :: puts) :=
  .known found (Field.read_of_eq_ok_iff.mpr ⟨x, h, rfl⟩) rest

end Reading

open Reading

namespace Condition

/-- A condition, all of whose members have to be there. -/
def layout : Layout := .object [("type", none, .plain), ("status", none, .plain),
  ("lastUpdateTime", none, .plain), ("reason", none, .plain), ("message", none, .plain)]

theorem read_seen (c : Condition) {room : Nat} (deep : room ≠ 0) :
    read (c.toJson.seen room) = .ok c := by
  obtain ⟨room, rfl⟩ := Nat.exists_eq_succ_of_ne_zero deep
  obtain ⟨kind, status, _, _, _⟩ := c
  cases kind <;> cases status <;> rfl

theorem keeps : Keeps layout read :=
  keeps_object {
    lays := .cons (.required (keeps_plain _)) <| .cons (.required (keeps_plain _)) <|
      .cons (.required (keeps_plain _)) <| .cons (.required (keeps_plain _)) <|
      .cons (.required (keeps_plain _)) .nil
    names := by decide
    apart := by simp [fields] }

end Condition

namespace SourceSpec

/-- A spec of a feed, any of whose members may be left out. -/
def layout : Layout := .object [("id", some (.num 0), .plain), ("name", some (.str ""), .plain),
  ("link", some (.str ""), .plain), ("shortName", some (.str ""), .plain)]

theorem read_seen (s : SourceSpec) {room : Nat} (deep : room ≠ 0) :
    read (s.toJson.seen room) = .ok s :=
  asRecord_seen_iff.mpr ⟨deep, _,
    .put rfl (asInt64_seen s.id) <| .put rfl rfl <| .put rfl rfl <| .put rfl rfl .nil,
    by simp, by simp [fields, Field.of], rfl⟩

theorem keeps : Keeps layout read :=
  keeps_object {
    lays := .cons (.optional (by decide) (.of_eq fun _ => asInt64_seen 0) rfl (keeps_plain _)) <|
      .cons (.optional (by decide) (.of_eq fun _ => rfl) rfl (keeps_plain _)) <|
      .cons (.optional (by decide) (.of_eq fun _ => rfl) rfl (keeps_plain _)) <|
      .cons (.optional (by decide) (.of_eq fun _ => rfl) rfl (keeps_plain _)) .nil
    names := by decide
    apart := by simp [fields] }

end SourceSpec

namespace SourceStatus

/-- A status of a feed, any of whose members may be left out. -/
def layout : Layout := .object [("id", some (.num 0), .plain),
  ("conditions", some (.arr []), .list Condition.layout)]

theorem read_seen (s : SourceStatus) {room : Nat} (deep : 2 < room) :
    read (s.toJson.seen room) = .ok s :=
  asRecord_seen_iff.mpr ⟨by omega, _,
    .put rfl (asInt64_seen s.id) <|
    .put rfl (asList_seen (by omega) fun c => c.read_seen (by omega)) .nil,
    by simp, by simp [fields, Field.of], rfl⟩

theorem keeps : Keeps layout read :=
  keeps_object {
    lays := .cons (.optional (by decide) (.of_eq fun _ => asInt64_seen 0) rfl (keeps_plain _)) <|
      .cons (.optional (by decide) readOnlyAs_nil rfl (keeps_list Condition.keeps)) .nil
    names := by decide
    apart := by simp [fields] }

end SourceStatus

namespace SummaryConfig

/-- The configuration of a summary. -/
def layout : Layout := .object [("titlesCount", some (.num 0), .plain)]

theorem read_seen (c : SummaryConfig) {room : Nat} (deep : room ≠ 0) :
    read (c.toJson.seen room) = .ok c :=
  asRecord_seen_iff.mpr ⟨deep, _, .put rfl (asUInt32_seen c.titlesCount) .nil,
    by simp, by simp [Field.of], rfl⟩

theorem keeps : Keeps layout read :=
  keeps_object {
    lays := .cons (.optional (by decide) (.of_eq fun _ => asUInt32_seen 0) rfl (keeps_plain _)) .nil
    names := by decide
    apart := by simp }

/-- The usual configuration is read as such. -/
theorem readOnlyAs_usual : ReadOnlyAs read (.obj [("titlesCount", .num 0)]) {} := by
  intro room c h
  have deep := (asRecord_seen_iff.mp h).1
  exact Except.ok.inj (h.symm.trans (read_seen {} deep))

end SummaryConfig

namespace HotNewsSpec

/-- A standing query, any of whose members may be left out. -/
def layout : Layout := .object [("keywords", some (.arr []), .plain),
  ("dateStart", some .null, .plain), ("dateEnd", some .null, .plain),
  ("sources", some (.arr []), .plain), ("feedGroups", some (.arr []), .plain),
  ("summaryConfig", some (.obj [("titlesCount", .num 0)]), SummaryConfig.layout)]

theorem read_seen (s : HotNewsSpec) {room : Nat} (deep : 1 < room) :
    read (s.toJson.seen room) = .ok s :=
  asRecord_seen_iff.mpr ⟨by omega, _,
    .put rfl (asStrings_seen (by omega) s.keywords) <|
    .put rfl (asOption_seen s.dateStart) <|
    .put rfl (asOption_seen s.dateEnd) <|
    .put rfl (asStrings_seen (by omega) s.sources) <|
    .put rfl (asStrings_seen (by omega) s.feedGroups) <|
    .put rfl (s.summaryConfig.read_seen (by omega)) .nil,
    by simp, by simp [fields, Field.of], rfl⟩

theorem keeps : Keeps layout read :=
  keeps_object {
    lays := .cons (.optional (by decide) readOnlyAs_nil rfl (keeps_plain _)) <|
      .cons (.optional (by decide) (.of_eq fun _ => rfl) rfl (keeps_plain _)) <|
      .cons (.optional (by decide) (.of_eq fun _ => rfl) rfl (keeps_plain _)) <|
      .cons (.optional (by decide) readOnlyAs_nil rfl (keeps_plain _)) <|
      .cons (.optional (by decide) readOnlyAs_nil rfl (keeps_plain _)) <|
      .cons (.optional (by decide) SummaryConfig.readOnlyAs_usual rfl SummaryConfig.keeps) .nil
    names := by decide
    apart := by simp [fields] }

end HotNewsSpec

namespace HotNewsStatus

/-- A status of a standing query, any of whose members may be left out. -/
def layout : Layout := .object [("articlesCount", some (.num 0), .plain),
  ("newsLink", some (.str ""), .plain), ("articlesTitles", some (.arr []), .plain),
  ("conditions", some (.arr []), .list Condition.layout)]

theorem read_seen (s : HotNewsStatus) (word : s.articlesCount ≤ 18446744073709551615)
    {room : Nat} (deep : 2 < room) : read (s.toJson.seen room) = .ok s :=
  asRecord_seen_iff.mpr ⟨by omega, _,
    .put rfl (asCount_seen word) <|
    .put rfl rfl <|
    .put rfl (asStrings_seen (by omega) s.articlesTitles) <|
    .put rfl (asList_seen (by omega) fun c => c.read_seen (by omega)) .nil,
    by simp, by simp [fields, Field.of], rfl⟩

theorem keeps : Keeps layout read :=
  keeps_object {
    lays := .cons (.optional (by decide) (.of_eq fun _ => asCount_seen (by decide)) rfl
        (keeps_plain _)) <|
      .cons (.optional (by decide) (.of_eq fun _ => rfl) rfl (keeps_plain _)) <|
      .cons (.optional (by decide) readOnlyAs_nil rfl (keeps_plain _)) <|
      .cons (.optional (by decide) readOnlyAs_nil rfl (keeps_list Condition.keeps)) .nil
    names := by decide
    apart := by simp [fields] }

end HotNewsStatus

namespace Article

/-- An article, of which only the title has to be there. -/
def layout : Layout := .object [("Id", some (.num 0), .plain), ("Title", none, .plain),
  ("Description", some (.str ""), .plain), ("Link", some (.str ""), .plain),
  ("Source", some (.str ""), .plain), ("PubDate", some (.str ""), .plain)]

theorem read_seen (a : Article) {room : Nat} (deep : room ≠ 0) :
    read (a.toJson.seen room) = .ok a :=
  asRecord_seen_iff.mpr ⟨deep, _,
    .put rfl (asInt64_seen a.id) <| .put rfl rfl <| .put rfl rfl <| .put rfl rfl <|
    .put rfl rfl <| .put rfl rfl .nil,
    by simp, by simp [fields, Field.of], rfl⟩

theorem keeps : Keeps layout read :=
  keeps_object {
    lays := .cons (.optional (by decide) (.of_eq fun _ => asInt64_seen 0) rfl (keeps_plain _)) <|
      .cons (.required (keeps_plain _)) <|
      .cons (.optional (by decide) (.of_eq fun _ => rfl) rfl (keeps_plain _)) <|
      .cons (.optional (by decide) (.of_eq fun _ => rfl) rfl (keeps_plain _)) <|
      .cons (.optional (by decide) (.of_eq fun _ => rfl) rfl (keeps_plain _)) <|
      .cons (.optional (by decide) (.of_eq fun _ => rfl) rfl (keeps_plain _)) .nil
    names := by decide
    apart := by simp [fields] }

end Article

/-! ## Whole texts -/

/-- A value that comes back from its text, however that is spelled. -/
structure RoundTrips {α : Type} (layout : Layout) (read : Reading → Decoded α) (written : Json)
    (x : α) : Prop where
  text : (Document.ofText written.compact).decode read = .ok x
  respelled : ∀ v, Respelled layout written v → (Document.ofText v.compact).decode read = .ok x

theorem RoundTrips.of_keeps {α : Type} {layout : Layout} {read : Reading → Decoded α}
    {written : Json} {x : α} (keeps : Keeps layout read)
    (reads : read (written.seen levels) = .ok x) : RoundTrips layout read written x := by
  have each : ∀ v, Respelled layout written v →
      (Document.ofText v.compact).decode read = .ok x := fun v respelled => by
    rw [Document.ofText_compact, Document.decode]
    exact Decoded.bind_eq_ok_iff.mpr ⟨x, keeps.respelled respelled reads, rfl⟩
  exact ⟨each written .refl, each⟩

/-- **Every value of the resource model comes back from its text**: also if members stand in
another order, unknown ones are added, and usual ones are left out, in it and in all that is
within. -/
theorem resources_roundTrip :
    (∀ s : SourceSpec, RoundTrips SourceSpec.layout SourceSpec.read s.toJson s) ∧
    (∀ s : SourceStatus, RoundTrips SourceStatus.layout SourceStatus.read s.toJson s) ∧
    (∀ s : HotNewsSpec, RoundTrips HotNewsSpec.layout HotNewsSpec.read s.toJson s) ∧
    (∀ c : SummaryConfig, RoundTrips SummaryConfig.layout SummaryConfig.read c.toJson c) ∧
    (∀ s : HotNewsStatus, s.articlesCount ≤ 18446744073709551615 →
      RoundTrips HotNewsStatus.layout HotNewsStatus.read s.toJson s) ∧
    (∀ c : Condition, RoundTrips Condition.layout Condition.read c.toJson c) ∧
    ∀ a : Article, RoundTrips Article.layout Article.read a.toJson a := by
  have deep : 2 < levels := by decide
  refine ⟨fun s => .of_keeps SourceSpec.keeps (s.read_seen (by omega)),
    fun s => .of_keeps SourceStatus.keeps (s.read_seen deep),
    fun s => .of_keeps HotNewsSpec.keeps (s.read_seen (by omega)),
    fun c => .of_keeps SummaryConfig.keeps (c.read_seen (by omega)),
    fun s word => .of_keeps HotNewsStatus.keeps (s.read_seen word deep),
    fun c => .of_keeps Condition.keeps (c.read_seen (by omega)),
    fun a => .of_keeps Article.keeps (a.read_seen (by omega))⟩

/-- A status with its members in another order, with one that is unknown, in it and in its
condition, and without the link, which is empty. -/
theorem status_roundTrips :
    5 ≤ 18446744073709551615 ∧
      (Document.ofText (Json.obj [("color", .arr [.null, .real ⟨true, 1⟩]),
        ("conditions", .arr [.obj [("hint", .str "none"), ("status", .str "True"),
          ("type", .str "Added"), ("lastUpdateTime", .str "noon"), ("reason", .str "Done"),
          ("message", .str "")]]),
        ("articlesCount", .num 5), ("articlesTitles", .arr [.str "\"One\""])]).compact).decode
          HotNewsStatus.read =
        .ok ⟨5, "", ["\"One\""], [⟨.added, .holds, "noon", "Done", ""⟩]⟩ := by
  have word : 5 ≤ 18446744073709551615 := by decide
  refine ⟨word, (resources_roundTrip.2.2.2.2.1 ⟨5, "", ["\"One\""],
    [⟨.added, .holds, "noon", "Done", ""⟩]⟩ word).respelled _ ?_⟩
  -- What is done to the condition is done to the status.
  have within : ∀ {v w : Json} {members : List (String × Json)},
      Respelling Condition.layout v w → Respelling HotNewsStatus.layout
        (.obj (("conditions", .arr [v]) :: members)) (.obj (("conditions", .arr [w]) :: members)) :=
    fun inner => .member (.tail _ (.tail _ (.tail _ (.head _))))
      (@Respelling.item _ [] [] _ _ inner)
  refine .head (.order (.trans (.swap _ _ _)
    (.cons _ (.trans (.cons _ (.swap _ _ [])) (.swap _ _ _))))) ?_
  refine .head (.drop (.tail _ (.head _))) ?_
  refine .head (within (.order (.swap _ _ _))) ?_
  refine .head (within (@Respelling.add _ _ "hint" (.str "none") (by decide))) ?_
  exact .single (.add _ (by decide))

end FeedOperator
