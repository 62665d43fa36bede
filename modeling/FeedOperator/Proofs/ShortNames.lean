import FeedOperator.FeedGroup
import Mathlib.Data.List.TakeWhile

/-!
# Lists of short names, and how they may be written

A list of names is cut at its commas, the blanks around each item are dropped, and items that come
to nothing are left out. So one list of names can be written in many ways: with any blanks around
each name, and with empty and blank items anywhere.

* `Text.AllBlank`, `Text.IsTrimmed`: texts of blanks, and texts without a blank at either end.
* `nameIn?`: the name in one item, if there is one.
* `IsShortName`: what can be a name in such a list.
* `Padded`: items that stand for names, and how they do.

Results:
* `Text.trim_padded`, `Text.trim_spec`: trimming drops the blanks at both ends and nothing else.
* `shortNames_eq_iff`: a text is read as some names iff these can be names and the text is one of
  the ways to write them.
* `shortNames_spelled`: every way of writing names is read as these names, and what was read from
  any text is read again when it is written with bare commas.
-/

namespace FeedOperator

namespace Text

/-! ## Trimming -/

/-- A text of nothing but blanks. -/
def AllBlank (s : List Char) : Prop :=
  ∀ c ∈ s, isBlank c = true

/-- A text that neither starts nor ends with a blank. -/
structure IsTrimmed (s : List Char) : Prop where
  first : ∀ c ∈ s.head?, isBlank c = false
  last : ∀ c ∈ s.getLast?, isBlank c = false

-- Read off the list: as quantifiers over characters these would be decided character by character,
-- over all that there are.
instance (s : List Char) : Decidable (AllBlank s) :=
  decidable_of_iff (s.all isBlank = true) List.all_eq_true

instance (s : List Char) : Decidable (IsTrimmed s) :=
  decidable_of_iff (s.head?.any isBlank = false ∧ s.getLast?.any isBlank = false)
    ((and_congr (Option.any_eq_false _ _) (Option.any_eq_false _ _)).trans
      ⟨fun h => ⟨h.1, h.2⟩, fun h => ⟨h.first, h.last⟩⟩)

theorem allBlank_nil : AllBlank [] :=
  fun _ h => absurd h List.not_mem_nil

theorem isTrimmed_nil : IsTrimmed [] := by
  constructor <;> simp

theorem allBlank_takeWhile (s : List Char) : AllBlank (s.takeWhile isBlank) :=
  fun _ => List.mem_takeWhile_imp

/-- What is left where blanks stopped being dropped does not start with one. -/
theorem head_dropWhile_isBlank (s : List Char) :
    ∀ c ∈ (s.dropWhile isBlank).head?, isBlank c = false := by
  intro c hc
  have first := List.head?_dropWhile_not isBlank s
  rwa [hc] at first

theorem dropBlankEnd_append (s : List Char) {after : List Char} (blank : AllBlank after) :
    dropBlankEnd (s ++ after) = dropBlankEnd s := by
  unfold dropBlankEnd
  rw [List.reverse_append,
    List.dropWhile_append_of_pos fun c hc => blank c (List.mem_reverse.mp hc)]

/-- **Blanks around a trimmed text are dropped.** -/
theorem trim_padded {before s after : List Char} (left : AllBlank before) (trimmed : IsTrimmed s)
    (right : AllBlank after) : trim (before ++ s ++ after) = s := by
  unfold trim
  rw [List.append_assoc, List.dropWhile_append_of_pos left]
  cases s with
  | nil =>
    rw [List.nil_append, List.dropWhile_eq_nil_iff.mpr right]
    rfl
  | cons c rest =>
    have start : ¬isBlank c = true := by simp [trimmed.first c rfl]
    rw [List.cons_append, List.dropWhile_cons_of_neg start, ← List.cons_append,
      dropBlankEnd_append _ right, dropBlankEnd_eq_self trimmed.last]

theorem trim_of_allBlank {s : List Char} (blank : AllBlank s) : trim s = [] := by
  have padded := trim_padded blank isTrimmed_nil allBlank_nil
  rwa [List.append_nil, List.append_nil] at padded

theorem dropBlankEnd_spec (s : List Char) : ∃ after, AllBlank after ∧ s = dropBlankEnd s ++ after ∧
    ∀ c ∈ (dropBlankEnd s).getLast?, isBlank c = false := by
  refine ⟨(s.reverse.takeWhile isBlank).reverse,
    fun c hc => allBlank_takeWhile _ c (List.mem_reverse.mp hc), ?_, ?_⟩
  · unfold dropBlankEnd
    rw [← List.reverse_append, List.takeWhile_append_dropWhile, List.reverse_reverse]
  · unfold dropBlankEnd
    rw [List.getLast?_reverse]
    exact head_dropWhile_isBlank _

/-- **Trimming drops blanks alone, and as many as there are.** -/
theorem trim_spec (s : List Char) : ∃ before after, AllBlank before ∧ AllBlank after ∧
    s = before ++ trim s ++ after ∧ IsTrimmed (trim s) := by
  obtain ⟨after, right, split, last⟩ := dropBlankEnd_spec (s.dropWhile isBlank)
  refine ⟨s.takeWhile isBlank, after, allBlank_takeWhile s, right, ?_, fun c hc => ?_, last⟩
  · rw [List.append_assoc]
    unfold trim
    rw [← split, List.takeWhile_append_dropWhile]
  · -- What is dropped at the end stands behind the first character.
    refine head_dropWhile_isBlank s c ?_
    rw [split, List.head?_append]
    rw [show (dropBlankEnd (s.dropWhile isBlank)).head? = some c from hc]
    rfl

theorem mem_of_mem_trim {s : List Char} {c : Char} (h : c ∈ trim s) : c ∈ s := by
  obtain ⟨before, after, -, -, split, -⟩ := trim_spec s
  rw [split]
  exact List.mem_append_left _ (List.mem_append_right _ h)

/-! ## Cutting -/

theorem joined_eq_intercalate (sep : List Char) (ps : List (List Char)) :
    joined sep ps = sep.intercalate ps := by
  induction ps with
  | nil => rfl
  | cons p qs ih =>
    cases qs with
    | nil => simp [joined]
    | cons q rs => rw [joined, ih, List.intercalate_cons_cons]

theorem notMem_of_mem_pieces {sep : Char} {s p : List Char} (h : p ∈ pieces sep s) : sep ∉ p := by
  induction s generalizing p with
  | nil =>
    rw [pieces, List.mem_singleton] at h
    exact h ▸ List.not_mem_nil
  | cons c rest ih =>
    rw [pieces] at h
    split at h
    · rcases List.mem_cons.mp h with rfl | h
      · exact List.not_mem_nil
      · exact ih h
    · next other =>
      split at h
      · next none => exact absurd none (pieces_ne_nil sep rest)
      · next q qs some =>
        rw [some] at ih
        rcases List.mem_cons.mp h with rfl | h
        · rw [List.mem_cons, not_or]
          exact ⟨Ne.symm other, ih List.mem_cons_self⟩
        · exact ih (List.mem_cons_of_mem q h)

end Text

open Text

/-! ## Names and items -/

/-- What can be a name in a list with commas. -/
structure IsShortName (name : String) : Prop where
  nonempty : name ≠ ""
  commaFree : ',' ∉ name.toList
  trimmed : IsTrimmed name.toList

instance (name : String) : Decidable (IsShortName name) :=
  decidable_of_iff (name ≠ "" ∧ ',' ∉ name.toList ∧ IsTrimmed name.toList)
    ⟨fun h => ⟨h.1, h.2.1, h.2.2⟩, fun h => ⟨h.nonempty, h.commaFree, h.trimmed⟩⟩

/-- Items that stand for names: each name in an item of its own, with blanks on either side, and
empty and blank items anywhere. -/
inductive Padded : List String → List String → Prop
  | nil : Padded [] []
  | blank {items names : List String} {item : String} (blank : AllBlank item.toList)
    (rest : Padded items names) : Padded (item :: items) names
  | name (before name after : String) {items names : List String} (left : AllBlank before.toList)
    (right : AllBlank after.toList) (rest : Padded items names) :
    Padded ((before ++ name ++ after) :: items) (name :: names)

/-- The name in an item, if there is one. -/
def nameIn? (item : List Char) : Option String :=
  if (trim item).isEmpty then none else some (String.ofList (trim item))

theorem shortNames_eq_filterMap (value : String) :
    shortNames value = (pieces ',' value.toList).filterMap nameIn? := by
  unfold shortNames
  induction pieces ',' value.toList with
  | nil => rfl
  | cons item items ih =>
    by_cases h : (trim item).isEmpty = true
    · simpa [nameIn?, h] using ih
    · simpa [nameIn?, h] using ih

theorem isShortName_of_nameIn? {item : List Char} {name : String} (commaFree : ',' ∉ item)
    (h : nameIn? item = some name) : IsShortName name := by
  unfold nameIn? at h
  split at h
  · cases h
  · next nonempty =>
    cases h
    obtain ⟨_, _, -, -, -, trimmed⟩ := trim_spec item
    refine ⟨fun empty => nonempty ?_, ?_, ?_⟩
    · rw [String.ofList_eq_empty_iff.mp empty]
      rfl
    · rw [String.toList_ofList]
      exact fun inside => commaFree (mem_of_mem_trim inside)
    · rwa [String.toList_ofList]

/-! ## Reading what was written -/

variable {items names : List String}

theorem nameIn?_of_allBlank {item : List Char} (blank : AllBlank item) : nameIn? item = none := by
  rw [nameIn?, trim_of_allBlank blank]
  rfl

theorem nameIn?_padded {before after : List Char} {name : String} (valid : IsShortName name)
    (left : AllBlank before) (right : AllBlank after) :
    nameIn? (before ++ name.toList ++ after) = some name := by
  have nonempty : ¬name.toList.isEmpty = true := fun empty =>
    valid.nonempty (String.toList_eq_nil_iff.mp (List.isEmpty_iff.mp empty))
  rw [nameIn?, trim_padded left valid.trimmed right, if_neg nonempty, String.ofList_toList]

theorem Padded.filterMap_eq (padded : Padded items names) (valid : ∀ n ∈ names, IsShortName n) :
    (items.map String.toList).filterMap nameIn? = names := by
  induction padded with
  | nil => rfl
  | blank blank _ ih =>
    rw [List.map_cons, List.filterMap_cons_none (nameIn?_of_allBlank blank), ih valid]
  | name before name after left right _ ih =>
    obtain ⟨here, later⟩ := List.forall_mem_cons.mp valid
    rw [List.map_cons, String.toList_append, String.toList_append,
      List.filterMap_cons_some (nameIn?_padded here left right), ih later]

theorem comma_notMem_of_allBlank {s : List Char} (blank : AllBlank s) : ',' ∉ s := by
  intro inside
  have comma := blank ',' inside
  revert comma
  decide

theorem Padded.commaFree (padded : Padded items names) (valid : ∀ n ∈ names, IsShortName n) :
    ∀ item ∈ items, ',' ∉ item.toList := by
  induction padded with
  | nil => exact fun _ h => absurd h List.not_mem_nil
  | blank blank _ ih =>
    exact List.forall_mem_cons.mpr ⟨comma_notMem_of_allBlank blank, ih valid⟩
  | name before name after left right _ ih =>
    obtain ⟨here, later⟩ := List.forall_mem_cons.mp valid
    refine List.forall_mem_cons.mpr ⟨?_, ih later⟩
    rw [String.toList_append, String.toList_append, List.mem_append, List.mem_append]
    exact not_or.mpr ⟨not_or.mpr ⟨comma_notMem_of_allBlank left, here.commaFree⟩,
      comma_notMem_of_allBlank right⟩

/-- Joined items without commas are what the text is cut into; no items are one empty piece. -/
theorem shortNames_intercalate (commaFree : ∀ item ∈ items, ',' ∉ item.toList) :
    shortNames (",".intercalate items) = (items.map String.toList).filterMap nameIn? := by
  rw [shortNames_eq_filterMap, String.toList_intercalate]
  change (pieces ',' ([','].intercalate _)).filterMap nameIn? = _
  rw [← joined_eq_intercalate]
  by_cases none : items = []
  · subst none
    rfl
  · rw [pieces_joined _ (mt List.map_eq_nil_iff.mp none)]
    intro p hp
    obtain ⟨item, hitem, rfl⟩ := List.mem_map.mp hp
    exact commaFree item hitem

/-- However names are written, they are read. -/
theorem Padded.shortNames_eq (padded : Padded items names) (valid : ∀ n ∈ names, IsShortName n) :
    shortNames (",".intercalate items) = names := by
  rw [shortNames_intercalate (padded.commaFree valid), padded.filterMap_eq valid]

/-! ## How a text was written -/

/-- Whatever the items are, they stand for the names that are in them. -/
theorem padded_filterMap (items : List (List Char)) :
    Padded (items.map String.ofList) (items.filterMap nameIn?) := by
  induction items with
  | nil => exact .nil
  | cons item items ih =>
    obtain ⟨before, after, left, right, split, -⟩ := trim_spec item
    by_cases empty : (trim item).isEmpty = true
    · rw [List.filterMap_cons_none (by rw [nameIn?, if_pos empty])]
      refine .blank ?_ ih
      rw [String.toList_ofList, split, List.isEmpty_iff.mp empty, List.append_nil]
      exact fun c hc => (List.mem_append.mp hc).elim (left c) (right c)
    · rw [List.filterMap_cons_some (by rw [nameIn?, if_neg empty])]
      have written : String.ofList item =
          String.ofList before ++ String.ofList (trim item) ++ String.ofList after := by
        rw [← String.ofList_append, ← String.ofList_append, ← split]
      rw [List.map_cons, written]
      exact .name _ _ _ (by rwa [String.toList_ofList]) (by rwa [String.toList_ofList]) ih

theorem isShortName_of_mem {value n : String} (h : n ∈ shortNames value) : IsShortName n := by
  rw [shortNames_eq_filterMap] at h
  obtain ⟨item, hitem, hname⟩ := List.mem_filterMap.mp h
  exact isShortName_of_nameIn? (notMem_of_mem_pieces hitem) hname

theorem exists_padded (value : String) :
    ∃ items, Padded items (shortNames value) ∧ value = ",".intercalate items := by
  refine ⟨(pieces ',' value.toList).map String.ofList, ?_, ?_⟩
  · rw [shortNames_eq_filterMap]
    exact padded_filterMap _
  · have back : String.toList ∘ String.ofList = id := funext fun _ => String.toList_ofList
    rw [← String.toList_inj, String.toList_intercalate, List.map_map, back, List.map_id]
    exact ((joined_eq_intercalate [','] _).symm.trans (joined_pieces ',' _)).symm

/-- **A text is read as some names iff it is one of the ways to write them.** -/
theorem shortNames_eq_iff {value : String} : shortNames value = names ↔
    (∀ n ∈ names, IsShortName n) ∧ ∃ items, Padded items names ∧ value = ",".intercalate items := by
  constructor
  · rintro rfl
    exact ⟨fun _ => isShortName_of_mem, exists_padded value⟩
  · rintro ⟨valid, items, padded, rfl⟩
    exact padded.shortNames_eq valid

/-- Names stand for themselves. -/
theorem padded_self (names : List String) : Padded names names := by
  induction names with
  | nil => exact .nil
  | cons name names ih =>
    have bare : Padded (("" ++ name ++ "") :: names) (name :: names) :=
      .name "" name "" allBlank_nil allBlank_nil ih
    rwa [String.empty_append, String.append_empty] at bare

/-- **Reading a list of names undoes writing it.** Whatever blanks stand around the names and
whatever empty or blank items between them, the names come back, in their order and as often as they
were written. What is read from any text is nonempty, free of commas and trimmed, and is read once
more when it is joined with commas. -/
theorem shortNames_spelled :
    (∀ names items, (∀ n ∈ names, IsShortName n) → Padded items names →
      shortNames (",".intercalate items) = names) ∧
    ∀ value, (∀ n ∈ shortNames value, IsShortName n) ∧
      shortNames (",".intercalate (shortNames value)) = shortNames value := by
  refine ⟨fun names items valid padded => padded.shortNames_eq valid, fun value => ?_⟩
  have valid : ∀ n ∈ shortNames value, IsShortName n := fun _ => isShortName_of_mem
  exact ⟨valid, (padded_self _).shortNames_eq valid⟩

/-- A name that is there twice, between blanks of several kinds and items without a name. -/
theorem spelled_twice :
    (∀ n ∈ ["hn", "bbc news", "hn"], IsShortName n) ∧
    Padded ["\u3000hn\t", "", " \u2003", "bbc news", "\u00a0hn"] ["hn", "bbc news", "hn"] ∧
    shortNames "\u3000hn\t,, \u2003,bbc news,\u00a0hn" = ["hn", "bbc news", "hn"] := by
  have valid : ∀ n ∈ ["hn", "bbc news", "hn"], IsShortName n := by decide
  have wide : AllBlank "\u3000".toList := by decide
  have tab : AllBlank "\t".toList := by decide
  have spaces : AllBlank " \u2003".toList := by decide
  have noBreak : AllBlank "\u00a0".toList := by decide
  have padded : Padded ["\u3000hn\t", "", " \u2003", "bbc news", "\u00a0hn"]
      ["hn", "bbc news", "hn"] :=
    .name "\u3000" "hn" "\t" wide tab (.blank allBlank_nil (.blank spaces
      (.name "" "bbc news" "" allBlank_nil allBlank_nil
        (.name "\u00a0" "hn" "" noBreak allBlank_nil .nil))))
  exact ⟨valid, padded, shortNames_spelled.1 _ _ valid padded⟩

end FeedOperator
