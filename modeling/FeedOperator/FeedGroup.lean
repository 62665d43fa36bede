import FeedOperator.Text.Blank
import FeedOperator.Text.Pieces

/-!
# Feed groups

A feed group is a key of one ConfigMap; the text under it lists short names of Sources with commas
between them. A HotNews may name groups, and searches the Sources that they list as well as those
it names itself.

Model of `split_short_names`, `config_data`, `resolve_group`, `resolve_groups`, `effective_sources`,
`any_group_resolves` and `FeedGroupRef` (specification 3 and 4.2).

* `shortNames`: the names of a list, blanks around them dropped, empty ones left out.
* `resolveGroup`, `resolveGroups`: what one group and several groups stand for.
* `effectiveSources`: explicit names and those of the groups, each once, in the order of their first
  occurrence.

Results:
* `nodup_appendNew`, `mem_appendNew`: joining adds what is new and repeats nothing.
* `mem_resolveGroups`, `mem_effectiveSources`: which names groups stand for, and which are searched.
* `anyResolves_iff`, `effectiveSources_of_unresolved`: groups that stand for nothing add nothing.
-/

namespace FeedOperator

/-- Where the ConfigMap with the feed groups is. -/
structure FeedGroupRef where
  ns : String := "default"
  name : String := "feed-group-source"
  deriving DecidableEq

/-- Whether an object with this namespace and name is the ConfigMap. -/
def FeedGroupRef.isAt (r : FeedGroupRef) (ns name : Option String) : Bool :=
  ns == some r.ns && name == some r.name

/-- The texts of a ConfigMap, with its keys in ascending order. -/
abbrev FeedGroups := List (String × String)

/-- The names in a list with commas. -/
def shortNames (value : String) : List String :=
  ((Text.pieces ',' value.toList).map Text.trim).filter (!·.isEmpty) |>.map String.ofList

namespace FeedGroups

/-- The names that a group stands for; an unknown group stands for none. -/
def resolveGroup (groups : FeedGroups) (group : String) : List String :=
  ((groups.lookup group).map shortNames).getD []

/-- Whether a group is known. -/
def defines (groups : FeedGroups) (group : String) : Bool :=
  (groups.lookup group).isSome

/-- Appends the names that are not there yet, each once. -/
def appendNew (names : List String) : List String → List String
  | [] => names
  | n :: more => appendNew (if names.contains n then names else names ++ [n]) more

/-- The names that some groups stand for. -/
def resolveGroups (groups : FeedGroups) (chosen : List String) : List String :=
  appendNew [] (chosen.flatMap groups.resolveGroup)

/-- Explicit names and those of some groups. -/
def effectiveSources (groups : FeedGroups) (sources chosen : List String) : List String :=
  appendNew [] (sources ++ groups.resolveGroups chosen)

/-- Whether one of some groups stands for anything. -/
def anyResolves (groups : FeedGroups) (chosen : List String) : Bool :=
  chosen.any fun group => !(groups.resolveGroup group).isEmpty

theorem nodup_appendNew {names : List String} (h : names.Nodup) (more : List String) :
    (appendNew names more).Nodup := by
  induction more generalizing names with
  | nil => exact h
  | cons n more ih =>
    apply ih
    split
    · exact h
    · next hn =>
      simp only [List.contains_eq_mem, decide_eq_true_eq] at hn
      rw [List.nodup_append]
      exact ⟨h, by simp, fun a ha b hb => by simp at hb; grind⟩

theorem mem_appendNew {names more : List String} {x : String} :
    x ∈ appendNew names more ↔ x ∈ names ∨ x ∈ more := by
  induction more generalizing names with
  | nil => simp [appendNew]
  | cons n more ih =>
    rw [appendNew, ih]
    by_cases hn : n ∈ names
    · simp only [List.contains_eq_mem, hn, decide_true, if_true, List.mem_cons]
      grind
    · simp only [List.contains_eq_mem, hn, decide_false, Bool.false_eq_true, if_false,
        List.mem_append, List.mem_cons]
      grind

section Members

variable {groups : FeedGroups} {sources chosen : List String} {n : String}

theorem mem_resolveGroups :
    n ∈ groups.resolveGroups chosen ↔ ∃ group ∈ chosen, n ∈ groups.resolveGroup group := by
  simp [resolveGroups, mem_appendNew]

theorem mem_effectiveSources : n ∈ groups.effectiveSources sources chosen ↔
    n ∈ sources ∨ ∃ group ∈ chosen, n ∈ groups.resolveGroup group := by
  simp [effectiveSources, mem_appendNew, mem_resolveGroups]

theorem anyResolves_iff :
    groups.anyResolves chosen = true ↔ ∃ group ∈ chosen, groups.resolveGroup group ≠ [] := by
  simp [anyResolves]

/-- Groups that stand for nothing leave the explicit names. -/
theorem effectiveSources_of_unresolved (h : groups.anyResolves chosen = false)
    (sources : List String) : groups.effectiveSources sources chosen = appendNew [] sources := by
  have hnil : chosen.flatMap groups.resolveGroup = [] := by
    rw [List.flatMap_eq_nil_iff]
    simpa [anyResolves] using h
  simp [effectiveSources, resolveGroups, hnil, appendNew]

end Members

end FeedGroups

end FeedOperator
