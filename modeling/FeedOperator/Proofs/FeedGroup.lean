import FeedOperator.FeedGroup
import Mathlib.Data.List.Basic

/-!
# Effective sources as a union in order

Names are joined twice, the ones of the groups first and then those with the explicit ones. What
comes of it is one list in which each name stands where it first occurred.

* `FeedGroups.Ranks`: a list names what another one does, in the order of first occurrence.

Results:
* `ranks_appendNew`: joining keeps that order.
* `appendNew_appendNew`: names that were joined among themselves before are joined the same way.
* `effectiveSources_union`: explicit names and groups give a union in order, which resolving the
  groups again does not change and which may be built group by group.
-/

namespace FeedOperator.FeedGroups

variable {names more listed : List String}

/-! ## Joining -/

theorem appendNew_append (names a b : List String) :
    appendNew names (a ++ b) = appendNew (appendNew names a) b := by
  induction a generalizing names with
  | nil => rfl
  | cons n a ih => exact ih _

/-- Names that are there are not added. -/
theorem appendNew_of_subset (there : ∀ n ∈ more, n ∈ names) : appendNew names more = names := by
  induction more with
  | nil => rfl
  | cons n more ih =>
    have here : names.contains n = true := List.contains_iff_mem.mpr (there n List.mem_cons_self)
    rw [appendNew, if_pos here, ih fun m hm => there m (List.mem_cons_of_mem n hm)]

/-- Joining what was joined before is joining all of it. -/
theorem appendNew_appendNew (names seen more : List String) :
    appendNew names (appendNew seen more) = appendNew (appendNew names seen) more := by
  induction more generalizing seen with
  | nil => rfl
  | cons n more ih =>
    rw [appendNew, ih, appendNew]
    by_cases hn : n ∈ seen
    · have there : n ∈ appendNew names seen := mem_appendNew.mpr (.inr hn)
      simp only [List.contains_iff_mem, hn, there, if_true]
    · rw [if_neg (mt List.contains_iff_mem.mp hn), appendNew_append]
      rfl

/-! ## Order -/

/-- The names of a list, each where it first occurs there. -/
structure Ranks (listed names : List String) : Prop where
  same : ∀ n, n ∈ names ↔ n ∈ listed
  order : names.Pairwise fun a b => listed.idxOf a < listed.idxOf b

theorem ranks_nil : Ranks [] [] :=
  ⟨fun _ => Iff.rfl, .nil⟩

/-- A name that is there already changes nothing, and another one comes last. -/
theorem Ranks.concat (ranks : Ranks listed names) (n : String) :
    Ranks (listed ++ [n]) (if names.contains n then names else names ++ [n]) := by
  have old : names.Pairwise fun a b => (listed ++ [n]).idxOf a < (listed ++ [n]).idxOf b := by
    refine ranks.order.imp_of_mem fun {a b} ha hb before => ?_
    rwa [List.idxOf_append_of_mem ((ranks.same a).mp ha),
      List.idxOf_append_of_mem ((ranks.same b).mp hb)]
  split
  · next there =>
    refine ⟨fun m => ?_, old⟩
    have hn := (ranks.same n).mp (List.contains_iff_mem.mp there)
    rw [ranks.same m, List.mem_append, List.mem_singleton]
    exact ⟨.inl, fun h => h.elim id fun eq => eq ▸ hn⟩
  · next new =>
    have hn : n ∉ listed := fun h => new (List.contains_iff_mem.mpr ((ranks.same n).mpr h))
    refine ⟨fun m => by rw [List.mem_append, List.mem_append, ranks.same m], ?_⟩
    refine List.pairwise_append.mpr ⟨old, List.pairwise_singleton _ _, fun a ha b hb => ?_⟩
    have inside := (ranks.same a).mp ha
    rw [List.mem_singleton.mp hb, List.idxOf_append_of_mem inside,
      List.idxOf_append_of_notMem hn]
    exact Nat.lt_of_lt_of_le (List.idxOf_lt_length_of_mem inside) (Nat.le_add_right _ _)

/-- **Joining keeps the order of first occurrence.** -/
theorem ranks_appendNew (ranks : Ranks listed names) (more : List String) :
    Ranks (listed ++ more) (appendNew names more) := by
  induction more generalizing listed names with
  | nil => rwa [List.append_nil]
  | cons n more ih =>
    rw [List.append_cons]
    exact ih (ranks.concat n)

/-- Ranked names stand there once. -/
theorem Ranks.nodup (ranks : Ranks listed names) : names.Nodup :=
  ranks.order.imp fun {a b} before (eq : a = b) => absurd before (eq ▸ Nat.lt_irrefl _)

/-! ## Effective sources -/

variable (groups : FeedGroups)

/-- The names of the groups need not be joined among themselves before. -/
theorem effectiveSources_eq (sources chosen : List String) :
    groups.effectiveSources sources chosen =
      appendNew [] (sources ++ chosen.flatMap groups.resolveGroup) := by
  rw [effectiveSources, resolveGroups, appendNew_append, appendNew_append, appendNew_appendNew,
    appendNew]

/-- Names that were joined before may be joined with those of further groups. -/
theorem effectiveSources_appendNew (listed chosen : List String) :
    groups.effectiveSources (appendNew [] listed) chosen =
      appendNew [] (listed ++ chosen.flatMap groups.resolveGroup) := by
  rw [effectiveSources_eq, appendNew_append, appendNew_append, appendNew_appendNew, appendNew]

theorem resolveGroups_ne_nil_iff (chosen : List String) :
    groups.resolveGroups chosen ≠ [] ↔ groups.anyResolves chosen = true := by
  have some : ∀ l : List String, l ≠ [] ↔ ∃ n, n ∈ l := fun l =>
    ⟨List.exists_mem_of_ne_nil l, fun ⟨_, hn⟩ => List.ne_nil_of_mem hn⟩
  simp only [anyResolves_iff, some, mem_resolveGroups]
  exact ⟨fun ⟨n, group, hgroup, hn⟩ => ⟨group, hgroup, n, hn⟩,
    fun ⟨group, hgroup, n, hn⟩ => ⟨n, group, hgroup, hn⟩⟩

/-- **The effective sources are a union in order.** Each name stands there once, it comes from the
explicit names or from a group, and all are in the order in which they first occur in the explicit
names and then in the groups as they are declared. Resolving the groups a second time adds nothing,
groups may be resolved one part after the other, and some group stands for a name iff all of them
together do. -/
theorem effectiveSources_union (sources chosen : List String) :
    (groups.effectiveSources sources chosen).Nodup ∧
    (∀ n, n ∈ groups.effectiveSources sources chosen ↔
      n ∈ sources ∨ ∃ group ∈ chosen, n ∈ groups.resolveGroup group) ∧
    (groups.effectiveSources sources chosen).Pairwise (fun a b =>
      (sources ++ chosen.flatMap groups.resolveGroup).idxOf a <
        (sources ++ chosen.flatMap groups.resolveGroup).idxOf b) ∧
    groups.effectiveSources (groups.effectiveSources sources chosen) chosen =
      groups.effectiveSources sources chosen ∧
    (∀ first second, groups.effectiveSources sources (first ++ second) =
      groups.effectiveSources (groups.effectiveSources sources first) second) ∧
    (groups.anyResolves chosen = true ↔ groups.resolveGroups chosen ≠ []) := by
  have ranks : Ranks (sources ++ chosen.flatMap groups.resolveGroup)
      (groups.effectiveSources sources chosen) := by
    rw [effectiveSources_eq]
    exact ranks_appendNew ranks_nil _
  refine ⟨ranks.nodup, fun _ => mem_effectiveSources, ranks.order, ?_, fun first second => ?_,
    (resolveGroups_ne_nil_iff groups chosen).symm⟩
  · rw [effectiveSources_eq groups sources, effectiveSources_appendNew, appendNew_append]
    exact appendNew_of_subset fun n hn =>
      mem_appendNew.mpr (.inr (List.mem_append_right sources hn))
  · rw [effectiveSources_eq groups sources (first ++ second), effectiveSources_eq groups sources,
      effectiveSources_appendNew, List.flatMap_append, List.append_assoc]

end FeedOperator.FeedGroups
