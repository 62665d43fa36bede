import FeedOperator.Json.Decode
import FeedOperator.Json.Patch
import Mathlib.Data.String.Basic

/-!
# Values with distinct names

A value that was read names each member of an object once, since the last one of a name counts. The
difference of such a value and itself is empty.

* `Json.Distinct`: a value in which every object names each of its members once.
* `Ascending`: entries in ascending order of their keys.

Results:
* `distinct_asJson`: a value that was read has distinct names.
* `distinct_ofPresent`: so has an object of given members, if they have.
* `Patch.betweenAt_self`: the difference of such a value and itself is empty.
-/

namespace FeedOperator

/-! ## Entries in order -/

section Entries

variable {α : Type}

/-- Entries in ascending order of their keys. -/
def Ascending (entries : List (String × α)) : Prop :=
  entries.Pairwise (·.1 < ·.1)

theorem Ascending.nodup {entries : List (String × α)} (h : Ascending entries) :
    (entries.map Prod.fst).Nodup :=
  List.pairwise_map.mpr (h.imp fun hlt => ne_of_lt hlt)

/-- With distinct keys every entry is found. -/
theorem lookup_of_nodup {k : String} {v : α} {entries : List (String × α)}
    (names : (entries.map Prod.fst).Nodup) (h : (k, v) ∈ entries) :
    entries.lookup k = some v := by
  obtain ⟨front, back, rfl⟩ := List.append_of_mem h
  rw [List.map_append, List.nodup_append] at names
  refine List.lookup_eq_some_iff.mpr ⟨front, back, rfl, fun e he => bne_iff_ne.mpr ?_⟩
  exact (names.2.2 e.1 (List.mem_map_of_mem he) k (by simp)).symm

theorem mem_of_mem_putEntry {k : String} {v : α} {entries : List (String × α)} {e : String × α}
    (h : e ∈ Reading.putEntry k v entries) : e = (k, v) ∨ e ∈ entries := by
  induction entries with
  | nil => exact .inl (List.mem_singleton.mp h)
  | cons d rest ih =>
    unfold Reading.putEntry at h
    split at h
    · rcases List.mem_cons.mp h with h | h
      · exact .inl h
      · exact .inr (List.mem_cons_of_mem _ h)
    · split at h
      · exact List.mem_cons.mp h
      · rcases List.mem_cons.mp h with h | h
        · exact .inr (h ▸ List.mem_cons_self)
        · exact (ih h).imp_right (List.mem_cons_of_mem _)

/-- An entry is put where the order wants it. -/
theorem Ascending.putEntry {entries : List (String × α)} (h : Ascending entries) (k : String)
    (v : α) : Ascending (Reading.putEntry k v entries) := by
  induction entries with
  | nil => exact List.pairwise_singleton _ _
  | cons d rest ih =>
    obtain ⟨hd, hrest⟩ := List.pairwise_cons.mp h
    unfold Reading.putEntry
    split
    · next heq => exact List.pairwise_cons.mpr ⟨fun e he => heq ▸ hd e he, hrest⟩
    · next hne =>
      split
      · next hlt =>
        refine List.pairwise_cons.mpr ⟨fun e he => ?_, h⟩
        rcases List.mem_cons.mp he with rfl | he
        · exact hlt
        · exact hlt.trans (hd e he)
      · next hge =>
        refine List.pairwise_cons.mpr ⟨fun e he => ?_, ih hrest⟩
        rcases mem_of_mem_putEntry he with rfl | he
        · exact lt_of_le_of_ne (not_lt.mp hge) (Ne.symm hne)
        · exact hd e he

end Entries

/-! ## Values -/

namespace Json

mutual

/-- Whether every object within names each of its members once. -/
def Distinct : Json → Prop
  | .arr items => ItemsDistinct items
  | .obj members => (members.map Prod.fst).Nodup ∧ MembersDistinct members
  | _ => True

/-- Whether it is so in every item. -/
def ItemsDistinct : List Json → Prop
  | [] => True
  | v :: items => Distinct v ∧ ItemsDistinct items

/-- Whether it is so in every member. -/
def MembersDistinct : List (String × Json) → Prop
  | [] => True
  | (_, v) :: members => Distinct v ∧ MembersDistinct members

end

theorem itemsDistinct_iff {items : List Json} :
    ItemsDistinct items ↔ ∀ v ∈ items, v.Distinct := by
  induction items with
  | nil => simp [ItemsDistinct]
  | cons v items ih => simp [ItemsDistinct, ih]

theorem membersDistinct_iff {members : List (String × Json)} :
    MembersDistinct members ↔ ∀ m ∈ members, m.2.Distinct := by
  induction members with
  | nil => simp [MembersDistinct]
  | cons m members ih => simp [MembersDistinct, ih]

theorem distinct_obj_iff {members : List (String × Json)} :
    (obj members).Distinct ↔
      (members.map Prod.fst).Nodup ∧ ∀ m ∈ members, m.2.Distinct := by
  rw [Distinct, membersDistinct_iff]

theorem distinct_arr_iff {items : List Json} :
    (arr items).Distinct ↔ ∀ v ∈ items, v.Distinct := by
  rw [Distinct, itemsDistinct_iff]

@[simp] theorem distinct_str (s : String) : (str s).Distinct := by
  simp [Distinct]

@[simp] theorem distinct_bool (b : Bool) : (bool b).Distinct := by
  simp [Distinct]

@[simp] theorem distinct_num (n : Int) : (num n).Distinct := by
  simp [Distinct]

@[simp] theorem distinct_ofStrings (names : List String) : (ofStrings names).Distinct := by
  simp [ofStrings, distinct_arr_iff]

@[simp] theorem distinct_ofString? (s : Option String) : (ofString? s).Distinct := by
  cases s <;> simp [ofString?, Distinct]

/-- An object of given members. -/
theorem distinct_ofPresent {members : List (String × Option Json)}
    (names : (members.map Prod.fst).Nodup)
    (values : ∀ m ∈ members, ∀ v, m.2 = some v → v.Distinct) : (ofPresent members).Distinct := by
  refine distinct_obj_iff.mpr ⟨?_, fun m hm => ?_⟩
  · refine names.sublist ?_
    clear names values
    induction members with
    | nil => exact .slnil
    | cons m members ih =>
      obtain ⟨k, value⟩ := m
      cases value with
      | none => exact ih.cons k
      | some v => exact ih.cons_cons k
  · obtain ⟨⟨k, value⟩, hmem, hm⟩ := List.mem_filterMap.mp hm
    obtain ⟨v, hv, rfl⟩ := Option.map_eq_some_iff.mp hm
    exact values (k, value) hmem v hv

end Json

/-! ## What was read -/

namespace Reading

mutual

/-- **A value that was read has distinct names.** -/
theorem distinct_asJson : (r : Reading) → (v : Json) → r.asJson = .ok v → v.Distinct
  | .null, _, h | .bool _, _, h | .int _, _, h | .real _, _, h | .str (some _), _, h => by
    cases h
    simp [Json.Distinct]
  | .str none, _, h | .tooLarge, _, h | .tooDeep _, _, h | .broken, _, h => by cases h
  | .arr items, v, h => by
    rw [asJson] at h
    cases hitems : asJsonItems items with
    | error e => rw [hitems] at h; cases h
    | ok vs =>
      rw [hitems] at h
      cases h
      rw [Json.Distinct]
      exact distinct_asJsonItems items vs hitems
  | .obj members, v, h => by
    rw [asJson] at h
    cases hmembers : asJsonMembers [] members with
    | error e => rw [hmembers] at h; cases h
    | ok ms =>
      rw [hmembers] at h
      cases h
      have := distinct_asJsonMembers members [] ms .nil (by simp) hmembers
      exact Json.distinct_obj_iff.mpr ⟨this.1.nodup, this.2⟩

theorem distinct_asJsonItems : (items : List Reading) → (vs : List Json) →
    asJsonItems items = .ok vs → Json.ItemsDistinct vs
  | [], _, h => by
    cases h
    simp [Json.ItemsDistinct]
  | r :: items, vs, h => by
    rw [asJsonItems] at h
    cases hr : r.asJson with
    | error e => rw [hr] at h; cases h
    | ok v =>
      cases hitems : asJsonItems items with
      | error e => rw [hr, hitems] at h; cases h
      | ok ws =>
        rw [hr, hitems] at h
        cases h
        exact ⟨distinct_asJson r v hr, distinct_asJsonItems items ws hitems⟩

theorem distinct_asJsonMembers : (members : List (Option String × Reading)) →
    (sofar ms : List (String × Json)) → Ascending sofar → (∀ m ∈ sofar, m.2.Distinct) →
    asJsonMembers sofar members = .ok ms → Ascending ms ∧ ∀ m ∈ ms, m.2.Distinct
  | [], sofar, ms, hasc, hdist, h => by
    cases h
    exact ⟨hasc, hdist⟩
  | (none, _) :: _, _, _, _, _, h => by cases h
  | (some k, r) :: members, sofar, ms, hasc, hdist, h => by
    rw [asJsonMembers] at h
    cases hr : r.asJson with
    | error e => rw [hr] at h; cases h
    | ok v =>
      rw [hr] at h
      refine distinct_asJsonMembers members (putEntry k v sofar) ms (hasc.putEntry k v) ?_ h
      intro m hm
      rcases mem_of_mem_putEntry hm with rfl | hm
      · exact distinct_asJson r v hr
      · exact hdist m hm

end

end Reading

/-! ## Differences -/

namespace Patch

theorem memberChanges_append (path : List String) (new a b : List (String × Json)) :
    memberChanges path new (a ++ b) = memberChanges path new a ++ memberChanges path new b := by
  induction a with
  | nil => rfl
  | cons m a ih =>
    obtain ⟨k, v⟩ := m
    rw [List.cons_append, memberChanges, memberChanges, ih, List.append_assoc]

mutual

/-- **The difference of a value with distinct names and itself is empty.** -/
theorem betweenAt_self (path : List String) : (v : Json) → v.Distinct → betweenAt path v v = []
  | .null, _ | .bool _, _ | .num _, _ | .real _, _ | .str _, _ => by simp [betweenAt, Json.same]
  | .arr items, h => by
    rw [Json.Distinct] at h
    rw [betweenAt]
    exact itemChanges_self path 0 items h
  | .obj members, h => by
    rw [Json.Distinct] at h
    have there : ∀ m ∈ members, members.lookup m.1 = some m.2 := fun m hm =>
      lookup_of_nodup h.1 hm
    have none : ∀ m ∈ members, (members.lookup m.1).isNone = false := fun m hm => by
      rw [there m hm, Option.isNone_some]
    rw [betweenAt, memberChanges_self path members members there h.2, List.filter_eq_nil_iff.mpr]
    · rfl
    · simpa using none

theorem itemChanges_self (path : List String) (i : Nat) : (items : List Json) →
    Json.ItemsDistinct items → itemChanges path i items items = []
  | [], _ => by simp [itemChanges]
  | v :: items, h => by
    rw [itemChanges, betweenAt_self _ v h.1, itemChanges_self path (i + 1) items h.2]
    rfl

theorem memberChanges_self (path : List String) (new : List (String × Json)) :
    (old : List (String × Json)) → (∀ m ∈ old, new.lookup m.1 = some m.2) →
    Json.MembersDistinct old → memberChanges path new old = []
  | [], _, _ => by simp [memberChanges]
  | (k, v) :: old, there, h => by
    rw [memberChanges, there (k, v) List.mem_cons_self]
    rw [memberChanges_self path new old (fun m hm => there m (List.mem_cons_of_mem _ hm)) h.2]
    simp [betweenAt_self (path ++ [k]) v h.1]

end

end Patch

end FeedOperator
