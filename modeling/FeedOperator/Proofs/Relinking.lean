import FeedOperator.Proofs.Race

/-!
# Edits of owners in a row

Passes over different HotNews edit the owners of one Source, each under its own UID, and their edits
come in any order. Here an edit is looked at from each UID alone: what it makes of the owners with
some UIDs depends on the edits and the owners with these UIDs only. So edits under different UIDs do
not get in each other's way.

* `OwnerEdit.uid`: the UID that an edit is about.
* `OwnerEdit.revise`: what an edit makes of a list of owners.
* `Source.afterEdits`: a Source after edits in a row.
* `Reordered`: two rows with the same edits, in the same order under each UID.
* `OwnerEdit.Tells`: an edit of a Source says whether it changed the owners, and is written only
  then.

Results:
* `filter_foldl_revise`: edits in a row, as far as some UIDs are concerned.
* `Reordered.perm`: the order among different UIDs does not matter.
* `edits_exact`: who owns a Source after edits in a row, for all rows and Sources.

Absent owners count as none throughout.
-/

namespace FeedOperator

namespace OwnerEdit

/-! ## Owners -/

/-- The UID that an edit is about. -/
def uid : OwnerEdit → String
  | .add owner => owner.uid
  | .remove uid => uid

/-- What an edit makes of the owners. -/
def revise (owners : List OwnerReference) : OwnerEdit → List OwnerReference
  | .add owner => if owners.any (·.uid == owner.uid) then owners else owners ++ [owner]
  | .remove uid => owners.filter (·.uid != uid)

/-- Whether one of some edits is about a UID. -/
def mentions (edits : List OwnerEdit) (uid : String) : Bool :=
  edits.any (·.uid == uid)

/-- The last of some edits about a UID. -/
def lastOn (uid : String) (edits : List OwnerEdit) : Option OwnerEdit :=
  (edits.filter (·.uid == uid)).getLast?

@[simp]
theorem uid_add (owner : OwnerReference) : (add owner).uid = owner.uid := rfl

@[simp]
theorem uid_remove (uid : String) : (remove uid).uid = uid := rfl

theorem revise_add (owners : List OwnerReference) (owner : OwnerReference) :
    revise owners (.add owner) =
      if owners.any (·.uid == owner.uid) then owners else owners ++ [owner] := rfl

theorem revise_remove (owners : List OwnerReference) (uid : String) :
    revise owners (.remove uid) = owners.filter (·.uid != uid) := rfl

theorem owners_apply (edit : OwnerEdit) (a : Source) :
    (edit.apply a).1.metadata.owners = revise a.metadata.owners edit := by
  cases edit with
  | add owner =>
    change (a.addOwner owner).1.metadata.owners = if a.isOwnedBy owner.uid then _ else _
    unfold Source.addOwner
    split <;> rfl
  | remove uid => exact owners_removeOwner a uid

/-! ## One edit -/

/-- The owners with some UIDs after an edit. -/
theorem filter_revise (p : String → Bool) (owners : List OwnerReference) (edit : OwnerEdit) :
    (revise owners edit).filter (p ·.uid) =
      if p edit.uid then revise (owners.filter (p ·.uid)) edit else owners.filter (p ·.uid) := by
  cases edit with
  | add owner =>
    by_cases concerned : p owner.uid = true
    · have known : (owners.filter (p ·.uid)).any (·.uid == owner.uid) =
          owners.any (·.uid == owner.uid) := by
        rw [Bool.eq_iff_iff]
        simp only [List.any_eq_true, List.mem_filter, beq_iff_eq]
        exact ⟨fun ⟨r, ⟨hr, _⟩, same⟩ => ⟨r, hr, same⟩,
          fun ⟨r, hr, same⟩ => ⟨r, ⟨hr, same ▸ concerned⟩, same⟩⟩
      rw [uid_add, if_pos concerned, revise_add, revise_add, known]
      split
      · rfl
      · simp [concerned]
    · rw [uid_add, if_neg concerned, revise_add]
      split
      · rfl
      · simp [concerned]
  | remove uid =>
    rw [uid_remove, revise_remove, revise_remove]
    split
    · rw [List.filter_filter, List.filter_filter]
      simp only [Bool.and_comm]
    · next spared =>
      -- What the removal drops has a UID that `p` drops as well.
      rw [List.filter_filter]
      refine List.filter_congr fun r _ => ?_
      by_cases same : r.uid = uid
      · simp [same, spared]
      · simp [same]

/-- An addition leaves an owner, and a removal none. -/
theorem any_revise (owners : List OwnerReference) (edit : OwnerEdit) :
    (revise owners edit).any (·.uid == edit.uid) = true ↔ ∃ owner, edit = .add owner := by
  cases edit with
  | add owner =>
    refine iff_of_true ?_ ⟨owner, rfl⟩
    rw [uid_add, revise_add]
    split
    · assumption
    · simp
  | remove uid => simp [revise_remove]

/-- No edit makes a second owner with a UID. -/
theorem countP_revise_le {owners : List OwnerReference} {uid : String}
    (once : owners.countP (·.uid == uid) ≤ 1) (edit : OwnerEdit) :
    (revise owners edit).countP (·.uid == uid) ≤ 1 := by
  cases edit with
  | add owner =>
    rw [revise_add]
    split
    · exact once
    · next new =>
      rw [List.countP_append]
      by_cases same : owner.uid = uid
      · have none : owners.countP (·.uid == uid) = 0 := by
          rw [List.countP_eq_zero]
          intro r hr found
          refine new (List.any_eq_true.mpr ⟨r, hr, ?_⟩)
          rw [same]
          exact found
        rw [none, Nat.zero_add]
        exact List.countP_le_length
      · have other : [owner].countP (·.uid == uid) = 0 := by simp [same]
        rwa [other]
  | remove gone => exact Nat.le_trans (List.filter_sublist.countP_le) once

/-! ## Edits in a row -/

/-- **The owners with some UIDs after edits in a row** depend on the edits and owners with these
UIDs alone. -/
theorem filter_foldl_revise (p : String → Bool) (owners : List OwnerReference)
    (edits : List OwnerEdit) : (edits.foldl revise owners).filter (p ·.uid) =
      (edits.filter (p ·.uid)).foldl revise (owners.filter (p ·.uid)) := by
  induction edits generalizing owners with
  | nil => rfl
  | cons edit edits ih =>
    rw [List.foldl_cons, ih, filter_revise, List.filter_cons]
    split
    · rw [List.foldl_cons]
    · rfl

theorem countP_foldl_revise_le {owners : List OwnerReference} {uid : String}
    (once : owners.countP (·.uid == uid) ≤ 1) (edits : List OwnerEdit) :
    (edits.foldl revise owners).countP (·.uid == uid) ≤ 1 := by
  induction edits generalizing owners with
  | nil => exact once
  | cons edit edits ih => exact ih (countP_revise_le once edit)

/-- Owners that no edit is about stay, and in their order. -/
theorem filter_foldl_revise_of_unmentioned (owners : List OwnerReference)
    (edits : List OwnerEdit) : (edits.foldl revise owners).filter (!mentions edits ·.uid) =
      owners.filter (!mentions edits ·.uid) := by
  have none : edits.filter (!mentions edits ·.uid) = [] := by
    rw [List.filter_eq_nil_iff]
    intro edit hedit
    have mentioned : mentions edits edit.uid = true :=
      List.any_eq_true.mpr ⟨edit, hedit, beq_self_eq_true _⟩
    simp [mentioned]
  rw [filter_foldl_revise (!mentions edits ·), none]
  rfl

/-- The last edit about a UID decides whether there is an owner with it. -/
theorem any_foldl_revise_iff {edits : List OwnerEdit} {uid : String}
    (mentioned : mentions edits uid = true) (owners : List OwnerReference) :
    (edits.foldl revise owners).any (·.uid == uid) = true ↔
      ∃ owner, lastOn uid edits = some (.add owner) := by
  obtain ⟨edit, hedit, about⟩ := List.any_eq_true.mp mentioned
  have nonempty : edits.filter (·.uid == uid) ≠ [] :=
    List.ne_nil_of_mem (List.mem_filter.mpr ⟨hedit, about⟩)
  obtain ⟨front, last, split⟩ : ∃ front last, edits.filter (·.uid == uid) = front ++ [last] :=
    ⟨_, _, (List.dropLast_concat_getLast nonempty).symm⟩
  have own : last.uid = uid := by
    have inside : last ∈ edits.filter (·.uid == uid) := by simp [split]
    exact beq_iff_eq.mp (List.mem_filter.mp inside).2
  -- Under this UID alone the row ends with the last edit about it, whatever came before.
  have restricted : (edits.foldl revise owners).any (·.uid == uid) =
      ((edits.foldl revise owners).filter (·.uid == uid)).any (·.uid == uid) := by
    rw [List.any_filter]
    simp only [Bool.and_self]
  rw [restricted, filter_foldl_revise (· == uid), split, List.foldl_append]
  change (revise _ last).any _ = true ↔ _
  rw [← own, any_revise, own, lastOn, split, List.getLast?_concat]
  simp only [Option.some.injEq]

end OwnerEdit

open OwnerEdit

/-! ## Reordering -/

/-- The same edits, in the same order under each UID. -/
def Reordered (edits edits' : List OwnerEdit) : Prop :=
  ∀ uid, edits.filter (·.uid == uid) = edits'.filter (·.uid == uid)

/-- Two edits in a row under different UIDs may change places. -/
theorem Reordered.swap {first second : OwnerEdit} (apart : first.uid ≠ second.uid)
    (front back : List OwnerEdit) :
    Reordered (front ++ first :: second :: back) (front ++ second :: first :: back) := by
  intro uid
  rw [List.filter_append, List.filter_append]
  congr 1
  by_cases hfirst : first.uid = uid
  · have hsecond : second.uid ≠ uid := fun same => apart (hfirst.trans same.symm)
    simp [hfirst, hsecond]
  · by_cases hsecond : second.uid = uid <;> simp [hfirst, hsecond]

/-- Owners that agree under each UID agree but for their order. -/
theorem perm_of_filter_eq {owners owners' : List OwnerReference}
    (agree : ∀ uid, owners.filter (·.uid == uid) = owners'.filter (·.uid == uid)) :
    owners.Perm owners' := by
  rw [List.perm_iff_count]
  intro r
  calc owners.count r = (owners.filter (·.uid == r.uid)).count r :=
        (List.count_filter (by simp)).symm
    _ = (owners'.filter (·.uid == r.uid)).count r := congrArg _ (agree r.uid)
    _ = owners'.count r := List.count_filter (by simp)

/-- **The order among different UIDs does not matter** but for the order of the owners. -/
theorem Reordered.perm {edits edits' : List OwnerEdit} (reordered : Reordered edits edits')
    (owners : List OwnerReference) :
    (edits.foldl revise owners).Perm (edits'.foldl revise owners) := by
  refine perm_of_filter_eq fun uid => ?_
  rw [filter_foldl_revise (· == uid), filter_foldl_revise (· == uid), reordered uid]

/-! ## What an edit says -/

/-- An edit of a Source says whether it changed the owners. If it did not, the Source is the same,
but for an empty list that may have become an absent one. A round that reads the Source writes it
iff the owners changed. -/
structure OwnerEdit.Tells (edit : OwnerEdit) (a : Source) : Prop where
  flag : (edit.apply a).2 = true ↔ (edit.apply a).1.metadata.owners ≠ a.metadata.owners
  kept : (edit.apply a).1.metadata.owners = a.metadata.owners → (edit.apply a).1 = a ∨
    a.metadata.ownerReferences = some [] ∧
      (edit.apply a).1 = { a with metadata := { a.metadata with ownerReferences := none } }
  skipped : ∀ ns name rounds, ∃ next,
    (editSourceWithin ns name edit.apply (rounds + 1)).run =
        .ask (.store (.getSource ns name)) next ∧
    ((edit.apply a).1.metadata.owners = a.metadata.owners →
      next (.ok (some a)) = .done (.ok false)) ∧
    ((edit.apply a).1.metadata.owners ≠ a.metadata.owners → ∃ after,
      next (.ok (some a)) = .ask (.store (.replaceSource (edit.apply a).1)) after)

namespace OwnerEdit

/-- An edit says whether it changed the owners. -/
theorem flag_iff (edit : OwnerEdit) (a : Source) :
    (edit.apply a).2 = true ↔ (edit.apply a).1.metadata.owners ≠ a.metadata.owners := by
  rw [owners_apply]
  cases edit with
  | add owner =>
    change (a.addOwner owner).2 = true ↔
      (if a.isOwnedBy owner.uid then a.metadata.owners else a.metadata.owners ++ [owner]) ≠ _
    unfold Source.addOwner
    split <;> simp
  | remove uid =>
    change a.metadata.owners.any (·.uid == uid) = true ↔
      a.metadata.owners.filter (·.uid != uid) ≠ a.metadata.owners
    rw [Ne, List.filter_eq_self, List.any_eq_true]
    push Not
    simp

/-- An edit that changes nothing leaves the Source, but keeps no empty list. -/
theorem apply_of_owners_eq {edit : OwnerEdit} {a : Source}
    (same : (edit.apply a).1.metadata.owners = a.metadata.owners) :
    (edit.apply a).1 = a ∨ a.metadata.ownerReferences = some [] ∧
      (edit.apply a).1 = { a with metadata := { a.metadata with ownerReferences := none } } := by
  cases edit with
  | add owner =>
    change (a.addOwner owner).1.metadata.owners = _ at same
    change (a.addOwner owner).1 = a ∨ _
    unfold Source.addOwner at same ⊢
    split at same
    · next owned => exact .inl (by rw [if_pos owned])
    · exact absurd same (by simp [Meta.owners])
  | remove uid =>
    rw [owners_apply] at same
    have kept : a.metadata.owners.filter (·.uid != uid) = a.metadata.owners := same
    change (a.removeOwner uid).1 = a ∨ _ ∧ (a.removeOwner uid).1 = _
    unfold Source.removeOwner
    rw [kept]
    have self : ∀ refs, refs = a.metadata.ownerReferences →
        ({ a with metadata := { a.metadata with ownerReferences := refs } } : Source) = a := by
      rintro _ rfl
      rfl
    -- Absent, empty and other owners are told apart here alone: only an empty list is not kept.
    cases refs : a.metadata.ownerReferences with
    | none => exact .inl (self _ (by rw [Meta.owners, refs]; rfl))
    | some owners =>
      cases owners with
      | nil => exact .inr ⟨rfl, by rw [Meta.owners, refs]; rfl⟩
      | cons => exact .inl (self _ (by rw [Meta.owners, refs]; rfl))

/-- A round of an edit reads the Source, and goes on to write it if the edit says so. -/
theorem next_of_read (edit : OwnerEdit) (a : Source) (ns name : String) (rounds : Nat) :
    ∃ next, (editSourceWithin ns name edit.apply (rounds + 1)).run =
        .ask (.store (.getSource ns name)) next ∧
      ((edit.apply a).2 = false → next (.ok (some a)) = .done (.ok false)) ∧
      ((edit.apply a).2 = true → ∃ after,
        next (.ok (some a)) = .ask (.store (.replaceSource (edit.apply a).1)) after) := by
  refine ⟨_, run_editSourceWithin ns name edit.apply rounds, fun unchanged => ?_, fun changed => ?_⟩
  · exact if_neg (by simp [unchanged])
  · exact ⟨_, if_pos changed⟩

theorem tells (edit : OwnerEdit) (a : Source) : edit.Tells a where
  flag := flag_iff edit a
  kept := apply_of_owners_eq
  skipped ns name rounds := by
    obtain ⟨next, run, unchanged, changed⟩ := next_of_read edit a ns name rounds
    refine ⟨next, run, fun same => unchanged ?_, fun other => changed ((flag_iff edit a).mpr other)⟩
    exact Bool.eq_false_iff.mpr fun flagged => (flag_iff edit a).mp flagged same

end OwnerEdit

/-! ## Sources -/

/-- A Source after edits in a row. -/
def Source.afterEdits (a : Source) (edits : List OwnerEdit) : Source :=
  edits.foldl (fun a edit => (edit.apply a).1) a

theorem Source.owners_afterEdits (a : Source) (edits : List OwnerEdit) :
    (a.afterEdits edits).metadata.owners = edits.foldl revise a.metadata.owners := by
  induction edits generalizing a with
  | nil => rfl
  | cons edit edits ih =>
    change ((edit.apply a).1.afterEdits edits).metadata.owners = _
    rw [ih, owners_apply, List.foldl_cons]

/-- **Edits of owners are exact, and edits under different UIDs commute.** After any edits in a row
there is an owner with a UID that they mention iff the last of them about it was an addition, and
only one if there was no more than one before. Owners that no edit mentions stay as they are, in
their order. In another order that keeps the order under each UID the edits come to the same owners.
And each edit in the row tells whether it changed the owners. -/
theorem edits_exact (a : Source) (edits : List OwnerEdit) :
    (∀ uid, mentions edits uid = true →
      ((∃ r ∈ (a.afterEdits edits).metadata.owners, r.uid = uid) ↔
        ∃ owner, lastOn uid edits = some (.add owner)) ∧
      (a.metadata.owners.countP (·.uid == uid) ≤ 1 →
        (a.afterEdits edits).metadata.owners.countP (·.uid == uid) ≤ 1)) ∧
    (a.afterEdits edits).metadata.owners.filter (!mentions edits ·.uid) =
      a.metadata.owners.filter (!mentions edits ·.uid) ∧
    (∀ edits', Reordered edits edits' →
      (a.afterEdits edits).metadata.owners.Perm (a.afterEdits edits').metadata.owners) ∧
    ∀ front edit back, edits = front ++ edit :: back → edit.Tells (a.afterEdits front) := by
  refine ⟨fun uid mentioned => ?_, ?_, fun edits' reordered => ?_, fun _ edit _ _ => edit.tells _⟩
  · rw [a.owners_afterEdits]
    refine ⟨?_, fun once => countP_foldl_revise_le once edits⟩
    rw [← any_foldl_revise_iff mentioned a.metadata.owners, List.any_eq_true]
    simp only [beq_iff_eq]
  · rw [a.owners_afterEdits]
    exact filter_foldl_revise_of_unmentioned _ edits
  · rw [a.owners_afterEdits, a.owners_afterEdits]
    exact reordered.perm _

/-- A Source with two owners under one UID, the first of which stands for a HotNews of old. -/
def sharedSource : Source where
  metadata := {
    name := some "bbc"
    ns := some "news"
    ownerReferences := some [
      { apiVersion := "v1", kind := "Owner", name := "old", uid := "uid-world" },
      { apiVersion := "v1", kind := "Owner", name := "other", uid := "uid-other" },
      { apiVersion := "v1", kind := "Owner", name := "older", uid := "uid-world" }] }
  spec := {}

/-- The owner that a HotNews with a name is. -/
def rival (name : String) : OwnerReference where
  apiVersion := "newsaggregator.dev/v1"
  kind := "HotNews"
  name := name
  uid := "uid-" ++ name

/-- One HotNews is unlinked and linked again, and another one is linked in between. -/
def rivalEdits : List OwnerEdit :=
  [.remove "uid-world", .add (rival "sport"), .add (rival "world")]

theorem rival_edits_exact :
    mentions rivalEdits "uid-world" = true ∧
    (∃ r ∈ (sharedSource.afterEdits rivalEdits).metadata.owners, r.uid = "uid-world") ∧
    sharedSource.metadata.owners.countP (·.uid == "uid-sport") ≤ 1 ∧
    (sharedSource.afterEdits rivalEdits).metadata.owners.countP (·.uid == "uid-sport") ≤ 1 ∧
    Reordered rivalEdits [.remove "uid-world", .add (rival "world"), .add (rival "sport")] ∧
    (sharedSource.afterEdits rivalEdits).metadata.owners.Perm (sharedSource.afterEdits
      [.remove "uid-world", .add (rival "world"), .add (rival "sport")]).metadata.owners ∧
    OwnerEdit.Tells (.add (rival "sport")) (sharedSource.afterEdits [.remove "uid-world"]) := by
  obtain ⟨underUid, -, inAnyOrder, told⟩ := edits_exact sharedSource rivalEdits
  have world : mentions rivalEdits "uid-world" = true := by decide
  have sport : mentions rivalEdits "uid-sport" = true := by decide
  have once : sharedSource.metadata.owners.countP (·.uid == "uid-sport") ≤ 1 := by decide
  have apart : (OwnerEdit.add (rival "sport")).uid ≠ (OwnerEdit.add (rival "world")).uid := by
    decide
  have reordered := Reordered.swap apart [.remove "uid-world"] []
  exact ⟨world, (underUid _ world).1.mpr ⟨_, rfl⟩, once, (underUid _ sport).2 once, reordered,
    inAnyOrder _ reordered, told [_] _ [_] rfl⟩

end FeedOperator
