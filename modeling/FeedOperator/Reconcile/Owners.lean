import FeedOperator.Pass

/-!
# Owner references on Sources

Every HotNews is an owner of the Sources that it searches. Several passes may edit the owners of
one Source at a time, so an edit is a fresh read and a replace that the store checks against the
version that was read, and after a conflict it starts again.

Model of `update_source_with_retry`, `link_sources` and `unlink_sources` (specification 4.2 and 9).

* `editSource`: one edit, with at most five rounds of reading and replacing.
* `linkSources`: makes a HotNews an owner of the Sources with given short names.
* `unlinkSources`: takes a HotNews from the owners of all Sources of a namespace.
-/

namespace FeedOperator

/-- A change of a Source, and whether there was anything to change. -/
abbrev SourceEdit := Source → Source × Bool

/-- How often an edit is tried while it meets conflicts. -/
def maxEditRounds : Nat := 5

/-- Edits a Source in at most so many rounds, and says whether it was written. It is not if it is
gone, or if there is nothing to change. -/
def editSourceWithin (ns name : String) (edit : SourceEdit) : Nat → Attempt StoreError Bool
  | 0 => return false
  | rounds + 1 => do
    match ← Attempt.store id (.getSource ns name) with
    | none => return false
    | some source =>
      match edit source with
      | (_, false) => return false
      | (edited, true) =>
        match ← Attempt.ofPass (Pass.store (.replaceSource edited)) with
        | .ok _ => return true
        | .error e =>
          if e.isConflict && rounds != 0 then editSourceWithin ns name edit rounds
          else throw e

/-- Edits a Source, and says whether it was written. -/
def editSource (ns name : String) (edit : SourceEdit) : Attempt StoreError Bool :=
  editSourceWithin ns name edit maxEditRounds

/-- The first Source with a short name. -/
def findByShortName (listed : List Source) (shortName : String) : Option Source :=
  listed.find? fun source => source.spec.shortName == shortName

/-- Makes an owner of the Source of each short name, out of the Sources that were listed. Gives the
names of the Sources that were found. -/
def linkListed (ns : String) (owner : OwnerReference) (listed : List Source) :
    List String → Attempt StoreError (List String)
  | [] => return []
  | shortName :: more => do
    match findByShortName listed shortName with
    | none => linkListed ns owner listed more
    | some source =>
      match source.metadata.name with
      | none => linkListed ns owner listed more
      | some name =>
        if !source.isOwnedBy owner.uid then
          let _ ← editSource ns name (Source.addOwner · owner)
        return name :: (← linkListed ns owner listed more)

/-- Makes a HotNews an owner of the Sources with some short names, and gives the names of those
that were found. A short name that no Source has is passed over. -/
def linkSources (ns : String) (hotNews : HotNews) (shortNames : List String) :
    Attempt StoreError (List String) := do
  match hotNews.ownerReference? with
  | none => throw (.missingField "metadata.uid")
  | some owner =>
    let listed ← Attempt.store id (.listSources ns)
    linkListed ns owner listed shortNames

/-- Takes an owner from each of the Sources that were listed with it, and counts those that were
written. -/
def unlinkListed (ns uid : String) : List Source → Attempt StoreError Nat
  | [] => return 0
  | source :: more =>
    match source.isOwnedBy uid, source.metadata.name with
    | true, some name => do
      let written ← editSource ns name (Source.removeOwner · uid)
      return (if written then 1 else 0) + (← unlinkListed ns uid more)
    | _, _ => unlinkListed ns uid more

/-- Takes an owner from all Sources of a namespace, and counts those that were written. -/
def unlinkSources (ns uid : String) : Attempt StoreError Nat := do
  unlinkListed ns uid (← Attempt.store id (.listSources ns))

end FeedOperator
