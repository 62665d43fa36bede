import FeedOperator.Proofs.Store.Change
import FeedOperator.Reconcile.Owners

/-!
# What edits of owner references do

* `Source.Relinked`: a Source whose owners with one UID may have changed, and nothing else of it.
* `SourceEdit.Relinks`: an edit that does no more than that, and has nothing left to do after it.
* `Store.Relinked`: a store in which at most the Sources under some keys were relinked.
* `EditRound`: how a round of an edit goes.
* `LinkRound`: how linking deals with one short name.

Results:
* `addOwner_relinks`, `removeOwner_relinks`: the two edits are of this kind.
* `editSource_leads`: an edit relinks one Source, and if it does not fail it leaves nothing to do.
* `linkRound_of_leads`: linking goes on after a short name, or it stops at an edit that fails.
* `linkSources_leads`, `unlinkSources_leads`: so do the loops over many Sources, wherever they
  stop. After an unlinking that does not fail only a Source without a name can still be owned.
* `within_linkSources`, `within_unlinkSources`: both loops read and replace Sources, and make no
  other calls.
-/

namespace FeedOperator

/-! ## Edits of one Source -/

/-- A Source whose owners with one UID may have changed, with `new` ones among them, and nothing
else but the version. -/
structure Source.Relinked (uid : String) (new : List OwnerReference) (a b : Source) : Prop where
  frame : ∃ owners version, b = { a with
    metadata := { a.metadata with ownerReferences := owners, resourceVersion := version } }
  others : b.metadata.owners.filter (·.uid != uid) = a.metadata.owners.filter (·.uid != uid)
  origin : ∀ r ∈ b.metadata.owners, r ∈ a.metadata.owners ∨ r ∈ new

namespace Source.Relinked

variable {uid : String} {new : List OwnerReference} {a b c : Source}

theorem refl (uid : String) (new : List OwnerReference) (a : Source) : a.Relinked uid new a :=
  ⟨⟨a.metadata.ownerReferences, a.metadata.resourceVersion, rfl⟩, rfl, fun _ h => .inl h⟩

theorem trans (hab : a.Relinked uid new b) (hbc : b.Relinked uid new c) : a.Relinked uid new c := by
  obtain ⟨owners, version, hb⟩ := hab.frame
  obtain ⟨owners', version', hc⟩ := hbc.frame
  refine ⟨⟨owners', version', by rw [hc, hb]⟩, hbc.others.trans hab.others, fun r hr => ?_⟩
  rcases hbc.origin r hr with h | h
  · exact hab.origin r h
  · exact .inr h

theorem spec_eq (h : a.Relinked uid new b) : b.spec = a.spec := by
  obtain ⟨_, _, rfl⟩ := h.frame
  rfl

theorem status_eq (h : a.Relinked uid new b) : b.status = a.status := by
  obtain ⟨_, _, rfl⟩ := h.frame
  rfl

theorem finalizers_eq (h : a.Relinked uid new b) :
    b.metadata.finalizers = a.metadata.finalizers := by
  obtain ⟨_, _, rfl⟩ := h.frame
  rfl

theorem deletionTimestamp_eq (h : a.Relinked uid new b) :
    b.metadata.deletionTimestamp = a.metadata.deletionTimestamp := by
  obtain ⟨_, _, rfl⟩ := h.frame
  rfl

theorem name_eq (h : a.Relinked uid new b) : b.metadata.name = a.metadata.name := by
  obtain ⟨_, _, rfl⟩ := h.frame
  rfl

theorem key_eq (h : a.Relinked uid new b) : b.key = a.key := by
  obtain ⟨_, _, rfl⟩ := h.frame
  rfl

theorem isLeaving_iff (h : a.Relinked uid new b) : b.IsLeaving ↔ a.IsLeaving := by
  obtain ⟨_, _, rfl⟩ := h.frame
  exact Iff.rfl

/-- A new version makes no difference. -/
theorem inPlaceOf (h : a.Relinked uid new b) (version : String) :
    a.Relinked uid new (b.inPlaceOf a version) := by
  obtain ⟨owners, version', rfl⟩ := h.frame
  exact ⟨⟨owners, version, rfl⟩, h.others, h.origin⟩

/-- Who owns it now did so before or is new. -/
theorem isOwnedBy_of (h : a.Relinked uid new b) {v : String} (hb : b.isOwnedBy v = true) :
    a.isOwnedBy v = true ∨ ∃ r ∈ new, r.uid = v := by
  unfold Source.isOwnedBy Meta.isOwnedBy at *
  rw [List.any_eq_true] at *
  obtain ⟨r, hr, hv⟩ := hb
  rcases h.origin r hr with h | h
  · exact .inl ⟨r, h, hv⟩
  · exact .inr ⟨r, h, by simpa using hv⟩

end Source.Relinked

/-- An edit that changes owners with one UID alone, and has nothing left to do once it was made. -/
structure SourceEdit.Relinks (edit : SourceEdit) (uid : String) (new : List OwnerReference) :
    Prop where
  relinked : ∀ a : Source, a.Relinked uid new (edit a).1
  version_eq : ∀ a : Source, (edit a).1.metadata.resourceVersion = a.metadata.resourceVersion
  settled : ∀ a b : Source, b.metadata.owners = (edit a).1.metadata.owners → (edit b).2 = false

theorem filter_append_of_uid (owners : List OwnerReference) (owner : OwnerReference) :
    (owners ++ [owner]).filter (·.uid != owner.uid) = owners.filter (·.uid != owner.uid) := by
  simp

/-- Making someone an owner is such an edit. -/
theorem addOwner_relinks (owner : OwnerReference) :
    SourceEdit.Relinks (Source.addOwner · owner) owner.uid [owner] := by
  refine ⟨fun a => ?_, fun a => ?_, fun a b hb => ?_⟩
  · unfold Source.addOwner
    split
    · exact .refl _ _ a
    · refine ⟨⟨_, _, rfl⟩, filter_append_of_uid _ owner, fun r hr => ?_⟩
      exact List.mem_append.mp hr
  · unfold Source.addOwner
    split <;> rfl
  · have howned : b.isOwnedBy owner.uid = true := by
      unfold Source.isOwnedBy Meta.isOwnedBy
      rw [hb]
      unfold Source.addOwner
      split
      · next h => exact h
      · simp [Meta.owners]
    simp [Source.addOwner, howned]

theorem owners_removeOwner (a : Source) (uid : String) :
    (a.removeOwner uid).1.metadata.owners = a.metadata.owners.filter (·.uid != uid) := by
  unfold Source.removeOwner
  dsimp only
  by_cases h : (a.metadata.owners.filter (·.uid != uid)).isEmpty = true
  · rw [if_pos h]
    exact (List.isEmpty_iff.mp h).symm
  · rw [if_neg h]
    rfl

/-- Taking someone from the owners is such an edit. -/
theorem removeOwner_relinks (uid : String) :
    SourceEdit.Relinks (Source.removeOwner · uid) uid [] := by
  refine ⟨fun a => ⟨⟨_, _, rfl⟩, ?_, fun r hr => ?_⟩, fun a => rfl, fun a b hb => ?_⟩
  · rw [owners_removeOwner, List.filter_filter]
    simp
  · rw [owners_removeOwner] at hr
    exact .inl (List.mem_of_mem_filter hr)
  · change b.isOwnedBy uid = false
    unfold Source.isOwnedBy Meta.isOwnedBy
    rw [hb, owners_removeOwner]
    simp

/-! ## Stores -/

theorem Source.relinked_evolution (uid : String) (new : List OwnerReference) :
    IsEvolution (Source.Relinked uid new) Object.IsLeaving where
  refl := .refl uid new
  trans h g := h.trans g
  back h := h.isLeaving_iff.mp

/-- A store in which at most the Sources under some keys were relinked. One that was to go anyway
may be gone. -/
abbrev Store.Relinked (uid : String) (new : List OwnerReference) (touched : ObjectKey → Prop)
    (s u : Store) : Prop :=
  s.SourcesChange (Source.Relinked uid new) Object.IsLeaving touched u

namespace Store.Relinked

variable {uid : String} {new : List OwnerReference} {touched touched' : ObjectKey → Prop}
variable {s t u : Store}

theorem refl (s : Store) : s.Relinked uid new touched s :=
  SourcesChange.refl (Source.relinked_evolution uid new) s

theorem of_sameObjects (h : s.SameObjects u) : s.Relinked uid new touched u :=
  SourcesChange.of_sameObjects (Source.relinked_evolution uid new) h

theorem trans (hst : s.Relinked uid new touched t) (htu : t.Relinked uid new touched u) :
    s.Relinked uid new touched u :=
  SourcesChange.trans (Source.relinked_evolution uid new) hst htu

theorem widen (h : s.Relinked uid new touched u) (more : ∀ k, touched k → touched' k) :
    s.Relinked uid new touched' u :=
  SourcesChange.mono h id id more

/-- A replace of a stored Source by one that it was relinked to. -/
theorem of_replace {a b : Source} (hab : a.Relinked uid new b)
    (ha : s.sources.get? a.key = some a) :
    s.Relinked uid new (· = a.key) (s.replaceSource b).2 := by
  have hkey : b.key = a.key := hab.key_eq
  rw [← hkey] at ha ⊢
  refine SourcesChange.of_replace (Source.relinked_evolution uid new) (fun c hc version => ?_)
    fun c hc hleaving => ?_
  · obtain rfl : a = c := Option.some.inj (ha.symm.trans hc)
    exact hab.inPlaceOf version
  · obtain rfl : a = c := Option.some.inj (ha.symm.trans hc)
    exact hab.isLeaving_iff.mp hleaving

end Store.Relinked

/-! ## Runs -/

section Runs

variable {ns name uid : String} {edit : SourceEdit} {new : List OwnerReference}
variable {w : Climate} {s u : Store} {es : List Event}

/-- How a round of an edit goes: a fresh read, and a replace if there is something to do. -/
inductive EditRound (w : Climate) (ns name : String) (edit : SourceEdit) (s : Store) :
    Nat → Except StoreError Bool → Store → Prop
  /-- The Source is not there. -/
  | missing {rounds : Nat} {t : Store} (meets : w.Meets s t)
    (gone : s.sources.get? ⟨ns, name⟩ = none) : EditRound w ns name edit s rounds (.ok false) t
  /-- There is nothing to do. -/
  | idle {rounds : Nat} {a : Source} {t : Store} (meets : w.Meets s t)
    (stored : s.sources.get? ⟨ns, name⟩ = some a) (nothing : (edit a).2 = false) :
    EditRound w ns name edit s rounds (.ok false) t
  /-- The replace goes through. -/
  | written {rounds : Nat} {a written : Source} {t v : Store} (meets : w.Meets s t)
    (stored : s.sources.get? ⟨ns, name⟩ = some a) (changes : (edit a).2 = true)
    (writes : w.Meets t v) (accepted : (v.replaceSource (edit a).1).1 = .ok written) :
    EditRound w ns name edit s rounds (.ok true) (v.replaceSource (edit a).1).2
  /-- It is refused. -/
  | refused {rounds : Nat} {a : Source} {e : StoreError} {t v : Store} (meets : w.Meets s t)
    (stored : s.sources.get? ⟨ns, name⟩ = some a) (changes : (edit a).2 = true)
    (writes : w.Meets t v) (refused : (v.replaceSource (edit a).1).1 = .error e) :
    EditRound w ns name edit s rounds (.error e) (v.replaceSource (edit a).1).2
  /-- It is refused, and the next round begins. -/
  | again {rounds : Nat} {a : Source} {e : StoreError} {t v u : Store} {es : List Event}
    {r : Except StoreError Bool} (meets : w.Meets s t)
    (stored : s.sources.get? ⟨ns, name⟩ = some a) (changes : (edit a).2 = true)
    (writes : w.Meets t v) (refused : (v.replaceSource (edit a).1).1 = .error e)
    (rest : (editSourceWithin ns name edit (rounds + 1)).run.LeadsIn w
      (v.replaceSource (edit a).1).2 es r u) : EditRound w ns name edit s (rounds + 1) r u

theorem editRound_leads {rounds : Nat} {r : Except StoreError Bool}
    (h : (editSourceWithin ns name edit (rounds + 1)).run.LeadsIn w s es r u) :
    EditRound w ns name edit s rounds r u := by
  rw [editSourceWithin, Attempt.leads_bind_iff] at h
  rcases h with ⟨e, hread, -⟩ | ⟨found, _, front, back, hread, hback, -⟩
  · obtain ⟨_, -, -, he, -⟩ := Attempt.leads_store_iff.mp hread
    cases he
  · obtain ⟨t, meets, -, hfound, rfl⟩ := Attempt.leads_store_iff.mp hread
    have hg : s.sources.get? ⟨ns, name⟩ = found := by
      rw [← (w.sameObjects meets).sources]
      exact (Except.ok.inj hfound).symm
    cases found with
    | none =>
      obtain ⟨-, rfl, rfl⟩ := Attempt.leads_pure_iff.mp hback
      exact .missing meets hg
    | some a =>
      simp only at hback
      rcases hedit : edit a with ⟨edited, changes⟩
      rw [hedit] at hback
      cases changes with
      | false =>
        obtain ⟨-, rfl, rfl⟩ := Attempt.leads_pure_iff.mp hback
        exact .idle meets hg (by rw [hedit])
      | true =>
        have hchanges : (edit a).2 = true := by rw [hedit]
        obtain rfl : (edit a).1 = edited := by rw [hedit]
        obtain ⟨answer, _, _, back, hreplace, hback, -⟩ := Attempt.leads_catch_iff.mp hback
        obtain ⟨v, writes, -, rfl, rfl⟩ := Pass.leads_store_iff.mp hreplace
        simp only [Store.answer] at hback
        cases hanswer : (v.replaceSource (edit a).1).1 with
        | ok written =>
          rw [hanswer] at hback
          obtain ⟨-, rfl, rfl⟩ := Attempt.leads_pure_iff.mp hback
          exact .written meets hg hchanges writes hanswer
        | error e =>
          rw [hanswer] at hback
          dsimp only at hback
          split at hback
          · next hagain =>
            simp only [Bool.and_eq_true, bne_iff_ne] at hagain
            obtain ⟨n, rfl⟩ := Nat.exists_eq_succ_of_ne_zero hagain.2
            exact .again meets hg hchanges writes hanswer hback
          · obtain ⟨-, rfl, rfl⟩ := Attempt.leads_throw_iff.mp hback
            exact .refused meets hg hchanges writes hanswer

/-- A replace that was refused leaves the objects alone. -/
theorem sameObjects_of_error {x : Source} {e : StoreError}
    (h : (s.replaceSource x).1 = .error e) : s.SameObjects (s.replaceSource x).2 := by
  rcases s.replaceSource_cases x with ⟨_, _, hsame⟩ | ⟨_, _, hok, _⟩
  · exact hsame
  · rw [h] at hok
    cases hok

/-- What an edit made of a stored Source relinks it, if it goes through, and is settled. -/
theorem relinked_of_written (he : edit.Relinks uid new) (hs : s.Sound) {a written : Source}
    (ha : s.sources.get? ⟨ns, name⟩ = some a)
    (hw : (s.replaceSource (edit a).1).1 = .ok written) :
    s.Relinked uid new (· = ⟨ns, name⟩) (s.replaceSource (edit a).1).2 ∧
      ∀ b, (s.replaceSource (edit a).1).2.sources.get? ⟨ns, name⟩ = some b →
        (edit b).2 = false := by
  have hkey : a.key = ⟨ns, name⟩ := hs.sources.key_eq ha
  have hedited : (edit a).1.key = ⟨ns, name⟩ := (he.relinked a).key_eq.trans hkey
  rcases s.replaceSource_cases (edit a).1 with ⟨_, herror, _⟩ | ⟨stored, w, _, hr, _⟩
  · rw [hw] at herror
    cases herror
  · refine ⟨hkey ▸ .of_replace (he.relinked a) (hkey ▸ ha), fun b hb => ?_⟩
    obtain ⟨version, rfl⟩ := hr.written_eq
    rw [hr.get?_eq, if_pos hedited.symm] at hb
    split at hb
    · cases hb
    · obtain rfl := Option.some.inj hb
      exact he.settled a _ rfl

/-- **One edit.** It relinks the Source at most, and if it does not fail there is nothing left to
do. The induction is on the rounds; each one starts with a fresh read. -/
theorem editSourceWithin_leads (he : edit.Relinks uid new) {rounds : Nat}
    {r : Except StoreError Bool} (hs : s.Sound)
    (h : (editSourceWithin ns name edit (rounds + 1)).run.LeadsIn w s es r u) :
    s.Relinked uid new (· = ⟨ns, name⟩) u ∧
      ∀ written, r = .ok written → ∀ b, u.sources.get? ⟨ns, name⟩ = some b →
        (edit b).2 = false := by
  -- What the replace meets has the objects that were read.
  have met : ∀ {s t v : Store}, s.Sound → w.Meets s t → w.Meets t v →
      s.SameObjects v ∧ v.Sound := fun hs meets writes =>
    ⟨(w.sameObjects meets).trans (w.sameObjects writes), w.sound writes (w.sound meets hs)⟩
  induction rounds using Nat.strongRecOn generalizing s es with
  | ind rounds ih =>
    cases editRound_leads h with
    | missing meets gone =>
      have same := w.sameObjects meets
      refine ⟨.of_sameObjects same, fun _ _ b hb => ?_⟩
      rw [same.sources, gone] at hb
      cases hb
    | idle meets stored nothing =>
      have same := w.sameObjects meets
      refine ⟨.of_sameObjects same, fun _ _ b hb => ?_⟩
      rw [same.sources, stored] at hb
      obtain rfl := Option.some.inj hb
      exact nothing
    | written meets stored _ writes accepted =>
      obtain ⟨same, hv⟩ := met hs meets writes
      rw [← same.sources] at stored
      obtain ⟨hrel, hsettled⟩ := relinked_of_written he hv stored accepted
      exact ⟨.trans (.of_sameObjects same) hrel, fun _ _ => hsettled⟩
    | refused meets _ _ writes refused =>
      have same := (met hs meets writes).1.trans (sameObjects_of_error refused)
      exact ⟨.of_sameObjects same, fun _ h => by cases h⟩
    | again meets _ _ writes refused rest =>
      obtain ⟨same, hv⟩ := met hs meets writes
      obtain ⟨hrel, hsettled⟩ := ih _ (Nat.lt_succ_self _) (Store.sound_replaceSource hv _) rest
      exact ⟨.trans (.of_sameObjects (same.trans (sameObjects_of_error refused))) hrel, hsettled⟩

theorem editSource_leads (he : edit.Relinks uid new) {r : Except StoreError Bool} (hs : s.Sound)
    (h : (editSource ns name edit).run.LeadsIn w s es r u) :
    s.Relinked uid new (· = ⟨ns, name⟩) u ∧
      ∀ written, r = .ok written → ∀ b, u.sources.get? ⟨ns, name⟩ = some b → (edit b).2 = false :=
  editSourceWithin_leads he hs h

/-- The keys in a namespace under which the Sources of a list stand that have a name. -/
def NamedIn (ns : String) (listed : List Source) (k : ObjectKey) : Prop :=
  k.ns = ns ∧ ∃ a ∈ listed, a.metadata.name = some k.name

/-- What stands under such a key has the name of the key, if what was listed is what is stored. -/
theorem NamedIn.name_eq (hs : s.Sound) {k : ObjectKey} {a : Source}
    (h : NamedIn ns (s.sources.inNamespace ns) k) (ha : s.sources.get? k = some a) :
    a.metadata.name = some k.name := by
  obtain ⟨hns, b, hlisted, hname⟩ := h
  obtain ⟨j, hb, hj⟩ := (Catalog.mem_inNamespace_iff hs.sources.ordered).mp hlisted
  have hjk : j = k := by
    have hkey : ObjectKey.ofMeta b.metadata = j := hs.sources.key_eq hb
    have hjname : j.name = k.name := by
      rw [← hkey]
      simp [ObjectKey.ofMeta, hname]
    cases j; cases k
    simp only at hj hns hjname
    rw [hj, hns, hjname]
  rw [hjk, ha] at hb
  exact Option.some.inj hb ▸ hname

/-- How linking deals with the first of some short names. -/
inductive LinkRound (w : Climate) (ns : String) (owner : OwnerReference) (listed : List Source)
    (n : String) (more : List String) (s : Store) :
    List Event → Except StoreError (List String) → Store → Prop
  /-- It passes over it. -/
  | passed {es : List Event} {r : Except StoreError (List String)} {u : Store}
    (missing : (findByShortName listed n).bind (·.metadata.name) = none)
    (rest : (linkListed ns owner listed more).run.LeadsIn w s es r u) :
    LinkRound w ns owner listed n more s es r u
  /-- It stops at an edit that fails. -/
  | stopped {es : List Event} {u : Store} {source : Source} {name : String} {e : StoreError}
    (found : findByShortName listed n = some source) (named : source.metadata.name = some name)
    (free : source.isOwnedBy owner.uid = false)
    (edit : (editSource ns name (Source.addOwner · owner)).run.LeadsIn w s es (.error e) u) :
    LinkRound w ns owner listed n more s es (.error e) u
  /-- It goes on after an edit. -/
  | edited {front back : List Event} {r : Except StoreError (List String)} {t u : Store}
    {source : Source} {name : String} {written : Bool}
    (found : findByShortName listed n = some source) (named : source.metadata.name = some name)
    (free : source.isOwnedBy owner.uid = false)
    (edit : (editSource ns name (Source.addOwner · owner)).run.LeadsIn w s front (.ok written) t)
    (rest : (linkListed ns owner listed more).run.LeadsIn w t back r u) :
    LinkRound w ns owner listed n more s (front ++ back) (r.map (name :: ·)) u
  /-- It goes on without one, as the Source has the owner. -/
  | owned {es : List Event} {r : Except StoreError (List String)} {u : Store} {source : Source}
    {name : String} (found : findByShortName listed n = some source)
    (named : source.metadata.name = some name) (owned : source.isOwnedBy owner.uid = true)
    (rest : (linkListed ns owner listed more).run.LeadsIn w s es r u) :
    LinkRound w ns owner listed n more s es (r.map (name :: ·)) u

theorem linkRound_of_leads {owner : OwnerReference} {listed : List Source} {n : String}
    {more : List String} {r : Except StoreError (List String)}
    (h : (linkListed ns owner listed (n :: more)).run.LeadsIn w s es r u) :
    LinkRound w ns owner listed n more s es r u := by
  unfold linkListed at h
  split at h
  · next hnone => exact .passed (by rw [hnone]; rfl) h
  · next source hfound =>
    split at h
    · next hname => exact .passed (by rw [hfound]; exact hname) h
    · next name hname =>
      by_cases howned : source.isOwnedBy owner.uid = true
      · rw [if_neg (by simp [howned])] at h
        obtain ⟨r', hrest, rfl⟩ := Attempt.leads_thenReturn_iff.mp h
        exact .owned hfound hname howned hrest
      · have hfree := Bool.eq_false_iff.mpr howned
        rw [if_pos (by simp [hfree])] at h
        rcases Attempt.leads_bind_iff.mp h with ⟨e, hedit, rfl⟩ | ⟨_, t, _, _, hedit, hback, rfl⟩
        · exact .stopped hfound hname hfree hedit
        · obtain ⟨r', hrest, rfl⟩ := Attempt.leads_thenReturn_iff.mp hback
          exact .edited hfound hname hfree hedit hrest

/-- Linking what was listed relinks Sources with a name, wherever it stops. -/
theorem linkListed_leads {owner : OwnerReference} {listed : List Source} {names : List String}
    {r : Except StoreError (List String)} (hs : s.Sound)
    (h : (linkListed ns owner listed names).run.LeadsIn w s es r u) :
    s.Relinked owner.uid [owner] (NamedIn ns listed) u := by
  induction names generalizing s es r with
  | nil =>
    obtain ⟨-, -, rfl⟩ := Attempt.leads_pure_iff.mp h
    exact .refl s
  | cons n more ih =>
    have hnamed : ∀ {source name}, findByShortName listed n = some source →
        source.metadata.name = some name → ∀ k, k = ⟨ns, name⟩ → NamedIn ns listed k := by
      rintro source name hfound hname _ rfl
      exact ⟨rfl, source, List.mem_of_find?_eq_some hfound, hname⟩
    cases linkRound_of_leads h with
    | passed _ rest => exact ih hs rest
    | owned _ _ _ rest => exact ih hs rest
    | stopped found named _ edit =>
      exact (editSource_leads (addOwner_relinks owner) hs edit).1.widen (hnamed found named)
    | edited found named _ edit rest =>
      have first := (editSource_leads (addOwner_relinks owner) hs edit).1
      exact (first.widen (hnamed found named)).trans (ih (edit.sound hs) rest)

theorem linkSources_leads {hotNews : HotNews} {names : List String}
    {r : Except StoreError (List String)} (hs : s.Sound)
    (h : (linkSources ns hotNews names).run.LeadsIn w s es r u) :
    s.SameObjects u ∨ ∃ owner, hotNews.ownerReference? = some owner ∧
      s.Relinked owner.uid [owner] (NamedIn ns (s.sources.inNamespace ns)) u := by
  unfold linkSources at h
  split at h
  · obtain ⟨-, -, rfl⟩ := Attempt.leads_throw_iff.mp h
    exact .inl ⟨rfl, rfl, rfl⟩
  · next owner howner =>
    rcases Attempt.leads_bind_iff.mp h with ⟨e, hlist, -⟩ | ⟨listed, _, _, _, hlist, hlink, -⟩
    · obtain ⟨t, meets, -, -, rfl⟩ := Attempt.leads_store_iff.mp hlist
      exact .inl (w.sameObjects meets)
    · obtain ⟨t, meets, -, hlisted, rfl⟩ := Attempt.leads_store_iff.mp hlist
      have same := w.sameObjects meets
      simp only [Store.answer, same.sources] at hlisted hlink
      split at hlisted
      · cases hlisted
      · cases hlisted
        exact .inr ⟨owner, howner,
          .trans (.of_sameObjects same) (linkListed_leads (w.sound meets hs) hlink)⟩

/-- Unlinking what was listed relinks Sources with a name, wherever it stops; if it does not fail,
then none of those that were owned is owned any more. -/
theorem unlinkListed_leads {listed : List Source} {r : Except StoreError Nat} (hs : s.Sound)
    (h : (unlinkListed ns uid listed).run.LeadsIn w s es r u) :
    s.Relinked uid [] (NamedIn ns listed) u ∧
      ∀ n, r = .ok n → ∀ a ∈ listed, a.isOwnedBy uid = true → ∀ name, a.metadata.name = some name →
        ∀ b, u.sources.get? ⟨ns, name⟩ = some b → b.isOwnedBy uid = false := by
  induction listed generalizing s es r with
  | nil =>
    obtain ⟨-, -, rfl⟩ := Attempt.leads_pure_iff.mp h
    exact ⟨.refl s, fun _ _ a ha => absurd ha List.not_mem_nil⟩
  | cons source more ih =>
    have hmore : ∀ k, NamedIn ns more k → NamedIn ns (source :: more) k :=
      fun k ⟨hns, a, ha, hname⟩ => ⟨hns, a, List.mem_cons_of_mem _ ha, hname⟩
    unfold unlinkListed at h
    split at h
    · next name howned hname =>
      have hnamed : ∀ k, k = ⟨ns, name⟩ → NamedIn ns (source :: more) k := by
        rintro _ rfl
        exact ⟨rfl, source, List.mem_cons_self, hname⟩
      rcases Attempt.leads_bind_iff.mp h with ⟨e, hedit, rfl⟩ | ⟨_, t, _, _, hedit, hback, -⟩
      · exact ⟨(editSource_leads (removeOwner_relinks uid) hs hedit).1.widen hnamed,
          fun _ h => by cases h⟩
      · obtain ⟨hfirst, hsettled⟩ := editSource_leads (removeOwner_relinks uid) hs hedit
        have ht := hedit.sound hs
        rcases Attempt.leads_bind_iff.mp hback with ⟨e, hloop, rfl⟩ | ⟨_, v, _, _, hloop, hpure, -⟩
        · exact ⟨(hfirst.widen hnamed).trans ((ih ht hloop).1.widen hmore), fun _ h => by cases h⟩
        · obtain ⟨-, -, rfl⟩ := Attempt.leads_pure_iff.mp hpure
          obtain ⟨hrel, hfree⟩ := ih ht hloop
          refine ⟨(hfirst.widen hnamed).trans (hrel.widen hmore), fun n _ a ha ho nm hnm b hb => ?_⟩
          rcases List.mem_cons.mp ha with rfl | ha
          · -- The edit left this one free, and what is unlinked later owns nothing new.
            obtain rfl : name = nm := Option.some.inj (hname.symm.trans hnm)
            have hev := hrel.sources.evolves ⟨ns, name⟩
            rw [hb] at hev
            obtain ⟨c, hc, hcb⟩ := hev.before
            have hfree : c.isOwnedBy uid = false := hsettled _ rfl c hc
            rw [Bool.eq_false_iff]
            intro hbad
            rcases hcb.isOwnedBy_of hbad with hbad | ⟨_, hnil, -⟩
            · rw [hfree] at hbad
              cases hbad
            · exact List.not_mem_nil hnil
          · exact hfree _ rfl a ha ho nm hnm b hb
    · next hnot =>
      obtain ⟨hrel, hfree⟩ := ih hs h
      refine ⟨hrel.widen hmore, fun n hn a ha ho name hname => ?_⟩
      rcases List.mem_cons.mp ha with rfl | ha
      · exact absurd hname (hnot name ho)
      · exact hfree n hn a ha ho name hname

/-- **Unlinking leaves no Source of the namespace that is owned**, but for one without a name, if it
does not fail. -/
theorem unlinkSources_leads {r : Except StoreError Nat} (hs : s.Sound)
    (h : (unlinkSources ns uid).run.LeadsIn w s es r u) :
    s.Relinked uid [] (NamedIn ns (s.sources.inNamespace ns)) u ∧
      ∀ n, r = .ok n → ∀ k b, k.ns = ns → u.sources.get? k = some b → b.isOwnedBy uid = true →
        b.metadata.name = none := by
  unfold unlinkSources at h
  rcases Attempt.leads_bind_iff.mp h with ⟨e, hlist, rfl⟩ | ⟨listed, _, _, _, hlist, hloop, -⟩
  · obtain ⟨t, meets, -, -, rfl⟩ := Attempt.leads_store_iff.mp hlist
    exact ⟨.of_sameObjects (w.sameObjects meets), fun _ h => by cases h⟩
  · obtain ⟨t, meets, -, hlisted, rfl⟩ := Attempt.leads_store_iff.mp hlist
    have same := w.sameObjects meets
    simp only [Store.answer, same.sources] at hlisted hloop
    split at hlisted
    · cases hlisted
    · cases hlisted
      obtain ⟨hlinks, hfree⟩ := unlinkListed_leads (w.sound meets hs) hloop
      have hrel : s.Relinked uid [] (NamedIn ns (s.sources.inNamespace ns)) u :=
        .trans (.of_sameObjects same) hlinks
      refine ⟨hrel, fun n hn k b hk hb ho => ?_⟩
      have hev := hrel.sources.evolves k
      rw [hb] at hev
      obtain ⟨a, ha, hab⟩ := hev.before
      cases hname : a.metadata.name with
      | none => exact hab.name_eq.trans hname
      | some name =>
        have hlisted : a ∈ s.sources.inNamespace ns :=
          (Catalog.mem_inNamespace_iff hs.sources.ordered).mpr ⟨k, ha, hk⟩
        have howned : a.isOwnedBy uid = true := by
          rcases hab.isOwnedBy_of ho with h | ⟨_, hnil, -⟩
          · exact h
          · exact absurd hnil List.not_mem_nil
        have hkey : k = ⟨ns, name⟩ := by
          have hname' : k.name = name := by
            rw [← hs.sources.key_eq ha]
            simp [ObjectKey.ofMeta, hname]
          rw [← hk, ← hname']
        have := hfree n hn a hlisted howned name hname b (hkey ▸ hb)
        rw [ho] at this
        cases this

end Runs

/-! ## Calls -/

/-- Whether a call reads Sources or replaces one. -/
def Call.EditsSources : Call → Prop
  | .store (.getSource _ _) | .store (.listSources _) | .store (.replaceSource _) => True
  | _ => False

section Calls

variable (ns : String)

theorem within_editSourceWithin (name : String) (edit : SourceEdit) (rounds : Nat) :
    (editSourceWithin ns name edit rounds).run.Within Call.EditsSources := by
  induction rounds with
  | zero => exact trivial
  | succ rounds ih =>
    refine Attempt.within_bind (Attempt.within_store trivial) fun found => ?_
    cases found with
    | none => exact trivial
    | some source =>
      dsimp only
      split
      · exact trivial
      · refine Attempt.within_bind (Attempt.within_ofPass (Pass.within_store trivial))
          fun answer => ?_
        cases answer with
        | ok => exact trivial
        | error e =>
          dsimp only
          split
          · exact ih
          · exact trivial

theorem within_linkListed (owner : OwnerReference) (listed : List Source) (names : List String) :
    (linkListed ns owner listed names).run.Within Call.EditsSources := by
  induction names with
  | nil => exact trivial
  | cons shortName more ih =>
    have hrest : ∀ name, (do return name :: (← linkListed ns owner listed more) :
        Attempt StoreError (List String)).run.Within Call.EditsSources :=
      fun _ => Attempt.within_bind ih fun _ => trivial
    unfold linkListed
    split
    · exact ih
    · split
      · exact ih
      · split
        · exact Attempt.within_bind (within_editSourceWithin ns _ _ _) fun _ => hrest _
        · exact hrest _

/-- Linking reads and replaces Sources, and makes no other calls. -/
theorem within_linkSources (hotNews : HotNews) (names : List String) :
    (linkSources ns hotNews names).run.Within Call.EditsSources := by
  unfold linkSources
  split
  · exact trivial
  · exact Attempt.within_bind (Attempt.within_store trivial) fun _ => within_linkListed ns _ _ _

theorem within_unlinkListed (uid : String) (listed : List Source) :
    (unlinkListed ns uid listed).run.Within Call.EditsSources := by
  induction listed with
  | nil => exact trivial
  | cons source more ih =>
    unfold unlinkListed
    split
    · exact Attempt.within_bind (within_editSourceWithin ns _ _ _)
        fun _ => Attempt.within_bind ih fun _ => trivial
    · exact ih

/-- So does unlinking. -/
theorem within_unlinkSources (uid : String) :
    (unlinkSources ns uid).run.Within Call.EditsSources :=
  Attempt.within_bind (Attempt.within_store trivial) fun _ => within_unlinkListed ns uid _

end Calls

/-- Linking makes no request to the service. -/
theorem withoutRequests_of_linking {w : Climate} {ns : String} {hotNews : HotNews}
    {names : List String} {s u : Store} {es : List Event} {r : Except StoreError (List String)}
    (h : (linkSources ns hotNews names).run.LeadsIn w s es r u) : WithoutRequests es :=
  h.onStore ((within_linkSources ns hotNews names).onStore fun _ => id)

/-- Unlinking makes no request to the service. -/
theorem withoutRequests_of_unlinking {w : Climate} {ns uid : String} {s u : Store}
    {es : List Event} {r : Except StoreError Nat}
    (h : (unlinkSources ns uid).run.LeadsIn w s es r u) : WithoutRequests es :=
  h.onStore ((within_unlinkSources ns uid).onStore fun _ => id)

end FeedOperator
