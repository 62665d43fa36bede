import FeedOperator.Proofs.Reconcile.Owners
import FeedOperator.Proofs.Store.View

/-!
# What unlinking does, wherever it stops

Unlinking takes an owner from all Sources of a namespace. It may be cut short at any of them, when
the Sources before it have lost the owner already.

* `Source.withoutOwner`: a Source without the owners with a UID.
* `Store.SourcesStay`: a store in which no Source goes with its next replace.
* `Store.Parts`: a store in which exactly the Sources under some keys lost an owner.
* `Unlinked`: how an unlinking can end.

Results:
* `editSource_parts`: one edit takes the owner from its Source, or fails with a conflict and does
  nothing.
* `unlinkSources_unlinked`: unlinking takes the owner from all Sources of the namespace, or it fails
  and took it from some of them.
* `unlinkSources_failure`: where the failures that are due do not change, unlinking fails only if
  there are any, and then it has done nothing.
-/

namespace FeedOperator

/-! ## One Source -/

namespace Source

variable {a : Source} {uid : String}

/-- The Source without the owners with a UID, if there are any. -/
def withoutOwner (a : Source) (uid : String) : Source :=
  if a.isOwnedBy uid then (a.removeOwner uid).1 else a

theorem withoutOwner_of_isOwnedBy (h : a.isOwnedBy uid = true) :
    a.withoutOwner uid = (a.removeOwner uid).1 :=
  if_pos h

theorem withoutOwner_of_not_isOwnedBy (h : a.isOwnedBy uid = false) : a.withoutOwner uid = a := by
  simp [withoutOwner, h]

/-- All other owners stay, in their order. -/
theorem owners_withoutOwner (a : Source) (uid : String) :
    (a.withoutOwner uid).metadata.owners = a.metadata.owners.filter (·.uid != uid) := by
  cases h : a.isOwnedBy uid with
  | true => rw [withoutOwner_of_isOwnedBy h, owners_removeOwner]
  | false =>
    rw [withoutOwner_of_not_isOwnedBy h, eq_comm, List.filter_eq_self]
    intro r hr
    simpa using List.any_eq_false.mp h r hr

theorem isOwnedBy_withoutOwner (a : Source) (uid : String) :
    (a.withoutOwner uid).isOwnedBy uid = false := by
  unfold isOwnedBy Meta.isOwnedBy
  rw [owners_withoutOwner]
  simp

theorem withoutOwner_withoutOwner (a : Source) (uid : String) :
    (a.withoutOwner uid).withoutOwner uid = a.withoutOwner uid :=
  withoutOwner_of_not_isOwnedBy (a.isOwnedBy_withoutOwner uid)

theorem unversioned_withoutOwner (a : Source) (uid : String) :
    (a.withoutOwner uid).unversioned = withoutOwner a.unversioned uid := by
  have howned : isOwnedBy a.unversioned uid = a.isOwnedBy uid := rfl
  unfold withoutOwner
  rw [howned]
  split <;> rfl

theorem withoutOwner_relinked (a : Source) (uid : String) :
    a.Relinked uid [] (a.withoutOwner uid) := by
  unfold withoutOwner
  split
  · exact (removeOwner_relinks uid).relinked a
  · exact .refl uid [] a

end Source

/-! ## Stores -/

namespace Store

/-- A store in which no Source goes with its next replace. -/
def SourcesStay (s : Store) : Prop :=
  ∀ k a, s.sources.get? k = some a → ¬ a.IsLeaving

/-- A store in which the Sources under some keys lost an owner, and nothing else happened. -/
structure Parts (uid : String) (P : ObjectKey → Prop) (s u : Store) : Prop where
  parted : ∀ k, P k → u.sources.view k = (s.sources.view k).map (Source.withoutOwner · uid)
  elsewhere : ∀ k, ¬ P k → u.sources.view k = s.sources.view k
  rest : s.SameButSources u

variable {uid : String} {P Q : ObjectKey → Prop} {s t u : Store}

namespace Parts

theorem of_sameObjects (h : s.SameObjects u) : s.Parts uid (fun _ => False) u := by
  refine ⟨fun _ h => h.elim, fun k _ => ?_, h.hotNews, h.configMaps⟩
  rw [h.sources]

theorem refl (s : Store) : s.Parts uid (fun _ => False) s :=
  of_sameObjects ⟨rfl, rfl, rfl⟩

theorem congr (h : s.Parts uid P u) (hPQ : ∀ k, P k ↔ Q k) : s.Parts uid Q u :=
  ⟨fun k hk => h.parted k ((hPQ k).mpr hk), fun k hk => h.elsewhere k (mt (hPQ k).mp hk), h.rest⟩

theorem trans (hst : s.Parts uid P t) (htu : t.Parts uid Q u) :
    s.Parts uid (fun k => P k ∨ Q k) u := by
  refine ⟨fun k hk => ?_, fun k hk => ?_, htu.rest.hotNews.trans hst.rest.hotNews,
    htu.rest.configMaps.trans hst.rest.configMaps⟩
  · by_cases hP : P k
    · by_cases hQ : Q k
      · rw [htu.parted k hQ, hst.parted k hP, Option.map_map]
        simp [Function.comp_def, Source.withoutOwner_withoutOwner]
      · rw [htu.elsewhere k hQ, hst.parted k hP]
    · rw [htu.parted k (hk.resolve_left hP), hst.elsewhere k hP]
  · rw [not_or] at hk
    rw [htu.elsewhere k hk.2, hst.elsewhere k hk.1]

/-- Sources that did not have the owner may count as such that lost it. -/
theorem widen (h : s.Parts uid P u) (more : ∀ k, P k → Q k)
    (free : ∀ k, Q k → ¬ P k → ∀ a, s.sources.get? k = some a → a.isOwnedBy uid = false) :
    s.Parts uid Q u := by
  refine ⟨fun k hk => ?_, fun k hk => h.elsewhere k (mt (more k) hk), h.rest⟩
  by_cases hP : P k
  · exact h.parted k hP
  · rw [h.elsewhere k hP]
    unfold Catalog.view
    cases ha : s.sources.get? k with
    | none => rfl
    | some a =>
      rw [Option.map_some, Option.map_some, ← Source.unversioned_withoutOwner,
        Source.withoutOwner_of_not_isOwnedBy (free k hk hP a ha)]

theorem evolves (h : s.Parts uid P u) {k : ObjectKey} {b : Source}
    (hb : u.sources.get? k = some b) : ∃ a, s.sources.get? k = some a ∧
      (b.unversioned = a.unversioned ∨ b.unversioned = (a.withoutOwner uid).unversioned) := by
  by_cases hP : P k
  · obtain ⟨a, ha, heq⟩ := Catalog.before_of_view_eq (h.parted k hP) hb
    exact ⟨a, ha, .inr (heq.trans (Source.unversioned_withoutOwner a uid).symm)⟩
  · have hview := Catalog.view_of_get? hb
    rw [h.elsewhere k hP] at hview
    obtain ⟨a, ha, heq⟩ := Catalog.get?_of_view hview
    exact ⟨a, ha, .inl heq.symm⟩

theorem named (h : s.Parts uid P u)
    (hs : ∀ k a, s.sources.get? k = some a → a.metadata.name ≠ none) (k : ObjectKey) (b : Source)
    (hb : u.sources.get? k = some b) : b.metadata.name ≠ none := by
  obtain ⟨a, ha, heq | heq⟩ := h.evolves hb
  · have : b.metadata.name = a.metadata.name := congrArg (·.metadata.name) heq
    exact this ▸ hs k a ha
  · have : b.metadata.name = (a.withoutOwner uid).metadata.name := congrArg (·.metadata.name) heq
    exact (this.trans (a.withoutOwner_relinked uid).name_eq) ▸ hs k a ha

theorem stay (h : s.Parts uid P u) (hs : s.SourcesStay) : u.SourcesStay := by
  intro k b hb hl
  obtain ⟨a, ha, heq | heq⟩ := h.evolves hb
  · have : a.unversioned.IsLeaving := heq ▸ hl
    exact hs k a ha this
  · have : (a.withoutOwner uid).unversioned.IsLeaving := heq ▸ hl
    exact hs k a ha ((a.withoutOwner_relinked uid).isLeaving_iff.mp this)

end Parts

theorem SourcesStay.of_sameObjects (hs : s.SourcesStay) (h : s.SameObjects t) : t.SourcesStay :=
  fun k a ha => hs k a (h.sources ▸ ha)

end Store

/-! ## Runs -/

section Runs

variable {ns name uid : String} {w : Climate} {s u : Store} {es : List Event}

/-- A replace that takes the owner from a stored Source goes through unless a conflict is due. -/
theorem replaceSource_parts {a : Source} (hs : s.Sound) (stay : s.SourcesStay)
    (ha : s.sources.get? ⟨ns, name⟩ = some a) (owned : a.isOwnedBy uid = true) :
    (∃ written, (s.replaceSource (a.removeOwner uid).1).1 = .ok written) ∧
        s.Parts uid (· = ⟨ns, name⟩) (s.replaceSource (a.removeOwner uid).1).2 ∨
      (∃ n, (s.replaceSource (a.removeOwner uid).1).1 = .error (.conflict n)) ∧
        s.SameObjects (s.replaceSource (a.removeOwner uid).1).2 := by
  rw [← Source.withoutOwner_of_isOwnedBy owned]
  have relinked := Source.withoutOwner_relinked a uid
  have hkey : (a.withoutOwner uid).key = ⟨ns, name⟩ := relinked.key_eq.trans (hs.source_key ha)
  by_cases calm : s.sourceConflicts = 0
  · obtain ⟨written, hw, hr⟩ := Store.replaceSource_of_current calm (hkey.symm ▸ ha)
      (by unfold Source.withoutOwner; split <;> rfl)
    have stays : (a.withoutOwner uid).metadata.isReleased = false := by
      rw [Bool.eq_false_iff]
      exact fun hl => stay _ a ha (relinked.isLeaving_iff.mp hl)
    have hview := hr.view_eq stays relinked.status_eq
    refine .inl ⟨⟨written, hw⟩, fun k hk => ?_, fun k hk => ?_, ?_⟩
    · rw [hview, if_pos (hk.trans hkey.symm), hk, Catalog.view_of_get? ha]
      exact congrArg some (Source.unversioned_withoutOwner a uid)
    · rw [hview, if_neg fun h => hk (h.trans hkey)]
    · rcases s.replaceSource_cases (a.withoutOwner uid) with ⟨_, he, -⟩ | ⟨_, _, _, _, rest⟩
      · cases hw.symm.trans he
      · exact rest
  · unfold Store.replaceSource
    rw [if_neg calm]
    exact .inr ⟨⟨_, rfl⟩, rfl, rfl, rfl⟩

/-- A round of an edit that takes the owner from a Source does so, or it meets a conflict and leaves
it to the next round, if there is one. -/
theorem EditRound.parts {rounds : Nat} {r : Except StoreError Bool} (hs : s.Sound)
    (stay : s.SourcesStay) (h : EditRound w ns name (Source.removeOwner · uid) s rounds r u) :
    (∃ written, r = .ok written) ∧ s.Parts uid (· = ⟨ns, name⟩) u ∨
      ∃ t, s.SameObjects t ∧ t.Sound ∧
        (u = t ∧ (∃ n, r = .error (.conflict n)) ∨
          ∃ n es, rounds = n + 1 ∧
            (editSourceWithin ns name (Source.removeOwner · uid) (n + 1)).run.LeadsIn w t es r
              u) := by
  have free : ∀ {u}, s.SameObjects u →
      (∀ a, s.sources.get? ⟨ns, name⟩ = some a → a.isOwnedBy uid = false) →
      s.Parts uid (· = ⟨ns, name⟩) u := by
    intro u same hfree
    refine (Store.Parts.of_sameObjects same).widen (fun _ h => h.elim) ?_
    rintro k rfl - a ha
    exact hfree a ha
  -- What is met where the Source is replaced, and what comes of that.
  have replaced : ∀ {t v : Store} {a : Source}, w.Meets s t → w.Meets t v →
      s.sources.get? ⟨ns, name⟩ = some a → (a.removeOwner uid).2 = true →
      s.SameObjects v ∧ v.Sound ∧
        ((∃ written, (v.replaceSource (a.removeOwner uid).1).1 = .ok written) ∧
            v.Parts uid (· = ⟨ns, name⟩) (v.replaceSource (a.removeOwner uid).1).2 ∨
          (∃ n, (v.replaceSource (a.removeOwner uid).1).1 = .error (.conflict n)) ∧
            v.SameObjects (v.replaceSource (a.removeOwner uid).1).2) := by
    intro t v a meets writes stored owned
    have same := (w.sameObjects meets).trans (w.sameObjects writes)
    have hv := w.sound writes (w.sound meets hs)
    exact ⟨same, hv,
      replaceSource_parts hv (stay.of_sameObjects same) (same.sources ▸ stored) owned⟩
  cases h with
  | missing meets gone =>
    refine .inl ⟨⟨_, rfl⟩, free (w.sameObjects meets) fun a stored => ?_⟩
    cases gone.symm.trans stored
  | idle meets stored nothing =>
    refine .inl ⟨⟨_, rfl⟩, free (w.sameObjects meets) fun b hb => ?_⟩
    obtain rfl := Option.some.inj (stored.symm.trans hb)
    exact nothing
  | written meets stored changes writes accepted =>
    obtain ⟨same, -, ⟨-, parts⟩ | ⟨⟨_, hconflict⟩, -⟩⟩ := replaced meets writes stored changes
    · exact .inl ⟨⟨_, rfl⟩, ((Store.Parts.of_sameObjects same).trans parts).congr (by simp)⟩
    · cases accepted.symm.trans hconflict
  | refused meets stored changes writes refused =>
    obtain ⟨same, hv, ⟨⟨_, hok⟩, -⟩ | ⟨⟨n, hconflict⟩, kept⟩⟩ :=
      replaced meets writes stored changes
    · cases refused.symm.trans hok
    · obtain rfl := Except.error.inj (refused.symm.trans hconflict)
      exact .inr ⟨_, same.trans kept, Store.sound_replaceSource hv _, .inl ⟨rfl, n, rfl⟩⟩
  | again meets stored changes writes refused rest =>
    obtain ⟨same, hv, ⟨⟨_, hok⟩, -⟩ | ⟨-, kept⟩⟩ := replaced meets writes stored changes
    · cases refused.symm.trans hok
    · exact .inr ⟨_, same.trans kept, Store.sound_replaceSource hv _, .inr ⟨_, _, rfl, rest⟩⟩

/-- An edit that takes the owner from a Source does so, or it meets conflicts in all its rounds and
does nothing. -/
theorem editSource_parts {r : Except StoreError Bool} (hs : s.Sound) (stay : s.SourcesStay)
    (h : (editSource ns name (Source.removeOwner · uid)).run.LeadsIn w s es r u) :
    (∃ written, r = .ok written) ∧ s.Parts uid (· = ⟨ns, name⟩) u ∨
      (∃ n, r = .error (.conflict n)) ∧ s.SameObjects u := by
  have rounds : ∀ {n : Nat} {s : Store} {es : List Event}, s.Sound → s.SourcesStay →
      (editSourceWithin ns name (Source.removeOwner · uid) (n + 1)).run.LeadsIn w s es r u →
      (∃ written, r = .ok written) ∧ s.Parts uid (· = ⟨ns, name⟩) u ∨
        (∃ n, r = .error (.conflict n)) ∧ s.SameObjects u := by
    intro n
    induction n with
    | zero =>
      intro s es hs stay h
      rcases (editRound_leads h).parts hs stay with
        done | ⟨t, same, -, ⟨rfl, conflict⟩ | ⟨n, _, h0, -⟩⟩
      · exact .inl done
      · exact .inr ⟨conflict, same⟩
      · cases h0
    | succ n ih =>
      intro s es hs stay h
      rcases (editRound_leads h).parts hs stay with
        done | ⟨t, same, ht, ⟨rfl, conflict⟩ | ⟨_, _, h1, h⟩⟩
      · exact .inl done
      · exact .inr ⟨conflict, same⟩
      · obtain rfl := Nat.succ.inj h1
        rcases ih ht (stay.of_sameObjects same) h with ⟨ok, parts⟩ | ⟨conflict, same'⟩
        · exact .inl ⟨ok, ((Store.Parts.of_sameObjects same).trans parts).congr (by simp)⟩
        · exact .inr ⟨conflict, same.trans same'⟩
  exact rounds hs stay h

/-- The keys in a namespace under which the Sources of a list stand that have an owner. -/
def OwnedIn (ns uid : String) (listed : List Source) (k : ObjectKey) : Prop :=
  k.ns = ns ∧ ∃ a ∈ listed, a.isOwnedBy uid = true ∧ a.metadata.name = some k.name

theorem ownedIn_cons_iff {source : Source} {more : List Source} {k : ObjectKey} :
    OwnedIn ns uid (source :: more) k ↔
      (k.ns = ns ∧ source.isOwnedBy uid = true ∧ source.metadata.name = some k.name) ∨
        OwnedIn ns uid more k := by
  simp only [OwnedIn, List.mem_cons, exists_eq_or_imp]
  tauto

/-- What fails an unlinking: the list of Sources, or conflicts in all rounds of an edit. -/
def StoreError.StopsUnlinking (e : StoreError) : Prop :=
  e = Store.failed 500 "list failed" ∨ ∃ n, e = .conflict n

/-- How an unlinking can end that is to take an owner from the Sources under some keys of a
namespace. -/
inductive Unlinked (ns uid : String) (P : ObjectKey → Prop) (s : Store) :
    Except StoreError Nat → Store → Prop
  /-- All of them lost it. -/
  | whole {n : Nat} {u : Store} (parts : s.Parts uid P u) : Unlinked ns uid P s (.ok n) u
  /-- It failed, and some of them lost it. -/
  | broken {e : StoreError} {Q : ObjectKey → Prop} {u : Store} (why : e.StopsUnlinking)
    (inside : ∀ k, Q k → k.ns = ns) (parts : s.Parts uid Q u) : Unlinked ns uid P s (.error e) u

/-- Unlinking what was listed takes the owner from each Source in turn. The induction is on the
list; what an edit leaves is where the rest starts. -/
theorem unlinkListed_unlinked {listed : List Source} {r : Except StoreError Nat} (hs : s.Sound)
    (stay : s.SourcesStay) (h : (unlinkListed ns uid listed).run.LeadsIn w s es r u) :
    Unlinked ns uid (OwnedIn ns uid listed) s r u := by
  induction listed generalizing s es r with
  | nil =>
    obtain ⟨-, rfl, rfl⟩ := Attempt.leads_pure_iff.mp h
    exact .whole ((Store.Parts.refl _).congr fun k => by simp [OwnedIn])
  | cons source more ih =>
    unfold unlinkListed at h
    split at h
    · next name howned hname =>
      have first : ∀ k : ObjectKey, (k = ⟨ns, name⟩ ∨ OwnedIn ns uid more k) ↔
          OwnedIn ns uid (source :: more) k := by
        rintro ⟨ns', name'⟩
        rw [ownedIn_cons_iff, howned, hname, ObjectKey.mk.injEq, Option.some.injEq]
        simp only [true_and, eq_comm]
      rcases Attempt.leads_bind_iff.mp h with
        ⟨e, hedit, rfl⟩ | ⟨written, t, _, _, hedit, hrest, -⟩
      · rcases editSource_parts hs stay hedit with ⟨⟨_, hok⟩, -⟩ | ⟨⟨n, hconflict⟩, same⟩
        · cases hok
        · exact .broken (.inr ⟨n, Except.error.inj hconflict⟩) (fun _ h => h.elim)
            (.of_sameObjects same)
      · rcases editSource_parts hs stay hedit with ⟨-, parts⟩ | ⟨⟨_, herror⟩, -⟩
        · obtain ⟨r', hloop, rfl⟩ := Attempt.leads_thenReturn_iff.mp hrest
          cases ih (hedit.sound hs) (parts.stay stay) hloop with
          | broken why inside more =>
            refine .broken why (fun k hk => ?_) (parts.trans more)
            rcases hk with rfl | hk
            · rfl
            · exact inside k hk
          | whole more => exact .whole ((parts.trans more).congr first)
        · cases herror
    · next hnot =>
      have same : ∀ k, OwnedIn ns uid more k ↔ OwnedIn ns uid (source :: more) k := by
        intro k
        rw [ownedIn_cons_iff, iff_comm, or_iff_right_iff_imp]
        rintro ⟨-, howned, hname⟩
        exact (hnot k.name howned hname).elim
      cases ih hs stay h with
      | whole parts => exact .whole (parts.congr same)
      | broken why inside parts => exact .broken why inside parts

/-- **Unlinking takes the owner from all Sources of the namespace, or it fails and took it from some
of them**, where all Sources have names. -/
theorem unlinkSources_unlinked {r : Except StoreError Nat} (hs : s.Sound) (stay : s.SourcesStay)
    (named : ∀ k a, s.sources.get? k = some a → a.metadata.name ≠ none)
    (h : (unlinkSources ns uid).run.LeadsIn w s es r u) : Unlinked ns uid (·.ns = ns) s r u := by
  unfold unlinkSources at h
  rcases Attempt.leads_bind_iff.mp h with ⟨e, hlist, rfl⟩ | ⟨listed, _, _, _, hlist, hloop, -⟩
  · obtain ⟨t, meets, -, herror, rfl⟩ := Attempt.leads_store_iff.mp hlist
    simp only [Store.answer] at herror
    split at herror
    · obtain rfl := Except.error.inj herror
      exact .broken (.inl rfl) (fun _ h => h.elim) (.of_sameObjects (w.sameObjects meets))
    · cases herror
  · obtain ⟨t, meets, -, hlisted, rfl⟩ := Attempt.leads_store_iff.mp hlist
    have same : s.SameObjects t := w.sameObjects meets
    simp only [Store.answer] at hlisted
    split at hlisted
    · cases hlisted
    · obtain rfl : listed = s.sources.inNamespace ns :=
        (Except.ok.inj hlisted).trans (congrArg (Catalog.inNamespace · ns) same.sources)
      cases unlinkListed_unlinked (w.sound meets hs) (stay.of_sameObjects same) hloop with
      | broken why inside parts =>
        exact .broken why inside (((Store.Parts.of_sameObjects same).trans parts).congr (by simp))
      | whole parts =>
        refine .whole (((Store.Parts.of_sameObjects same).trans parts).widen ?_ ?_)
        · rintro k (h | h)
          · exact h.elim
          · exact h.1
        · intro k hk hnot a ha
          rw [Bool.eq_false_iff]
          intro howned
          obtain ⟨name, hname⟩ := Option.ne_none_iff_exists'.mp (named k a ha)
          have hkey : name = k.name := by
            rw [← hs.source_key ha]
            simp [Object.key, ObjectKey.ofMeta, hname]
          have listed := (Catalog.mem_inNamespace_iff hs.sources.ordered).mpr ⟨k, ha, hk⟩
          exact hnot (.inr ⟨hk, a, listed, howned, hname.trans (congrArg some hkey)⟩)

end Runs

/-! ## Runs during which no failure is set -/

section Settled

variable {ns name uid : String} {edit : SourceEdit} {new : List OwnerReference}
variable {s u : Store} {es : List Event}

/-- What an edit made of a stored Source is refused only if a conflict is due. -/
theorem sourceConflicts_of_refused (relinks : edit.Relinks uid new) (hs : s.Sound) {a : Source}
    {e : StoreError} (ha : s.sources.get? ⟨ns, name⟩ = some a)
    (refused : (s.replaceSource (edit a).1).1 = .error e) : s.sourceConflicts ≠ 0 := by
  intro calm
  have hkey : (edit a).1.key = ⟨ns, name⟩ := (relinks.relinked a).key_eq.trans (hs.source_key ha)
  obtain ⟨_, hok, -⟩ :=
    Store.replaceSource_of_current calm (hkey.symm ▸ ha) (relinks.version_eq a).symm
  cases hok.symm.trans refused

theorem sourceConflicts_of_written {x written : Source}
    (hw : (s.replaceSource x).1 = .ok written) : s.sourceConflicts = 0 := by
  by_contra due
  unfold Store.replaceSource at hw
  rw [if_neg due] at hw
  cases hw

/-- An edit fails only if conflicts are due, and then it has done nothing. Once it did something no
conflict is due any more. -/
theorem editSourceWithin_conflicts (relinks : edit.Relinks uid new) (hs : s.Sound) {rounds : Nat}
    {r : Except StoreError Bool}
    (h : (editSourceWithin ns name edit (rounds + 1)).run.Leads s es r u) :
    (∃ e, r = .error e) ∧ s.sourceConflicts ≠ 0 ∧ s.SameObjects u ∨
      (∃ written, r = .ok written) ∧ (s.SameObjects u ∨ u.sourceConflicts = 0) := by
  induction rounds using Nat.strongRecOn generalizing s es with
  | ind rounds ih =>
    cases editRound_leads h with
    | missing meets | idle meets =>
      exact .inr ⟨⟨_, rfl⟩, .inl (Climate.settled.sameObjects meets)⟩
    | @written _ a _ _ _ meets stored _ writes accepted =>
      have calm := Store.sourceConflicts_answer (sourceConflicts_of_written accepted)
        (.replaceSource (edit a).1)
      exact .inr ⟨⟨_, rfl⟩, .inr calm⟩
    | refused meets stored _ writes refused =>
      obtain rfl := Climate.settled_eq meets
      obtain rfl := Climate.settled_eq writes
      exact .inl ⟨⟨_, rfl⟩, sourceConflicts_of_refused relinks hs stored refused,
        sameObjects_of_error refused⟩
    | @again n _ _ _ _ _ _ _ meets stored _ writes refused rest =>
      obtain rfl := Climate.settled_eq meets
      obtain rfl := Climate.settled_eq writes
      have same := sameObjects_of_error refused
      rcases ih n (Nat.lt_succ_self n) (Store.sound_replaceSource hs _) rest with
        ⟨failed, -, same'⟩ | ⟨ok, same' | calm⟩
      · exact .inl ⟨failed, sourceConflicts_of_refused relinks hs stored refused, same.trans same'⟩
      · exact .inr ⟨ok, .inl (same.trans same')⟩
      · exact .inr ⟨ok, .inr calm⟩

theorem editSource_conflicts (relinks : edit.Relinks uid new) (hs : s.Sound)
    {r : Except StoreError Bool} (h : (editSource ns name edit).run.Leads s es r u) :
    (∃ e, r = .error e) ∧ s.sourceConflicts ≠ 0 ∧ s.SameObjects u ∨
      (∃ written, r = .ok written) ∧ (s.SameObjects u ∨ u.sourceConflicts = 0) :=
  editSourceWithin_conflicts relinks hs h

/-- Unlinking what was listed fails only if conflicts are due, and then it has done nothing: the
first edit that does anything is one after which none is due. -/
theorem unlinkListed_conflicts {listed : List Source} {e : StoreError} (hs : s.Sound)
    (h : (unlinkListed ns uid listed).run.Leads s es (.error e) u) :
    s.sourceConflicts ≠ 0 ∧ s.SameObjects u := by
  induction listed generalizing s es e with
  | nil =>
    obtain ⟨-, hr, -⟩ := Attempt.leads_pure_iff.mp h
    cases hr
  | cons source more ih =>
    unfold unlinkListed at h
    split at h
    · rcases Attempt.leads_bind_iff.mp h with ⟨e', hedit, -⟩ | ⟨_, t, _, _, hedit, hback, -⟩
      · rcases editSource_conflicts (removeOwner_relinks uid) hs hedit with ⟨-, h⟩ | ⟨⟨_, hok⟩, -⟩
        · exact h
        · cases hok
      · obtain ⟨r', hloop, hr⟩ := Attempt.leads_thenReturn_iff.mp hback
        cases r' with
        | ok n => cases hr
        | error e' =>
          obtain ⟨due, same⟩ := ih (hedit.sound hs) hloop
          refine ⟨mt hedit.sourceConflicts_eq_zero due, ?_⟩
          rcases editSource_conflicts (removeOwner_relinks uid) hs hedit with
            ⟨⟨_, herror⟩, -⟩ | ⟨-, first | calm⟩
          · cases herror
          · exact first.trans same
          · exact absurd calm due
    · exact ih hs h

/-- **Unlinking fails only if a failure is due, and then it has done nothing.** -/
theorem unlinkSources_failure {e : StoreError} (hs : s.Sound)
    (h : (unlinkSources ns uid).run.Leads s es (.error e) u) :
    (s.failLists = true ∨ s.sourceConflicts ≠ 0) ∧ s.SameObjects u := by
  unfold unlinkSources at h
  rcases Attempt.leads_bind_iff.mp h with ⟨e', hlist, -⟩ | ⟨listed, t, _, _, hlist, hloop, -⟩
  · obtain ⟨_, meets, -, herror, rfl⟩ := Attempt.leads_store_iff.mp hlist
    obtain rfl := Climate.settled_eq meets
    refine ⟨.inl ?_, rfl, rfl, rfl⟩
    by_contra calm
    rw [Store.answer, if_neg calm] at herror
    cases herror
  · obtain ⟨_, meets, -, -, rfl⟩ := Attempt.leads_store_iff.mp hlist
    obtain rfl := Climate.settled_eq meets
    obtain ⟨due, same⟩ := unlinkListed_conflicts hs hloop
    exact ⟨.inr due, same⟩

end Settled

end FeedOperator
