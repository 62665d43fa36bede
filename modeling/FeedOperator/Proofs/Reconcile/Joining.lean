import FeedOperator.Proofs.Reconcile.Owners
import FeedOperator.Proofs.Store.View

/-!
# What linking does to a quiet store

In a store that shows no failure, linking goes through: it makes an owner of exactly the Sources
that the short names stand for, and it writes nothing if those have the owner already.

* `Source.withOwner`: a Source with an owner.
* `Store.Joins`: a store in which exactly the Sources under some keys got an owner.
* `Store.FoundBy`: the keys of the Sources that short names stand for.

Results:
* `editSource_joins`: one edit goes through.
* `linkSources_joins`: so does the loop over short names.
* `linkSources_settled`: if all Sources that are found have the owner, it does no more than list
  them.
* `linkSources_elsewhere`: a Source that no short name stands for is not touched.
-/

namespace FeedOperator

/-! ## One Source -/

namespace Source

variable {a : Source} {owner : OwnerReference}

/-- The Source with an owner, which it may have already. -/
def withOwner (a : Source) (owner : OwnerReference) : Source :=
  (a.addOwner owner).1

/-- The Source with an owner, if there is one to be had. -/
def withOwner? (a : Source) : Option OwnerReference → Source
  | none => a
  | some owner => a.withOwner owner

theorem withOwner_of_isOwnedBy (h : a.isOwnedBy owner.uid = true) : a.withOwner owner = a := by
  simp [withOwner, addOwner, h]

theorem owners_withOwner (h : a.isOwnedBy owner.uid = false) :
    (a.withOwner owner).metadata.ownerReferences = some (a.metadata.owners ++ [owner]) := by
  simp [withOwner, addOwner, h]

/-- Who owns it now is new or did so before. -/
theorem isOwnedBy_withOwner (a : Source) (owner : OwnerReference) (uid : String) :
    (a.withOwner owner).isOwnedBy uid = (a.isOwnedBy uid || owner.uid == uid) := by
  cases h : a.isOwnedBy owner.uid with
  | true =>
    rw [withOwner_of_isOwnedBy h]
    by_cases huid : owner.uid = uid
    · rw [← huid, h]
      simp
    · simp [huid]
  | false =>
    unfold isOwnedBy Meta.isOwnedBy
    rw [Meta.owners, owners_withOwner h]
    simp

theorem withOwner_withOwner (a : Source) (owner : OwnerReference) :
    (a.withOwner owner).withOwner owner = a.withOwner owner :=
  withOwner_of_isOwnedBy (by simp [isOwnedBy_withOwner])

theorem unversioned_withOwner (a : Source) (owner : OwnerReference) :
    (a.withOwner owner).unversioned = withOwner a.unversioned owner := by
  have howned : isOwnedBy a.unversioned owner.uid = a.isOwnedBy owner.uid := rfl
  unfold withOwner addOwner
  rw [howned]
  split <;> rfl

theorem withOwner_relinked (a : Source) (owner : OwnerReference) :
    a.Relinked owner.uid [owner] (a.withOwner owner) :=
  (addOwner_relinks owner).relinked a

theorem withOwner?_withOwner? (a : Source) (owner? : Option OwnerReference) :
    (a.withOwner? owner?).withOwner? owner? = a.withOwner? owner? := by
  cases owner? with
  | none => rfl
  | some owner => exact a.withOwner_withOwner owner

theorem wish_withOwner? (a : Source) (owner? : Option OwnerReference) :
    (a.withOwner? owner?).wish = a.wish := by
  cases owner? with
  | none => rfl
  | some owner =>
    obtain ⟨_, _, h⟩ := (a.withOwner_relinked owner).frame
    rw [withOwner?, h]
    rfl

theorem isDeleted_withOwner? (a : Source) (owner? : Option OwnerReference) :
    (a.withOwner? owner?).metadata.isDeleted = a.metadata.isDeleted := by
  cases owner? with
  | none => rfl
  | some owner =>
    exact congrArg Option.isSome (a.withOwner_relinked owner).deletionTimestamp_eq

theorem isLeaving_of_withOwner? {owner? : Option OwnerReference}
    (h : (a.withOwner? owner?).IsLeaving) : a.IsLeaving := by
  cases owner? with
  | none => exact h
  | some owner => exact (a.withOwner_relinked owner).isLeaving_iff.mp h

/-- An edit that would add the owner and has nothing to do finds it there. -/
theorem isOwnedBy_of_addOwner (h : (a.addOwner owner).2 = false) :
    a.isOwnedBy owner.uid = true := by
  unfold addOwner at h
  split at h
  · assumption
  · cases h

end Source

/-! ## Stores -/

namespace Store

/-- A store in which the Sources under some keys got an owner, and nothing else happened. -/
structure Joins (owner : OwnerReference) (P : ObjectKey → Prop) (s u : Store) : Prop where
  joined : ∀ k, P k → u.sources.view k = (s.sources.view k).map (Source.withOwner · owner)
  elsewhere : ∀ k, ¬ P k → u.sources.view k = s.sources.view k
  rest : s.SameButSources u

/-- The keys of the Sources that short names stand for in a namespace. -/
def FoundBy (s : Store) (ns : String) (shortNames : List String) (k : ObjectKey) : Prop :=
  k.ns = ns ∧ ∃ n ∈ shortNames, s.firstNamed ns n = some k.name

instance (s : Store) (ns : String) (shortNames : List String) (k : ObjectKey) :
    Decidable (s.FoundBy ns shortNames k) :=
  inferInstanceAs (Decidable (k.ns = ns ∧ ∃ n ∈ shortNames, s.firstNamed ns n = some k.name))

variable {owner : OwnerReference} {P Q : ObjectKey → Prop} {s t u : Store}

namespace Joins

theorem refl (s : Store) : s.Joins owner (fun _ => False) s :=
  ⟨fun _ h => h.elim, fun _ _ => rfl, rfl, rfl⟩

theorem congr (h : s.Joins owner P u) (hPQ : ∀ k, P k ↔ Q k) : s.Joins owner Q u :=
  ⟨fun k hk => h.joined k ((hPQ k).mpr hk), fun k hk => h.elsewhere k (mt (hPQ k).mp hk), h.rest⟩

theorem trans (hst : s.Joins owner P t) (htu : t.Joins owner Q u) :
    s.Joins owner (fun k => P k ∨ Q k) u := by
  refine ⟨fun k hk => ?_, fun k hk => ?_, htu.rest.hotNews.trans hst.rest.hotNews,
    htu.rest.configMaps.trans hst.rest.configMaps⟩
  · by_cases hP : P k
    · by_cases hQ : Q k
      · rw [htu.joined k hQ, hst.joined k hP, Option.map_map]
        simp [Function.comp_def, Source.withOwner_withOwner]
      · rw [htu.elsewhere k hQ, hst.joined k hP]
    · rw [htu.joined k (hk.resolve_left hP), hst.elsewhere k hP]
  · rw [not_or] at hk
    rw [htu.elsewhere k hk.2, hst.elsewhere k hk.1]

/-- A Source that had the owner to begin with may count as one that got it. -/
theorem of_isOwnedBy (h : ∀ k, P k → ∀ a, s.sources.get? k = some a →
    a.isOwnedBy owner.uid = true) : s.Joins owner P s := by
  refine ⟨fun k hk => ?_, fun _ _ => rfl, rfl, rfl⟩
  unfold Catalog.view
  cases ha : s.sources.get? k with
  | none => rfl
  | some a =>
    have := h k hk a ha
    rw [← Source.withOwner_of_isOwnedBy this, Option.map_some, Option.map_some,
      Source.unversioned_withOwner, Source.withOwner_withOwner]

theorem evolves (h : s.Joins owner P u) {k : ObjectKey} {b : Source}
    (hb : u.sources.get? k = some b) : ∃ a, s.sources.get? k = some a ∧
      (b.unversioned = a.unversioned ∨ b.unversioned = (a.withOwner owner).unversioned) := by
  by_cases hP : P k
  · obtain ⟨a, ha, heq⟩ := Catalog.before_of_view_eq (h.joined k hP) hb
    exact ⟨a, ha, .inr (heq.trans (Source.unversioned_withOwner a owner).symm)⟩
  · have hview := Catalog.view_of_get? hb
    rw [h.elsewhere k hP] at hview
    obtain ⟨a, ha, heq⟩ := Catalog.get?_of_view hview
    exact ⟨a, ha, .inl heq.symm⟩

theorem stay (h : s.Joins owner P u) (hs : s.NoneLeaving) : u.NoneLeaving := by
  refine ⟨fun k b hb hl => ?_, h.rest.hotNews ▸ hs.hotNews⟩
  obtain ⟨a, ha, heq | heq⟩ := h.evolves hb
  · have : a.unversioned.IsLeaving := heq ▸ hl
    exact hs.sources k a ha this
  · have : (a.withOwner owner).unversioned.IsLeaving := heq ▸ hl
    exact hs.sources k a ha ((a.withOwner_relinked owner).isLeaving_iff.mp this)

end Joins

end Store

/-! ## Runs -/

section Runs

variable {ns name : String} {owner : OwnerReference} {s t u : Store} {es : List Event}

/-- **One edit goes through.** -/
theorem editSource_joins (quiet : s.Quiet) {r : Except StoreError Bool}
    (h : (editSource ns name (Source.addOwner · owner)).run.Leads s es r u) :
    (∃ written, r = .ok written) ∧ s.Joins owner (· = ⟨ns, name⟩) u := by
  have round : (editSourceWithin ns name (Source.addOwner · owner) (4 + 1)).run.Leads s es r u := h
  -- No conflict is due, so what the edit made of the stored Source is not refused.
  have goes : ∀ {a : Source}, s.sources.get? ⟨ns, name⟩ = some a →
      ∃ written, (s.replaceSource (a.addOwner owner).1).1 = .ok written ∧
        s.Joins owner (· = ⟨ns, name⟩) (s.replaceSource (a.addOwner owner).1).2 := by
    intro a ha
    have hkey : a.key = ⟨ns, name⟩ := quiet.sound.source_key ha
    have hedited : (a.withOwner owner).key = ⟨ns, name⟩ :=
      (a.withOwner_relinked owner).key_eq.trans hkey
    have current := (addOwner_relinks owner).version_eq a
    obtain ⟨written, hw, hreplaced⟩ := Store.replaceSource_of_current
      quiet.calm.sourceConflicts (hedited.symm ▸ ha) current.symm
    have stays : (a.withOwner owner).metadata.isReleased = false := by
      rw [Bool.eq_false_iff]
      exact fun hl => quiet.stay.sources _ a ha ((a.withOwner_relinked owner).isLeaving_iff.mp hl)
    have hview := hreplaced.view_eq stays (a.withOwner_relinked owner).status_eq
    refine ⟨written, hw, fun k hk => ?_, fun k hk => ?_, ?_⟩
    · refine (hview k).trans ((if_pos (hk.trans hedited.symm)).trans ?_)
      rw [hk, Catalog.view_of_get? ha]
      exact congrArg some (a.unversioned_withOwner owner)
    · exact (hview k).trans (if_neg fun h => hk (h.trans hedited))
    · rcases s.replaceSource_cases (a.withOwner owner) with ⟨_, _, hsame⟩ | ⟨_, _, _, _, rest⟩
      · exact ⟨hsame.hotNews, hsame.configMaps⟩
      · exact rest
  cases editRound_leads round with
  | missing meets gone =>
    obtain rfl := Climate.settled_eq meets
    refine ⟨⟨_, rfl⟩, .of_isOwnedBy ?_⟩
    rintro _ rfl a ha
    rw [gone] at ha
    cases ha
  | idle meets stored nothing =>
    obtain rfl := Climate.settled_eq meets
    refine ⟨⟨_, rfl⟩, .of_isOwnedBy ?_⟩
    rintro _ rfl b hb
    obtain rfl := Option.some.inj (stored.symm.trans hb)
    exact Source.isOwnedBy_of_addOwner nothing
  | written meets stored _ writes _ =>
    obtain rfl := Climate.settled_eq meets
    obtain rfl := Climate.settled_eq writes
    obtain ⟨_, -, joins⟩ := goes stored
    exact ⟨⟨_, rfl⟩, joins⟩
  | refused meets stored _ writes refused | again meets stored _ writes refused _ =>
    obtain rfl := Climate.settled_eq meets
    obtain rfl := Climate.settled_eq writes
    obtain ⟨_, hw, -⟩ := goes stored
    cases hw.symm.trans refused

/-- The invariant of the loop is that the store is the listed one, in which some Sources got the
owner. -/
theorem linkListed_joins {P : ObjectKey → Prop} {names : List String}
    {r : Except StoreError (List String)} (start : s.Sound) (quiet : t.Quiet)
    (before : s.Joins owner P t)
    (h : (linkListed ns owner (s.sources.inNamespace ns) names).run.Leads t es r u) :
    (∃ linked, r = .ok linked) ∧ s.Joins owner (fun k => P k ∨ s.FoundBy ns names k) u := by
  induction names generalizing t es r P with
  | nil =>
    obtain ⟨-, rfl, rfl⟩ := Attempt.leads_pure_iff.mp h
    exact ⟨⟨_, rfl⟩, before.congr fun k => by simp [Store.FoundBy]⟩
  | cons n more ih =>
    have passed : s.firstNamed ns n = none → ∀ k, (P k ∨ s.FoundBy ns more k) ↔
        (P k ∨ s.FoundBy ns (n :: more) k) := by
      intro hn k
      simp [Store.FoundBy, hn]
    have found : ∀ {name}, s.firstNamed ns n = some name → ∀ k,
        ((P k ∨ k = ⟨ns, name⟩) ∨ s.FoundBy ns more k) ↔
          (P k ∨ s.FoundBy ns (n :: more) k) := by
      intro name hn k
      have hk : k = ⟨ns, name⟩ ↔ k.ns = ns ∧ some name = some k.name := by
        rw [Option.some.injEq]
        exact ⟨fun h => h ▸ ⟨rfl, rfl⟩, fun ⟨hns, hname⟩ => by cases k; simp_all⟩
      simp only [Store.FoundBy, List.mem_cons, exists_eq_or_imp, hn, hk]
      tauto
    have named : ∀ {source name}, findByShortName (s.sources.inNamespace ns) n = some source →
        source.metadata.name = some name → s.firstNamed ns n = some name := by
      intro source name hfound hname
      rw [Store.firstNamed, hfound]
      exact hname
    cases linkRound_of_leads h with
    | passed missing rest =>
      obtain ⟨ok, joins⟩ := ih quiet before rest
      exact ⟨ok, joins.congr (passed missing)⟩
    | stopped _ _ _ edit =>
      obtain ⟨⟨_, hok⟩, -⟩ := editSource_joins quiet edit
      cases hok
    | edited hfound hname _ edit rest =>
      obtain ⟨-, joins⟩ := editSource_joins quiet edit
      obtain ⟨⟨_, rfl⟩, joined⟩ := ih
        ⟨edit.sound quiet.sound, edit.calm quiet.calm, joins.stay quiet.stay⟩ (before.trans joins)
        rest
      exact ⟨⟨_, rfl⟩, joined.congr (found (named hfound hname))⟩
    | owned hfound hname howned rest =>
      -- It had the owner when it was listed, so it may count as one that got it.
      have already : s.Joins owner (· = ⟨ns, _⟩) s := .of_isOwnedBy fun k hk a ha => by
        rw [hk, start.get?_of_listed (List.mem_of_find?_eq_some hfound) hname] at ha
        obtain rfl := Option.some.inj ha
        exact howned
      obtain ⟨⟨_, rfl⟩, joined⟩ := ih quiet ((already.trans before).congr fun k => or_comm) rest
      exact ⟨⟨_, rfl⟩, joined.congr (found (named hfound hname))⟩

/-- Where lists do not fail linking lists the Sources and then goes on to link them, unless there is
no owner to be made. -/
theorem linkSources_cases {hotNews : HotNews} {names : List String}
    {r : Except StoreError (List String)} (lists : s.failLists = false)
    (h : (linkSources ns hotNews names).run.Leads s es r u) :
    (hotNews.ownerReference? = none ∧ es = [] ∧ r = .error (.missingField "metadata.uid") ∧
      u = s) ∨
    ∃ owner rest, hotNews.ownerReference? = some owner ∧
      es = .ofStore (.listSources ns) (.ok (s.sources.inNamespace ns)) :: rest ∧
      (linkListed ns owner (s.sources.inNamespace ns) names).run.Leads s rest r u := by
  unfold linkSources at h
  split at h
  · next hnone =>
    obtain ⟨rfl, rfl, rfl⟩ := Attempt.leads_throw_iff.mp h
    exact .inl ⟨hnone, rfl, rfl, rfl⟩
  · next owner howner =>
    have hanswer : s.answer (.listSources ns) = (.ok (s.sources.inNamespace ns), s) := by
      simp [Store.answer, lists]
    rcases Attempt.leads_bind_iff.mp h with ⟨e, hlist, -⟩ | ⟨listed, _, _, rest, hlist, hlink, rfl⟩
    · obtain ⟨t, meets, -, herror, -⟩ := Attempt.leads_store_iff.mp hlist
      obtain rfl := Climate.settled_eq meets
      rw [hanswer] at herror
      cases herror
    · obtain ⟨t, meets, rfl, hlisted, rfl⟩ := Attempt.leads_store_iff.mp hlist
      obtain rfl := Climate.settled_eq meets
      rw [hanswer] at hlisted hlink ⊢
      cases hlisted
      exact .inr ⟨owner, rest, howner, rfl, hlink⟩

/-- **Linking goes through.** It makes an owner of exactly the Sources that the short names stand
for, unless there is no owner to be made. -/
theorem linkSources_joins {hotNews : HotNews} {names : List String}
    {r : Except StoreError (List String)} (quiet : s.Quiet)
    (h : (linkSources ns hotNews names).run.Leads s es r u) :
    (hotNews.ownerReference? = none ∧ r = .error (.missingField "metadata.uid") ∧ u = s) ∨
      ∃ owner, hotNews.ownerReference? = some owner ∧ (∃ linked, r = .ok linked) ∧
        s.Joins owner (s.FoundBy ns names) u := by
  rcases linkSources_cases quiet.calm.failLists h with
    ⟨hnone, -, hr, hu⟩ | ⟨owner, rest, howner, -, hlink⟩
  · exact .inl ⟨hnone, hr, hu⟩
  · obtain ⟨ok, joins⟩ := linkListed_joins quiet.sound quiet (.refl s) hlink
    exact .inr ⟨owner, howner, ok, joins.congr fun k => by simp⟩

/-- Linking what has the owner already makes no call. -/
theorem linkListed_settled {listed : List Source} {names : List String}
    {r : Except StoreError (List String)}
    (owned : ∀ n ∈ names, ∀ a, findByShortName listed n = some a → a.metadata.name ≠ none →
      a.isOwnedBy owner.uid = true)
    (h : (linkListed ns owner listed names).run.Leads s es r u) : es = [] := by
  induction names generalizing s es r with
  | nil => exact (Attempt.leads_pure_iff.mp h).1
  | cons n more ih =>
    have hmore := fun m hm => owned m (List.mem_cons_of_mem _ hm)
    have owns := owned n List.mem_cons_self
    cases linkRound_of_leads h with
    | passed _ rest => exact ih hmore rest
    | owned _ _ _ rest => exact ih hmore rest
    | stopped found named free _ | edited found named free _ _ =>
      have := owns _ found (by rw [named]; exact Option.some_ne_none _)
      rw [free] at this
      cases this

/-- **If all Sources that are found have the owner, linking does no more than list them.** -/
theorem linkSources_settled {hotNews : HotNews} {names : List String}
    {r : Except StoreError (List String)} (quiet : s.Quiet)
    (owned : ∀ owner, hotNews.ownerReference? = some owner → ∀ k a, s.FoundBy ns names k →
      s.sources.get? k = some a → a.isOwnedBy owner.uid = true)
    (h : (linkSources ns hotNews names).run.Leads s es r u) :
    ∀ e ∈ es, e = .ofStore (.listSources ns) (.ok (s.sources.inNamespace ns)) := by
  rcases linkSources_cases quiet.calm.failLists h with
    ⟨-, rfl, -, -⟩ | ⟨owner, rest, howner, rfl, hlink⟩
  · exact fun _ h => absurd h List.not_mem_nil
  · have : rest = [] := linkListed_settled (fun n hn a hfound hname => by
      obtain ⟨name, hname⟩ := Option.ne_none_iff_exists'.mp hname
      exact owned owner howner ⟨ns, name⟩ a ⟨rfl, n, hn, by simp [Store.firstNamed, hfound, hname]⟩
        (quiet.sound.get?_of_listed (List.mem_of_find?_eq_some hfound) hname)) hlink
    rw [this]
    simp

/-- Linking what was listed does not touch what no short name stands for, wherever it stops. -/
theorem linkListed_elsewhere {listed : List Source} {names : List String} {k : ObjectKey}
    {r : Except StoreError (List String)} (hs : s.Sound)
    (other : k.ns = ns → ∀ n ∈ names,
      (findByShortName listed n).bind (·.metadata.name) ≠ some k.name)
    (h : (linkListed ns owner listed names).run.Leads s es r u) :
    u.sources.get? k = s.sources.get? k := by
  induction names generalizing s es r with
  | nil =>
    obtain ⟨-, -, rfl⟩ := Attempt.leads_pure_iff.mp h
    rfl
  | cons n more ih =>
    have hmore := fun hns m hm => other hns m (List.mem_cons_of_mem _ hm)
    have apart : ∀ {source name}, findByShortName listed n = some source →
        source.metadata.name = some name → k ≠ ⟨ns, name⟩ := by
      rintro source name hfound hname rfl
      exact other rfl n List.mem_cons_self (by rw [hfound]; exact hname)
    cases linkRound_of_leads h with
    | passed _ rest => exact ih hs hmore rest
    | owned _ _ _ rest => exact ih hs hmore rest
    | stopped hfound hname _ edit =>
      have first := (editSource_leads (addOwner_relinks owner) hs edit).1
      exact first.sources.elsewhere k (apart hfound hname)
    | edited hfound hname _ edit rest =>
      have first := (editSource_leads (addOwner_relinks owner) hs edit).1
      exact (ih (edit.sound hs) hmore rest).trans
        (first.sources.elsewhere k (apart hfound hname))

/-- **Linking does not touch a Source that no short name stands for**, not even its version. -/
theorem linkSources_elsewhere {hotNews : HotNews} {names : List String} {k : ObjectKey}
    {r : Except StoreError (List String)} (quiet : s.Quiet) (other : ¬ s.FoundBy ns names k)
    (h : (linkSources ns hotNews names).run.Leads s es r u) :
    u.sources.get? k = s.sources.get? k := by
  rcases linkSources_cases quiet.calm.failLists h with ⟨-, -, -, rfl⟩ | ⟨_, _, -, -, hlink⟩
  · rfl
  · exact linkListed_elsewhere quiet.sound (fun hns n hn hname => other ⟨hns, n, hn, hname⟩) hlink

end Runs

end FeedOperator
