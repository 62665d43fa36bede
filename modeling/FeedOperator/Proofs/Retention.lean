import FeedOperator.Proofs.Identity
import FeedOperator.Proofs.Ownership

/-!
# How long a Source stays

A Source that has its finalizer stays until a pass over it has deleted its record. Who owns it does
not matter: a HotNews refers to the Sources that it searches, and does not hold them.

* `Turn.Finishes`: what a turn does that takes the finalizer away.
* `Store.Frees`: nothing stands under a key that has the finalizer.

Results:
* `Finalized.leavesIf`, `Course.leavesIf`: all that a pass over the Source does to its finalizers.
* `leavesIf_finishes`: so for every turn.
* `freed_iff`: in any run, the finalizer goes exactly with such a pass, and the Source goes with it
  if it has no other one.
* `Course.unopposed_iff`: where no failure is set during the pass, its release meets no conflict iff
  none is due when the pass begins.
-/

namespace FeedOperator

/-- Whether the record of a Source was deleted, if it has one. -/
def Source.IsUnlisted (source : Source) (es : List Event) : Prop :=
  source.externalId ≠ 0 → .ofService (.delete source.externalId) (.ok ()) ∈ es

/-- Whether the release of a Source meets no conflict. -/
def Source.IsUnopposed (source : Source) (es : List Event) : Prop :=
  ∀ n, .ofStore (.replaceSource source.released) (.error (.conflict n)) ∉ es

/-- What a turn does that finishes a Source: it is a pass over the Source, which is marked for
deletion; it has the record deleted, if there is one; and the release meets no conflict. -/
structure Turn.Finishes (turn : Turn) (key : ObjectKey) (source : Source) (es : List Event) :
    Prop where
  pass : turn.IsPassOver key
  marked : source.IsMarked
  unlisted : source.IsUnlisted es
  unopposed : source.IsUnopposed es

/-- Nothing stands under a key that has the finalizer. -/
def Store.Frees (u : Store) (key : ObjectKey) : Prop :=
  ∀ b, u.sources.get? key = some b → b.metadata.hasFinalizer Source.finalizer = false

namespace Source

variable {w : Climate} {s u : Store} {key : ObjectKey} {source : Source} {es : List Event}

/-- What is left of a Source whose finalizer was released: nothing, if it has no other one. -/
def Leaves (source : Source) (u : Store) (key : ObjectKey) : Prop :=
  ∃ version, u.sources.get? key =
    if source.released.metadata.isReleased then none
    else some (source.released.inPlaceOf source version)

/-- A Source that stands under the key with all its finalizers. -/
def Stays (source : Source) (u : Store) (key : ObjectKey) : Prop :=
  ∃ b, u.sources.get? key = some b ∧ b.metadata.finalizers = source.metadata.finalizers

/-- A Source that leaves under a condition, and else stays. -/
def LeavesIf (source : Source) (done : Prop) (u : Store) (key : ObjectKey) : Prop :=
  done ∧ source.Leaves u key ∨ ¬ done ∧ source.Stays u key

theorem Stays.not_frees (h : source.Stays u key)
    (held : source.metadata.hasFinalizer finalizer = true) : ¬ u.Frees key := by
  intro hfrees
  obtain ⟨b, hb, hfinalizers⟩ := h
  have hlost := hfrees b hb
  unfold Meta.hasFinalizer at hlost held
  rw [hfinalizers, held] at hlost
  cases hlost

theorem Leaves.frees (h : source.Leaves u key) : u.Frees key := by
  intro b hb
  obtain ⟨version, hget⟩ := h
  rw [hget] at hb
  split at hb
  · cases hb
  · obtain rfl := Option.some.inj hb
    have hlost := source.metadata.hasFinalizer_removeFinalizer finalizer finalizer
    rw [bne_self_eq_false, Bool.and_false] at hlost
    exact hlost

/-- A released Source is gone iff it had no other finalizer. -/
theorem Leaves.get?_eq_none_iff (h : source.Leaves u key) (marked : source.IsMarked) :
    u.sources.get? key = none ↔
      ∀ f ∈ source.metadata.finalizers.getD [], f = finalizer := by
  obtain ⟨version, hget⟩ := h
  rw [hget, ← Object.isReleased_releasedBy_iff marked]
  split
  · next hgone => exact iff_of_true rfl hgone
  · next hstays => exact iff_of_false (Option.some_ne_none _) hstays

/-- A replace that releases the finalizer goes through, or it meets a conflict. -/
theorem release_or_conflict (stored : s.sources.get? source.key = some source) :
    (∃ written, (s.replaceSource source.released).1 = .ok written) ∧
        source.Leaves (s.replaceSource source.released).2 source.key ∨
      (∃ n, (s.replaceSource source.released).1 = .error (.conflict n)) ∧
        source.Stays (s.replaceSource source.released).2 source.key := by
  by_cases calm : s.sourceConflicts = 0
  · obtain ⟨written, hok, hr⟩ := Store.replaceSource_of_current calm
      (show s.sources.get? source.released.key = some source from stored) rfl
    obtain ⟨version, rfl⟩ := hr.written_eq
    exact .inl ⟨⟨_, hok⟩, version, (hr.get?_eq source.key).trans (if_pos rfl)⟩
  · refine .inr ⟨?_, source, ?_, rfl⟩
    · rw [Store.replaceSource, if_neg calm]
      exact ⟨_, rfl⟩
    · rw [Store.replaceSource, if_neg calm]
      exact stored

/-- Finalizing takes the finalizer away once the record is deleted, unless it meets a conflict. -/
theorem Finalized.leavesIf {r : Except SourceError Action}
    (h : Finalized w s source es r u) (stored : s.sources.get? source.key = some source)
    (held : source.metadata.hasFinalizer finalizer = true) :
    source.LeavesIf (source.IsUnlisted es ∧ source.IsUnopposed es) u source.key := by
  cases h with
  | unheld hno =>
    rw [held] at hno
    cases hno
  | undeleted _ registered e =>
    refine .inr ⟨fun done => ?_, source, stored, rfl⟩
    have hanswer := List.mem_singleton.mp (done.1 registered)
    cases hanswer
  | released meets =>
    rcases release_or_conflict ((w.sameObjects meets).sources ▸ stored) with
      ⟨⟨written, hok⟩, hleaves⟩ | ⟨⟨n, hconflict⟩, hstays⟩
    · refine .inl ⟨⟨fun registered => ?_, fun n hmem => ?_⟩, hleaves⟩
      · rw [if_neg registered]
        exact List.mem_cons_self
      · rw [hok] at hmem
        rcases List.mem_append.mp hmem with hmem | hmem
        · split at hmem
          · cases hmem
          · cases List.mem_singleton.mp hmem
        · cases List.mem_singleton.mp hmem
    · refine .inr ⟨fun done => done.2 n ?_, hstays⟩
      rw [hconflict]
      exact List.mem_append_right _ (List.mem_singleton_self _)

/-- If no failure is set meanwhile, the release meets no conflict iff none is due. -/
theorem Finalized.unopposed_iff {r : Except SourceError Action}
    (h : Finalized .settled s source es r u) (stored : s.sources.get? source.key = some source)
    (held : source.metadata.hasFinalizer finalizer = true) (unlisted : source.IsUnlisted es) :
    source.IsUnopposed es ↔ s.sourceConflicts = 0 := by
  cases h with
  | unheld hno => cases held.symm.trans hno
  | undeleted _ registered e => cases List.mem_singleton.mp (unlisted registered)
  | released meets =>
    obtain rfl := Climate.settled_eq meets
    constructor
    · intro unopposed
      by_contra due
      refine unopposed source.released.key.name ?_
      rw [Store.replaceSource, if_neg due]
      exact List.mem_append_right _ (List.mem_singleton_self _)
    · intro calm n hmem
      obtain ⟨_, hok, -⟩ := Store.replaceSource_of_current calm
        (show s.sources.get? source.released.key = some source from stored) rfl
      rw [hok] at hmem
      rcases List.mem_append.mp hmem with hmem | hmem
      · split at hmem
        · cases hmem
        · cases List.mem_singleton.mp hmem
      · cases List.mem_singleton.mp hmem

/-- A write of the status leaves the finalizers alone. -/
theorem stays_replaceSourceStatus {new : Source} (stored : s.sources.get? source.key = some source)
    (known : new.metadata = source.metadata) :
    source.Stays (s.replaceSourceStatus new).2 source.key := by
  rcases writeStatus_cases stored known with ⟨_, -, hsame⟩ | ⟨version, -, -, hget⟩
  · rw [← hsame.sources] at stored
    exact ⟨source, stored, rfl⟩
  · exact ⟨_, (hget source.key).trans (if_pos rfl), rfl⟩

theorem isUnlisted_firstRead (source : Source) (ns name : String) (es : List Event) :
    source.IsUnlisted (firstRead s ns name :: es) ↔ source.IsUnlisted es := by
  refine imp_congr_right fun _ => ?_
  rw [List.mem_cons]
  exact or_iff_right fun h => by cases h

theorem isUnopposed_firstRead (source : Source) (ns name : String) (es : List Event) :
    source.IsUnopposed (firstRead s ns name :: es) ↔ source.IsUnopposed es := by
  refine forall_congr' fun n => not_congr ?_
  rw [List.mem_cons]
  exact or_iff_right fun h => by cases h

/-- **A pass over a Source takes the finalizer away iff the Source is marked for deletion, its
record is deleted, and the release meets no conflict.** -/
theorem Course.leavesIf {now ns name : String} {r : Except SourceError Action} (hs : s.Sound)
    (h : Course w now ns name s es r u) (stored : s.sources.get? ⟨ns, name⟩ = some source)
    (held : source.metadata.hasFinalizer finalizer = true) :
    source.LeavesIf (source.IsMarked ∧ source.IsUnlisted es ∧ source.IsUnopposed es) u
      ⟨ns, name⟩ := by
  have hkey : source.key = ⟨ns, name⟩ := hs.source_key stored
  have unmarked : source.metadata.isDeleted = false → ¬ source.IsMarked := by
    intro live marked
    cases marked.symm.trans live
  have written : ∀ {new : Source} {t x : Store}, w.Meets s t → w.Meets t x →
      new.metadata = source.metadata → source.Stays (x.replaceSourceStatus new).2 ⟨ns, name⟩ := by
    intro new t x meets writes known
    have same := ((w.sameObjects meets).trans (w.sameObjects writes)).sources
    rw [← hkey]
    exact stays_replaceSourceStatus (by rw [hkey, same, stored]) known
  cases h with
  | absent _ gone => cases stored.symm.trans gone
  | @finalized _ rest _ t _ meets stored' deleted ends =>
    cases stored.symm.trans stored'
    have hunlisted := source.isUnlisted_firstRead (s := s) ns name rest
    have hunopposed := source.isUnopposed_firstRead (s := s) ns name rest
    have hends := ends.leavesIf (w.source_stands meets hs stored).2 held
    rw [hkey] at hends
    rcases hends with ⟨done, hleaves⟩ | ⟨hnot, hstays⟩
    · exact .inl ⟨⟨deleted, hunlisted.mpr done.1, hunopposed.mpr done.2⟩, hleaves⟩
    · exact .inr ⟨fun done => hnot ⟨hunlisted.mp done.2.1, hunopposed.mp done.2.2⟩, hstays⟩
  | unheld _ stored' live holds =>
    cases stored.symm.trans stored'
    obtain ⟨-, hr, -⟩ := holds.eq_of_hasFinalizer held
    cases hr
  | registered answer meets stored' live holds _ writes =>
    cases stored.symm.trans stored'
    obtain ⟨-, hr, rfl⟩ := holds.eq_of_hasFinalizer held
    cases hr
    exact .inr ⟨fun done => unmarked live done.1, written meets writes (metadata_registered ..)⟩
  | updated answer meets stored' live holds _ writes =>
    cases stored.symm.trans stored'
    obtain ⟨-, hr, rfl⟩ := holds.eq_of_hasFinalizer held
    cases hr
    exact .inr ⟨fun done => unmarked live done.1, written meets writes (metadata_updated ..)⟩

/-- If no failure is set during a pass that has the record of a marked Source deleted, its release
meets no conflict iff none is due when the pass begins. -/
theorem Course.unopposed_iff {now ns name : String} {r : Except SourceError Action} (hs : s.Sound)
    (h : Course .settled now ns name s es r u) (stored : s.sources.get? ⟨ns, name⟩ = some source)
    (held : source.metadata.hasFinalizer finalizer = true) (marked : source.IsMarked)
    (unlisted : source.IsUnlisted es) : source.IsUnopposed es ↔ s.sourceConflicts = 0 := by
  have hkey : source.key = ⟨ns, name⟩ := hs.source_key stored
  have live : source.metadata.isDeleted ≠ false := marked ▸ Bool.noConfusion
  cases h with
  | absent _ gone => cases stored.symm.trans gone
  | finalized meets stored' _ ends =>
    cases stored.symm.trans stored'
    obtain rfl := Climate.settled_eq meets
    rw [isUnopposed_firstRead]
    exact ends.unopposed_iff (by rw [hkey, stored]) held
      ((source.isUnlisted_firstRead ns name _).mp unlisted)
  | unheld _ stored' hlive | registered _ _ stored' hlive | updated _ _ stored' hlive =>
    cases stored.symm.trans stored'
    exact absurd hlive live

end Source

namespace Store

variable {s t u : Store} {key : ObjectKey} {source : Source} {es : List Event} {turn : Turn}

theorem stays_of_changes {R : Source → Source → Prop} {out : Source → Prop}
    {touched : ObjectKey → Prop} (change : s.sources.Changes R out touched u.sources)
    (stored : s.sources.get? key = some source)
    (keeps : ∀ {a b : Source}, R a b → b.metadata.finalizers = a.metadata.finalizers)
    (stays : ¬ out source) : source.Stays u key := by
  have hev := change.evolves key
  rw [stored] at hev
  obtain ⟨b, hb, hab⟩ := hev.still stays
  exact ⟨b, hb, keeps hab⟩

/-- **Every turn but such a pass leaves a Source its finalizers.** -/
theorem leavesIf_finishes (hs : s.Sound) (h : turn.Leads s es u)
    (stored : s.sources.get? key = some source)
    (held : source.metadata.hasFinalizer Source.finalizer = true) :
    source.LeavesIf (turn.Finishes key source es) u key := by
  have unmoved : ¬ source.IsUnheld := by
    intro hun
    cases (Object.hasFinalizer_of_isUnheld hun).symm.trans held
  have others : (∀ now given, turn ≠ .source now given) → ¬ turn.Finishes key source es := by
    rintro hne ⟨⟨now, given, rfl, -, -⟩, -, -, -⟩
    exact hne now given rfl
  cases h with
  | @source now given _ _ _ _ h =>
    by_cases hpass : (Turn.source now given).IsPassOver key
    · obtain ⟨_, _, heq, hns, hname⟩ := id hpass
      cases heq
      rcases (Source.course_of_leads hns hname h).leavesIf hs stored held with
        ⟨⟨hmarked, hunlisted, hunopposed⟩, hleaves⟩ | ⟨hnot, hstays⟩
      · exact .inl ⟨⟨hpass, hmarked, hunlisted, hunopposed⟩, hleaves⟩
      · exact .inr ⟨fun done => hnot ⟨done.marked, done.unlisted, done.unopposed⟩, hstays⟩
    · refine .inr ⟨fun done => hpass done.pass, source, ?_, rfl⟩
      rcases Source.reconcile_leads h with ⟨_, -, -, rfl⟩ | ⟨ns, name, hns, hname, hcourse⟩
      · exact stored
      · have hk : key ≠ ⟨ns, name⟩ := by
          rintro rfl
          exact hpass ⟨now, given, rfl, hns, hname⟩
        rw [(hcourse.tended hs).sources.elsewhere key hk]
        exact stored
  | hotNews h =>
    refine .inr ⟨others (fun _ _ h => by cases h), ?_⟩
    rcases HotNews.reconcile_leads h with ⟨_, rfl, _, rfl⟩ | ⟨ns, name, _, _, hcourse⟩
    · exact ⟨source, stored, rfl⟩
    · obtain ⟨uid, new, hrel⟩ := hcourse.relinked hs
      exact stays_of_changes hrel stored Source.Relinked.finalizers_eq
        fun leaving => unmoved leaving.isUnheld
  | deleteSource other =>
    refine .inr ⟨others (fun _ _ h => by cases h), ?_⟩
    exact stays_of_changes (markDeleted_changes s.sources other) stored
      Object.MayMark.finalizers_eq unmoved
  | deleteHotNews | faults =>
    exact .inr ⟨others (fun _ _ h => by cases h), source, stored, rfl⟩

/-- If no failure is set during a pass that finishes a Source but for the release, the release
meets no conflict iff none is due when the pass begins. -/
theorem unopposed_iff (hs : s.Sound) (h : turn.LeadsIn .settled s es u)
    (pass : turn.IsPassOver key) (stored : s.sources.get? key = some source)
    (held : source.metadata.hasFinalizer Source.finalizer = true) (marked : source.IsMarked)
    (unlisted : source.IsUnlisted es) : source.IsUnopposed es ↔ s.sourceConflicts = 0 := by
  obtain ⟨now, given, rfl, hns, hname⟩ := pass
  cases h with
  | source h =>
    exact (Source.course_of_leads hns hname h).unopposed_iff hs stored held marked unlisted

/-- **Who owns a Source does not hold it.** In any run of passes of both controllers, requests to
delete and failures, with any answers of the service, and whatever owners the Source names: its
finalizer goes exactly with a pass over it in which it is marked for deletion, its record is
deleted if it has one, and the release meets no conflict. Where no failure is set during the pass,
the release meets no conflict iff none is due when the pass begins. The Source goes with its
finalizer if that was the only one. -/
theorem freed_iff (built : s.Built) (reached : s.Reaches t) (h : turn.Leads t es u)
    (stored : t.sources.get? key = some source)
    (held : source.metadata.hasFinalizer Source.finalizer = true) :
    (u.Frees key ↔ turn.Finishes key source es) ∧
      (u.sources.get? key = none ↔ turn.Finishes key source es ∧
        ∀ f ∈ source.metadata.finalizers.getD [], f = Source.finalizer) ∧
      (turn.LeadsIn .settled t es u → turn.IsPassOver key → source.IsMarked →
        source.IsUnlisted es → (source.IsUnopposed es ↔ t.sourceConflicts = 0)) := by
  have hs : t.Sound := reached.sound built.sound
  refine and_assoc.mp ⟨?_, fun calm pass marked unlisted =>
    unopposed_iff hs calm pass stored held marked unlisted⟩
  rcases leavesIf_finishes hs h stored held with ⟨done, hleaves⟩ | ⟨hnot, hstays⟩
  · refine ⟨iff_of_true hleaves.frees done, ?_⟩
    rw [hleaves.get?_eq_none_iff done.marked]
    exact (and_iff_right done).symm
  · refine ⟨iff_of_false (hstays.not_frees held) hnot, iff_of_false (fun hgone => ?_) ?_⟩
    · obtain ⟨b, hb, -⟩ := hstays
      cases hgone.symm.trans hb
    · exact fun done => hnot done.1

/-! ## A Source that goes before its owner -/

/-- What happens to a Source before its last pass: it is registered, linked, and marked for
deletion. -/
def farewell : List Turn :=
  [visit, linking, .deleteSource ⟨"news", "bbc"⟩]

/-- The store then. -/
def bereft : Store :=
  (farewell.foldl (fun state turn => turn.run (Turn.steady .usual) state) (linkable, ())).1

/-- The store after the last pass. -/
def orphaned : Store :=
  (visit.run (Turn.steady .usual) (bereft, ())).1

theorem reaches_bereft : linkable.Reaches bereft :=
  reaches_run (Turn.steady .usual) farewell (linkable, ())

/-- A HotNews that is stored under a key with a UID and its finalizer. -/
theorem hasOwner_of_stored {s : Store} {k : ObjectKey} {uid : String}
    (h : (s.hotNews.get? k).map
      (fun a => (a.metadata.uid, a.metadata.hasFinalizer HotNews.finalizer)) =
        some (some uid, true)) : s.HasOwner k.ns uid := by
  obtain ⟨hotNews, hget, heq⟩ := Option.map_eq_some_iff.mp h
  obtain ⟨huid, hheld⟩ := Prod.mk.inj heq
  exact ⟨k, hotNews, hget, rfl, huid, hheld⟩

theorem linked_bereft : (bereft.sources.get? ⟨"news", "bbc"⟩).map
    (fun a => (a.metadata.hasFinalizer Source.finalizer, a.metadata.owners)) =
      some (true, [⟨"newsaggregator.dev/v1", "HotNews", "world", "uid-world", none, none⟩]) := by
  decide +kernel

theorem gone_orphaned : orphaned.sources.get? ⟨"news", "bbc"⟩ = none :=
  Option.isNone_iff_eq_none.mp (by decide +kernel)

/-- The Source goes while it names a HotNews as its owner that is stored, before and after. -/
theorem owned_source_goes : linkable.Reaches bereft ∧ (∃ es, visit.Leads bereft es orphaned) ∧
    (∃ source, bereft.sources.get? ⟨"news", "bbc"⟩ = some source ∧
      source.metadata.hasFinalizer Source.finalizer = true ∧
      ∃ r ∈ source.metadata.owners, r.IsToHotNews ∧
        bereft.HasOwner "news" r.uid ∧ orphaned.HasOwner "news" r.uid) ∧
    orphaned.sources.get? ⟨"news", "bbc"⟩ = none := by
  obtain ⟨source, stored, heq⟩ := Option.map_eq_some_iff.mp linked_bereft
  obtain ⟨held, howners⟩ := Prod.mk.inj heq
  have before : bereft.HasOwner "news" "uid-world" :=
    hasOwner_of_stored (k := ⟨"news", "world"⟩) (by decide +kernel)
  have after : orphaned.HasOwner "news" "uid-world" :=
    hasOwner_of_stored (k := ⟨"news", "world"⟩) (by decide +kernel)
  refine ⟨reaches_bereft, ⟨_, visit.leads_run (Turn.steady .usual) (bereft, ())⟩,
    ⟨source, stored, held, _, howners ▸ List.mem_singleton_self _, by decide, before, after⟩,
    gone_orphaned⟩

/-- The pass that took it was one that finishes it: its record was deleted. -/
theorem bereft_finishes : ∃ es source, visit.Leads bereft es orphaned ∧
    bereft.sources.get? ⟨"news", "bbc"⟩ = some source ∧
      visit.Finishes ⟨"news", "bbc"⟩ source es := by
  have built : linkable.Built := ((Built.empty.insert _).insert _).insert _
  have last := visit.leads_run (Turn.steady .usual) (bereft, ())
  obtain ⟨source, stored, heq⟩ := Option.map_eq_some_iff.mp linked_bereft
  have held := (Prod.mk.inj heq).1
  have freed := freed_iff built reaches_bereft last stored held
  exact ⟨_, source, last, stored, (freed.2.1.mp gone_orphaned).1⟩

end Store

end FeedOperator
