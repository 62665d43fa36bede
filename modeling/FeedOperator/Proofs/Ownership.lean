import FeedOperator.Proofs.Turn

/-!
# Owners that are there

The platform collects an object of which all owners are gone, so a Source may name as its owner a
HotNews that is stored, and that cannot go without being taken from the owners first.

* `OwnerReference.IsToHotNews`: a reference of the kind that linking makes.
* `Store.HasOwner`: a HotNews with a UID is stored in a namespace with its finalizer.
* `Store.Anchored`: every such reference has its HotNews, and stands on a Source with a name.

Results:
* `anchored_source`, `anchored_hotNews`: a pass of either controller keeps a store anchored, with
  any answers of the service and any failures of the store, wherever it stops.
* `owner_is_held`: from a store without such references, every one that comes about has its HotNews.

A Source without a name is neither linked nor unlinked. That is why the invariant speaks of names.
-/

namespace FeedOperator

/-- A reference of the kind that linking makes. -/
def OwnerReference.IsToHotNews (r : OwnerReference) : Prop :=
  r.apiVersion = HotNews.type.apiVersion ∧ r.kind = HotNews.type.kind

instance : DecidablePred OwnerReference.IsToHotNews :=
  fun _ => inferInstanceAs (Decidable (_ ∧ _))

namespace Store

/-- A HotNews with a UID is stored in a namespace, and it has its finalizer. -/
def HasOwner (s : Store) (ns uid : String) : Prop :=
  ∃ k hotNews, s.hotNews.get? k = some hotNews ∧ k.ns = ns ∧ hotNews.metadata.uid = some uid ∧
    hotNews.metadata.hasFinalizer HotNews.finalizer = true

/-- Every reference to a HotNews has its HotNews in the namespace of the Source. -/
def Anchored (s : Store) : Prop :=
  ∀ k source, s.sources.get? k = some source → ∀ r ∈ source.metadata.owners, r.IsToHotNews →
    source.metadata.name ≠ none ∧ s.HasOwner k.ns r.uid

variable {s t u : Store}

/-! ## Changes that matter to no reference -/

/-- The same owners and the same name. -/
def SameTies (a b : Source) : Prop :=
  b.metadata.owners = a.metadata.owners ∧ b.metadata.name = a.metadata.name

/-- The same UID, and the finalizer if it was there. -/
def KeepsHold (a b : HotNews) : Prop :=
  b.metadata.uid = a.metadata.uid ∧ (a.metadata.hasFinalizer HotNews.finalizer = true →
    b.metadata.hasFinalizer HotNews.finalizer = true)

theorem HasOwner.of_change {ns uid : String} {touched : ObjectKey → Prop} (h : s.HasOwner ns uid)
    (change : s.hotNews.Changes KeepsHold
      (fun a => a.metadata.hasFinalizer HotNews.finalizer = false) touched u.hotNews) :
    u.HasOwner ns uid := by
  obtain ⟨j, hotNews, hj, hns, huid, hfin⟩ := h
  have hev := change.evolves j
  rw [hj] at hev
  obtain ⟨hotNews', hj', huid', hfin'⟩ := hev.still (by simp [hfin])
  exact ⟨j, hotNews', hj', hns, huid'.trans huid, hfin' hfin⟩

theorem HasOwner.of_eq {ns uid : String} (h : s.HasOwner ns uid) (same : u.hotNews = s.hotNews) :
    u.HasOwner ns uid := by
  unfold HasOwner at *
  rwa [same]

/-- Sources that keep owners and name, or go. -/
theorem Anchored.of_sources (ha : s.Anchored) {out : Source → Prop} {touched : ObjectKey → Prop}
    (change : s.SourcesChange SameTies out touched u) : u.Anchored := by
  intro k b hb r hr hkind
  have hev := change.sources.evolves k
  rw [hb] at hev
  obtain ⟨a, hka, howners, hname⟩ := hev.before
  obtain ⟨hnamed, howner⟩ := ha k a hka r (howners ▸ hr) hkind
  exact ⟨hname ▸ hnamed, howner.of_eq change.rest.hotNews⟩

/-- HotNews that keep their finalizer, or go without one. -/
theorem Anchored.of_hotNews (ha : s.Anchored) {touched : ObjectKey → Prop}
    (change : s.HotNewsChange KeepsHold
      (fun a => a.metadata.hasFinalizer HotNews.finalizer = false) touched u) : u.Anchored := by
  intro k a hka r hr hkind
  rw [change.rest.sources] at hka
  obtain ⟨hnamed, howner⟩ := ha k a hka r hr hkind
  exact ⟨hnamed, howner.of_change change.hotNews⟩

theorem Anchored.of_sameObjects (ha : s.Anchored) (h : s.SameObjects u) : u.Anchored := by
  intro k a hka r hr hkind
  rw [h.sources] at hka
  obtain ⟨hnamed, howner⟩ := ha k a hka r hr hkind
  exact ⟨hnamed, howner.of_eq h.hotNews⟩

/-! ## Changes of owners -/

/-- Sources that come to be owned by someone who is there. -/
theorem Anchored.of_relinked (ha : s.Anchored) (hs : s.Sound) {ns uid : String}
    {new : List OwnerReference} (there : ∀ r ∈ new, s.HasOwner ns r.uid)
    (h : s.Relinked uid new (NamedIn ns (s.sources.inNamespace ns)) u) : u.Anchored := by
  intro k b hb r hr hkind
  have hev := h.sources.evolves k
  rw [hb] at hev
  obtain ⟨a, hka, hab⟩ := hev.before
  by_cases hk : NamedIn ns (s.sources.inNamespace ns) k
  · refine ⟨by rw [hab.name_eq, hk.name_eq hs hka]; simp, ?_⟩
    rcases hab.origin r hr with hold | hnew
    · exact (ha k a hka r hold hkind).2.of_eq h.rest.hotNews
    · exact hk.1 ▸ (there r hnew).of_eq h.rest.hotNews
  · rw [h.sources.elsewhere k hk, hka] at hb
    obtain rfl := Option.some.inj hb
    obtain ⟨hnamed, howner⟩ := ha k a hka r hr hkind
    exact ⟨hnamed, howner.of_eq h.rest.hotNews⟩

/-- A HotNews that no Source with a name names as its owner may change as it likes. -/
theorem Anchored.of_free (ha : s.Anchored) {hotNews : HotNews}
    (stored : s.hotNews.get? hotNews.key = some hotNews)
    (free : ∀ k source, k.ns = hotNews.key.ns → s.sources.get? k = some source →
      source.metadata.name ≠ none → ∀ r ∈ source.metadata.owners,
        hotNews.metadata.uid ≠ some r.uid)
    (sources : u.sources = s.sources)
    (elsewhere : ∀ k, k ≠ hotNews.key → u.hotNews.get? k = s.hotNews.get? k) : u.Anchored := by
  intro k source hk r hr hkind
  rw [sources] at hk
  obtain ⟨hnamed, j, owner, hj, hns, huid, hfin⟩ := ha k source hk r hr hkind
  refine ⟨hnamed, j, owner, ?_, hns, huid, hfin⟩
  by_cases hjk : j = hotNews.key
  · subst hjk
    obtain rfl : hotNews = owner := Option.some.inj (stored.symm.trans hj)
    exact absurd huid (free k source hns.symm hk hnamed r hr)
  · rw [elsewhere j hjk, hj]

/-! ## Turns -/

theorem keepsHold_evolution :
    IsEvolution KeepsHold fun a => a.metadata.hasFinalizer HotNews.finalizer = false where
  refl _ := ⟨rfl, id⟩
  trans h g := ⟨g.1.trans h.1, g.2 ∘ h.2⟩
  back := by
    intro a b h hb
    cases ha : a.metadata.hasFinalizer HotNews.finalizer with
    | false => rfl
    | true =>
      rw [h.2 ha] at hb
      cases hb

theorem keepsHold_of_finalizers_eq {a b : HotNews} (huid : b.metadata.uid = a.metadata.uid)
    (h : b.metadata.finalizers = a.metadata.finalizers) : KeepsHold a b := by
  refine ⟨huid, fun ha => ?_⟩
  unfold Meta.hasFinalizer at *
  rwa [h]

variable {w : Climate} {ns name now : String} {settings : Settings} {es : List Event}

/-- **A pass over a Source keeps a store anchored.** It leaves owners and names alone. -/
theorem anchored_source {r : Except SourceError Action} (hs : s.Sound) (ha : s.Anchored)
    (h : Source.Course w now ns name s es r u) : u.Anchored :=
  ha.of_sources ((h.tended hs).mono (fun h => ⟨h.owners_eq, h.name_eq⟩) (fun _ => trivial)
    fun _ => id)

/-- Making sure of the finalizer takes it from nobody. -/
theorem anchored_held {hotNews : HotNews} {r : Except HotNewsError HotNews}
    (ha : s.Anchored) (stored : s.hotNews.get? hotNews.key = some hotNews)
    (h : HotNews.Held w s hotNews es r u) : u.Anchored := by
  cases h with
  | already => exact ha
  | written meets hf =>
    have same := w.sameObjects meets
    have hheld := hotNews.refinalized_heldBy HotNews.finalizer
    have hkey : hotNews.held.key = hotNews.key := hheld.kept.key_eq
    rw [← hkey, ← same.hotNews] at stored
    refine (ha.of_sameObjects same).of_hotNews
      (.of_replace keepsHold_evolution (fun a hstored version => ?_) fun a hstored _ => ?_)
    · obtain rfl := Option.some.inj (stored.symm.trans hstored)
      exact ⟨(hheld.inPlaceOf version).kept.uid_eq, fun _ => hotNews.hasFinalizer_heldBy _⟩
    · obtain rfl := Option.some.inj (stored.symm.trans hstored)
      exact hf

/-- Linking makes an owner of one who is there. -/
theorem anchored_linked {hotNews : HotNews} (hs : s.Sound) (ha : s.Anchored)
    (stored : s.hotNews.get? hotNews.key = some hotNews)
    (holds : hotNews.metadata.hasFinalizer HotNews.finalizer = true)
    (h : HotNews.Linked s hotNews u) : u.Anchored := by
  cases h with
  | unchanged h => exact ha.of_sameObjects h
  | joined placed known h =>
    refine ha.of_relinked hs (fun r hr => ?_) h
    obtain rfl := List.mem_singleton.mp hr
    refine ⟨hotNews.key, hotNews, stored, ?_, HotNews.uid_of_ownerReference? known, holds⟩
    simp [Object.key, ObjectKey.ofMeta, placed]

/-- Once it was taken from the owners, a HotNews may go. -/
theorem anchored_freed {hotNews : HotNews} (hs : s.Sound) (ha : s.Anchored)
    (stored : s.hotNews.get? hotNews.key = some hotNews) (placed : hotNews.metadata.ns = some ns)
    (h : HotNews.Freed w s hotNews ns es t)
    (sources : u.sources = t.sources)
    (elsewhere : ∀ k, k ≠ hotNews.key → u.hotNews.get? k = t.hotNews.get? k) : u.Anchored := by
  have hns : hotNews.key.ns = ns := by simp [Object.key, ObjectKey.ofMeta, placed]
  cases h with
  | unidentified huid =>
    exact ha.of_free stored (fun _ _ _ _ _ _ _ => by rw [huid]; simp) sources elsewhere
  | unlinked huid unlinking =>
    obtain ⟨hrel, hfree⟩ := unlinkSources_leads hs unlinking
    have ht := ha.of_relinked hs (fun _ h => absurd h List.not_mem_nil) hrel
    refine ht.of_free (hrel.rest.hotNews ▸ stored) (fun k source hk hsource hnamed r hr => ?_)
      sources elsewhere
    rw [huid]
    intro heq
    refine hnamed (hfree _ rfl k source (hk.trans hns) hsource ?_)
    unfold Source.isOwnedBy Meta.isOwnedBy
    rw [List.any_eq_true]
    exact ⟨r, hr, by simpa using (Option.some.inj heq).symm⟩

/-- **A pass over a HotNews keeps a store anchored.** It links when it is held, and lets go when it
is free. -/
theorem anchored_hotNews {r : Except HotNewsError Action} (hs : s.Sound) (ha : s.Anchored)
    (h : HotNews.Course w settings now ns name s es r u) : u.Anchored := by
  -- What the first call finds is sound and anchored, and the HotNews is there.
  have read : ∀ {t : Store} {hotNews : HotNews}, w.Meets s t →
      s.hotNews.get? ⟨ns, name⟩ = some hotNews →
      t.Sound ∧ t.Anchored ∧ t.hotNews.get? hotNews.key = some hotNews := by
    intro t hotNews meets stored
    exact ⟨w.sound meets hs, ha.of_sameObjects (w.sameObjects meets),
      (w.hotNews_stands meets hs stored).2⟩
  cases h with
  | absent meets => exact ha.of_sameObjects (w.sameObjects meets)
  | finalized meets stored _ ends =>
    obtain ⟨ht, ha, stored⟩ := read meets stored
    cases ends with
    | unheld | unplaced => exact ha
    | stuck _ _ _ unlinking =>
      exact ha.of_relinked ht (fun _ h => absurd h List.not_mem_nil)
        (unlinkSources_leads ht unlinking).1
    | @released _ _ _ v _ placed frees writes =>
      have same := w.sameObjects writes
      rcases v.replaceHotNews_cases (HotNews.released _) with
        ⟨_, _, hsame⟩ | ⟨_, _, _, hreplaced, rest⟩
      · have hsame := same.trans hsame
        exact anchored_freed ht ha stored placed frees hsame.sources
          fun _ _ => by rw [hsame.hotNews]
      · exact anchored_freed ht ha stored placed frees (rest.sources.trans same.sources)
          fun _ hk => by rw [hreplaced.elsewhere hk, same.hotNews]
  | unheld meets stored _ holds =>
    obtain ⟨-, ha, stored⟩ := read meets stored
    exact anchored_held ha stored holds
  | refreshed meets stored live held goes =>
    obtain ⟨ht, ha, stored⟩ := read meets stored
    have hold := held.holding stored live
    have hv := anchored_held ha stored held
    obtain ⟨x, hlinked, hrestated⟩ := goes.leaves (held.sound ht)
    have hx := anchored_linked (held.sound ht) hv hold.stands hold.holds hlinked
    refine hx.of_hotNews (hrestated.mono (fun h => ?_) (fun h => h.elim) fun _ => id)
    exact keepsHold_of_finalizers_eq h.kept.uid_eq h.finalizers_eq

/-- **Every turn keeps a store anchored.** -/
theorem anchored_turn {turn : Turn} (hs : s.Sound) (h : turn.Leads s es u) (ha : s.Anchored) :
    u.Anchored := by
  cases h with
  | source h =>
    rcases Source.reconcile_leads h with ⟨_, _, _, rfl⟩ | ⟨ns, name, _, _, hcourse⟩
    · exact ha
    · exact anchored_source hs ha hcourse
  | hotNews h =>
    rcases HotNews.reconcile_leads h with ⟨_, _, _, rfl⟩ | ⟨ns, name, _, _, hcourse⟩
    · exact ha
    · exact anchored_hotNews hs ha hcourse
  | deleteSource key =>
    have change : s.SourcesChange Object.MayMark Object.IsUnheld (· = key) (s.deleteSource key) :=
      ⟨markDeleted_changes s.sources key, rfl, rfl⟩
    have ties : s.SourcesChange SameTies (fun _ => True) (· = key) (s.deleteSource key) :=
      change.mono (fun h => by rcases h with rfl | rfl <;> exact ⟨rfl, rfl⟩) (fun _ => trivial)
        fun _ => id
    exact ha.of_sources ties
  | deleteHotNews key =>
    have change : s.HotNewsChange Object.MayMark Object.IsUnheld (· = key) (s.deleteHotNews key) :=
      ⟨markDeleted_changes s.hotNews key, rfl, rfl⟩
    exact ha.of_hotNews (change.mono
      (fun h => keepsHold_of_finalizers_eq (by rcases h with rfl | rfl <;> rfl) h.finalizers_eq)
      (fun h => Object.hasFinalizer_of_isUnheld h) fun _ => id)
  | faults => exact ha.of_sameObjects ⟨rfl, rfl, rfl⟩

/-- **No reference dangles.** From a store that comes about and in which no Source names a HotNews
as its owner, after any number of passes of both controllers, requests to delete and failures, with
any answers of the service: a reference to a HotNews on a stored Source has its HotNews, which is
stored in the namespace of the Source and has its finalizer. -/
theorem owner_is_held {s u : Store} (built : s.Built)
    (clean : ∀ k source, s.sources.get? k = some source → ∀ r ∈ source.metadata.owners,
      ¬ r.IsToHotNews)
    (h : s.Reaches u) {k : ObjectKey} {source : Source} (stored : u.sources.get? k = some source)
    {r : OwnerReference} (hr : r ∈ source.metadata.owners) (hkind : r.IsToHotNews) :
    u.HasOwner k.ns r.uid := by
  have hs : s.Anchored := fun k source hk r hr hkind => absurd hkind (clean k source hk r hr)
  exact ((h.keeps anchored_turn built.sound hs).2 k source stored r hr hkind).2

/-- A Source and a HotNews that searches it, before any pass. -/
def linkable : Store :=
  ((Store.insert {} (.configMap { metadata := { name := some "feed-group-source" } })).insert
    (.source {
      metadata := { name := some "bbc", ns := some "news" }
      spec := { shortName := "bbc" } })).insert
    (.hotNews {
      metadata := { name := some "world", ns := some "news" }
      spec := { sources := ["bbc"] } })

/-- A pass over the HotNews. -/
def linking : Turn :=
  .hotNews {} "now" { metadata := { name := some "world", ns := some "news" }, spec := {} }

/-- Two Sources and a HotNews that searches both, before any pass. -/
def pair : Store :=
  ((linkable.insert
    (.source {
      metadata := { name := some "cnn", ns := some "news" }
      spec := { shortName := "cnn" } })).insert
    (.hotNews {
      metadata := { name := some "world", ns := some "news" }
      spec := { sources := ["bbc", "cnn"] } }))

/-- A pass that links the first Source and fails at the second one, a pass that links both, a
request to delete the HotNews, and a pass that unlinks the first Source and fails at the second
one. -/
def interruptions : List (Weather × Turn) :=
  [(.worsening 6, linking), (fun _ => {}, linking),
    (fun _ => {}, .deleteHotNews ⟨"news", "world"⟩), (.worsening 4, linking)]

/-- The store after the first few of these turns. -/
def interruptedAt (turns : Nat) : Store :=
  (interruptions.take turns).foldl
    (fun s turn => turn.2.runIn (Rehearsal.reply (fun _ => "") .usual) turn.1 s) pair

/-- The owners of the two Sources then. -/
def tiesAt (turns : Nat) : List (List OwnerReference) :=
  (interruptedAt turns).sources.entries.map (·.2.metadata.owners)

/-- The reference that linking makes there. -/
def toWorld : OwnerReference :=
  ⟨"newsaggregator.dev/v1", "HotNews", "world", "uid-world", none, none⟩

/-- When linking stops half-way the one reference that stands has its HotNews, and so has the one
that is left when unlinking stops half-way. -/
theorem linked_is_held : pair.Built ∧
    pair.Reaches (interruptedAt 1) ∧ tiesAt 1 = [[toWorld], []] ∧
      (interruptedAt 1).HasOwner "news" "uid-world" ∧
    pair.Reaches (interruptedAt 4) ∧ tiesAt 4 = [[], [toWorld]] ∧
      (interruptedAt 4).HasOwner "news" "uid-world" := by
  have built : pair.Built := ((((Built.empty.insert _).insert _).insert _).insert _).insert _
  have clean : ∀ e ∈ pair.sources.entries, e.2.metadata.owners = [] := by decide +kernel
  have reached : ∀ turns, pair.Reaches (interruptedAt turns) :=
    fun turns => reaches_runIn _ (interruptions.take turns) pair
  have held : ∀ turns name, ((interruptedAt turns).sources.get? ⟨"news", name⟩).map
      (·.metadata.owners) = some [toWorld] → (interruptedAt turns).HasOwner "news" "uid-world" := by
    intro turns name linked
    obtain ⟨source, stored, howners⟩ := Option.map_eq_some_iff.mp linked
    refine owner_is_held built (fun k a ha r hr => ?_) (reached turns) stored
      (howners ▸ List.mem_singleton_self _) (by decide)
    rw [clean _ (Catalog.mem_of_lookup ha)] at hr
    exact absurd hr List.not_mem_nil
  exact ⟨built, reached 1, by decide +kernel, held 1 "bbc" (by decide +kernel),
    reached 4, by decide +kernel, held 4 "cnn" (by decide +kernel)⟩

end Store

end FeedOperator
