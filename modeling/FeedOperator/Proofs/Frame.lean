import FeedOperator.Proofs.Visit
import FeedOperator.Proofs.Weather

/-!
# What a pass leaves alone

A pass hands whole objects to the store, and may fail at any call. Whatever happens, of its own
object it changes finalizers, status and version at most, or removes it; a pass over a HotNews
changes the owners of Sources of its namespace besides, and of those the ones with its own UID.

* `Source.Reowned`: a Source of which only owners with one UID may have changed.
* `HotNews.Framed`, `Visit.Frame`: what a pass may change of a store.
* `Catalog.KeepsIdentity`, `Catalog.KeepsObserved`: changes that leave some of the objects alone.

Results:
* `HotNews.Course.framed`: a pass over a HotNews changes no more than that.
* `pass_frame`: so does every pass, and nothing of other namespaces, no ConfigMap, and no spec, UID
  or mark for deletion.
-/

namespace FeedOperator

/-! ## Changes of one object -/

/-- A Source of which owners with one UID and the version may have changed, and nothing else. -/
structure Source.Reowned (uid? : Option String) (a b : Source) : Prop where
  frame : ∃ owners version, b = { a with
    metadata := { a.metadata with ownerReferences := owners, resourceVersion := version } }
  others : b.metadata.owners.filter (some ·.uid != uid?) =
    a.metadata.owners.filter (some ·.uid != uid?)

theorem Source.Relinked.reowned {uid : String} {new : List OwnerReference} {a b : Source}
    (h : a.Relinked uid new b) : a.Reowned (some uid) b := by
  have hsame : ∀ r : OwnerReference, (some r.uid != some uid) = (r.uid != uid) := fun r => by
    rw [Bool.eq_iff_iff]
    simp
  refine ⟨h.frame, ?_⟩
  simp only [hsame]
  exact h.others

theorem Source.Reowned.refl (uid? : Option String) (a : Source) : a.Reowned uid? a :=
  ⟨⟨a.metadata.ownerReferences, a.metadata.resourceVersion, rfl⟩, rfl⟩

section Catalogs

variable {σ τ : Type} {c d : Catalog (Object σ τ)}

/-- What is still found has the same spec and UID, and its deletion was requested at the same time,
if at all. -/
def Catalog.KeepsIdentity (c d : Catalog (Object σ τ)) : Prop :=
  ∀ k a b, c.get? k = some a → d.get? k = some b → b.spec = a.spec ∧
    b.metadata.uid = a.metadata.uid ∧
    b.metadata.deletionTimestamp = a.metadata.deletionTimestamp

/-- What was found is found still, with the same status and the same finalizers. -/
def Catalog.KeepsObserved (c d : Catalog (Object σ τ)) : Prop :=
  ∀ k a, c.get? k = some a → ∃ b, d.get? k = some b ∧ b.status = a.status ∧
    b.metadata.finalizers = a.metadata.finalizers

theorem Catalog.Changes.related {R : Object σ τ → Object σ τ → Prop} {out : Object σ τ → Prop}
    {touched : ObjectKey → Prop} (h : c.Changes R out touched d) {k : ObjectKey}
    {a b : Object σ τ} (ha : c.get? k = some a) (hb : d.get? k = some b) : R a b := by
  obtain ⟨a', ha', hab⟩ := (hb ▸ h.evolves k).before
  obtain rfl := Option.some.inj (ha.symm.trans ha')
  exact hab

theorem Catalog.KeepsIdentity.of_eq (h : d = c) : c.KeepsIdentity d := by
  intro k a b ha hb
  rw [h] at hb
  obtain rfl := Option.some.inj (ha.symm.trans hb)
  exact ⟨rfl, rfl, rfl⟩

theorem Catalog.KeepsIdentity.of_kept {out : Object σ τ → Prop} {touched : ObjectKey → Prop}
    (h : c.Changes Object.Kept out touched d) : c.KeepsIdentity d := by
  intro k a b ha hb
  obtain ⟨_, _, _, rfl⟩ := h.related ha hb
  exact ⟨rfl, rfl, rfl⟩

end Catalogs

/-! ## Changes of a store -/

/-- What a pass over the HotNews under a key may change of a store. -/
structure HotNews.Framed (key : ObjectKey) (s u : Store) : Prop where
  /-- Of HotNews its own, and of that finalizers, status and version; it may be gone if it was
  marked for deletion. -/
  hotNews : s.hotNews.Changes Object.Kept Object.IsMarked (· = key) u.hotNews
  /-- Of Sources those of its namespace, and of them the owners with its UID and the version. -/
  sources : s.sources.Changes (Source.Reowned ((s.hotNews.get? key).bind (·.metadata.uid)))
    (fun _ => False) (·.ns = key.ns) u.sources
  configMaps : u.configMaps = s.configMaps

/-- What a visit may change of a store. -/
def Visit.Frame (visit : Visit) (s u : Store) : Prop :=
  match visit.subject? with
  | none => u = s
  | some (.source key) => Source.Tended key s u
  | some (.hotNews _ key) => HotNews.Framed key s u

variable {w : Climate} {s u : Store} {es : List Event} {now : String}

/-- **A pass over a HotNews changes no more than its frame.** -/
theorem HotNews.Course.framed {settings : Settings} {key : ObjectKey}
    {r : Except HotNewsError Action} (hs : s.Sound) (stay : s.NoneLeaving)
    (maps : u.configMaps = s.configMaps)
    (h : HotNews.Course w settings now key.ns key.name s es r u) : HotNews.Framed key s u := by
  refine ⟨h.kept hs, ?_, maps⟩
  rcases h.relinks hs with same | ⟨hotNews, uid, new, stored, huid, hrel⟩
  · rw [same]
    refine ⟨fun _ _ => rfl, fun k => ?_⟩
    cases s.sources.get? k with
    | none => exact .absent
    | some a => exact .kept (.refl _ a)
  · have huid' : (s.hotNews.get? key).bind (·.metadata.uid) = some uid := by
      rw [stored]
      exact huid
    rw [huid']
    refine ⟨hrel.elsewhere, fun k => ?_⟩
    cases ha : s.sources.get? k with
    | none =>
      have hev := hrel.evolves k
      rw [ha] at hev
      cases hb : u.sources.get? k with
      | none => exact .absent
      | some b => rw [hb] at hev; cases hev
    | some a =>
      obtain ⟨b, hb, hab⟩ := (ha ▸ hrel.evolves k).still (stay.sources k a ha)
      rw [hb]
      exact .kept hab.reowned

namespace Visit

variable {visit : Visit}

/-- Whether the visit is a pass over a HotNews. -/
def IsOfHotNews : Visit → Prop
  | .source _ => False
  | .hotNews _ _ => True

theorem Frame.keepsIdentity (h : visit.Frame s u) :
    s.sources.KeepsIdentity u.sources ∧ s.hotNews.KeepsIdentity u.hotNews := by
  unfold Frame at h
  split at h
  · exact ⟨.of_eq (h ▸ rfl), .of_eq (h ▸ rfl)⟩
  · exact ⟨.of_kept h.sources, .of_eq h.rest.hotNews⟩
  · refine ⟨fun k a b ha hb => ?_, .of_kept h.hotNews⟩
    obtain ⟨_, _, rfl⟩ := (h.sources.related ha hb).frame
    exact ⟨rfl, rfl, rfl⟩

/-- Other namespaces are left alone. -/
theorem Frame.elsewhere (h : visit.Frame s u) {k : ObjectKey}
    (away : ∀ subject, visit.subject? = some subject → k.ns ≠ subject.key.ns) :
    u.sources.get? k = s.sources.get? k ∧ u.hotNews.get? k = s.hotNews.get? k := by
  unfold Frame at h
  split at h
  · exact ⟨h ▸ rfl, h ▸ rfl⟩
  · next key about =>
    have hk : k ≠ key := fun heq => away _ about (congrArg ObjectKey.ns heq)
    exact ⟨h.sources.elsewhere k hk, h.rest.hotNews ▸ rfl⟩
  · next key about =>
    have hk : k ≠ key := fun heq => away _ about (congrArg ObjectKey.ns heq)
    exact ⟨h.sources.elsewhere k (away _ about), h.hotNews.elsewhere k hk⟩

theorem Frame.configMaps_eq (h : visit.Frame s u) : u.configMaps = s.configMaps := by
  unfold Frame at h
  split at h
  · exact h ▸ rfl
  · exact h.rest.configMaps
  · exact h.configMaps

theorem IsOfHotNews.subject?_ne (of : visit.IsOfHotNews) (key : ObjectKey) :
    visit.subject? ≠ some (.source key) := by
  cases visit with
  | source => exact of.elim
  | hotNews => simp [subject?]

/-- A pass over a HotNews keeps every Source, with its status and its finalizers. -/
theorem Frame.keepsObserved (h : visit.Frame s u) (of : visit.IsOfHotNews) :
    s.sources.KeepsObserved u.sources := by
  intro k a ha
  unfold Frame at h
  split at h
  · exact ⟨a, h ▸ ha, rfl, rfl⟩
  · next about => exact absurd about (of.subject?_ne _)
  · obtain ⟨b, hb, hab⟩ := (ha ▸ h.sources.evolves k).still id
    obtain ⟨_, _, rfl⟩ := hab.frame
    exact ⟨_, hb, rfl, rfl⟩

end Visit

/-- **What a pass leaves alone.** Over a store that comes about, in which every object that is
marked for deletion has a finalizer, with any answers of the service and any failures of the store,
which may change at every call: a pass, whether it goes well or not, changes no more than its frame.
So it keeps spec, UID and mark for deletion of all that stays, it leaves other namespaces and all
ConfigMaps alone, and if it is a pass over a HotNews it keeps status and finalizers of every
Source. -/
theorem pass_frame {visit : Visit} {r : Except PassError Action} (built : s.Built)
    (stay : s.NoneLeaving) (h : (visit.pass now).Weathers s es r u) :
    visit.Frame s u ∧
    (s.sources.KeepsIdentity u.sources ∧ s.hotNews.KeepsIdentity u.hotNews) ∧
    (∀ k, (∀ subject, visit.subject? = some subject → k.ns ≠ subject.key.ns) →
      u.sources.get? k = s.sources.get? k ∧ u.hotNews.get? k = s.hotNews.get? k) ∧
    u.configMaps = s.configMaps ∧
    (visit.IsOfHotNews → s.sources.KeepsObserved u.sources) := by
  have frame : visit.Frame s u := by
    unfold Visit.Frame
    split
    · next about => exact Visit.unchanged_of_leads about h
    · next about => cases Visit.course_of_leads about h with
      | source hcourse => exact hcourse.tended built.sound
    · next about => cases Visit.course_of_leads about h with
      | hotNews hcourse => exact hcourse.framed built.sound stay h.configMaps_eq
  exact ⟨frame, frame.keepsIdentity, fun _ => frame.elsewhere, frame.configMaps_eq,
    frame.keepsObserved⟩

/-- The first replace of the Source meets a conflict, and the write of the status is refused. -/
def contention : Weather :=
  fun i => { conflicts := if i = 5 then 1 else 0, failStatusWrites := i == 9 }

/-- What a pass leaves that meets them, and a failure of the service in between. -/
def contended : Store :=
  ((worldVisit.pass "now").runIn unreachable contention newsroom).2

/-- The pass joins the owners of the Source, and keeps to its frame. -/
theorem contended_pass_frame :
    (contended.sources.get? ⟨"news", "bbc"⟩).map (·.metadata.owners.map (·.uid)) =
        some ["uid-other", "uid-world"] ∧
      worldVisit.Frame newsroom contended := by
  have stay : newsroom.NoneLeaving := .of_entries (by decide +kernel) (by decide +kernel)
  exact ⟨by decide +kernel,
    (pass_frame built_newsroom stay (Pass.weathers_runIn unreachable _ contention newsroom)).1⟩

end FeedOperator
