import FeedOperator.Proofs.Store.Optimistic

/-!
# Requests to delete, and copies that were read before

A request to delete an object marks it, and takes no version. So a copy that was read before the
mark carries the version of the marked object, and is as good for a replace as a copy of that: the
replace goes through, and puts an object without the mark in its place.

* `Readers`: a store, and the copies that its clients have got to see.
* `Deed`, `Readers.Step`: what happens next. An object is replaced by a copy of it with other owners
  and finalizers; all else is as the store has it.
* `Store.Remembers`: a copy can be told from what is stored by its version, but for a mark.
* `Store.Unmarks`: a replace by a copy that lacks the mark, while nothing was written since it was
  taken.

Results:
* `Reached.remembers`: all copies are remembered.
* `mark_undone_iff`: a mark goes with such a replace, and with nothing else that leaves the object
  in the store; a copy that lacks the mark is refused iff a conflict is due or something was written
  since it was taken.
-/

namespace FeedOperator

namespace Resource

/-- The object with other owners and finalizers. -/
def reworked (owners : Option (List OwnerReference)) (finalizers : Option (List String)) :
    Resource → Resource
  | .source o => .source { o with metadata :=
      { o.metadata with ownerReferences := owners, finalizers := finalizers } }
  | .hotNews o => .hotNews { o with metadata :=
      { o.metadata with ownerReferences := owners, finalizers := finalizers } }
  | .configMap o => .configMap { o with metadata :=
      { o.metadata with ownerReferences := owners, finalizers := finalizers } }

/-- The call that puts the object in the place of the stored one. ConfigMaps are not replaced. -/
def replacement? : Resource → Option StoreCall
  | .source o => some (.replaceSource o)
  | .hotNews o => some (.replaceHotNews o)
  | .configMap _ => none

/-- Whether an object bears the mark of a request to delete it. -/
def BearsMark (o : Resource) : Prop :=
  o.metadata.deletionTimestamp = some Store.deletionTime

variable {a b : Resource} {owners : Option (List OwnerReference)}
variable {finalizers : Option (List String)} {c : StoreCall}

@[simp]
theorem place_reworked (o : Resource) : (o.reworked owners finalizers).place = o.place := by
  cases o <;> rfl

@[simp]
theorem version?_reworked (o : Resource) :
    (o.reworked owners finalizers).version? = o.version? := by
  cases o <;> rfl

theorem bearsMark_reworked_iff :
    (a.reworked owners finalizers).BearsMark ↔ a.BearsMark := by
  cases a <;> rfl

theorem BearsMark.marked (h : a.BearsMark) : a.marked.BearsMark := by
  cases a with
  | source | hotNews => rfl
  | configMap => exact h

theorem handed?_of_replacement? (h : a.replacement? = some c) :
    c.handed? = some a ∧ c.writesStatus = false := by
  cases a with
  | source | hotNews =>
    cases h
    exact ⟨rfl, rfl⟩
  | configMap => cases h

end Resource

/-- Whether an event replaces an object. -/
def StoreOp.replaces : StoreOp → Bool
  | .call (.replaceSource _) | .call (.replaceHotNews _) => true
  | _ => false

/-- A store, and the copies that its clients have got to see. -/
structure Readers where
  store : Store
  copies : Resource → Prop

/-- What happens next. -/
inductive Deed where
  /-- Anything but a replace. -/
  | event (op : StoreOp)
  /-- A copy is written back with other owners and finalizers. -/
  | replace (copy : Resource) (owners : Option (List OwnerReference))
    (finalizers : Option (List String))

namespace Readers

/-- Clients keep what they get to see. -/
def after (r : Readers) (op : StoreOp) : Readers :=
  ⟨r.store.after op, fun o => r.copies o ∨ r.store.Shows op o⟩

/-- One thing that happens. -/
inductive Step (r : Readers) : Deed → Readers → Prop
  | event {op : StoreOp} (h : op.replaces = false) : Step r (.event op) (r.after op)
  | replace {copy : Resource} {owners : Option (List OwnerReference)}
    {finalizers : Option (List String)} {c : StoreCall} (taken : r.copies copy)
    (hc : (copy.reworked owners finalizers).replacement? = some c) :
    Step r (.replace copy owners finalizers) (r.after (.call c))

/-- What comes about from a store of which nobody has seen anything. -/
inductive Reached : Readers → Prop
  | start {s : Store} (built : s.Built) : Reached ⟨s, fun _ => False⟩
  | step {r r' : Readers} {deed : Deed} (h : Reached r) (step : r.Step deed r') : Reached r'

end Readers

namespace Store

variable {s : Store} {op : StoreOp} {a b o copy : Resource} {p : Place} {c : StoreCall}

/-- A copy is told from what is stored by its version, but for a mark. -/
def Remembers (s : Store) (copy : Resource) : Prop :=
  ∃ n ≤ s.version, copy.version? = some (versionText n) ∧
    ∀ b, s.at? copy.place = some b → b.version? = copy.version? → copy.MayMark b

theorem Remembers.after (hs : s.Sound) (h : s.Remembers copy) (op : StoreOp) :
    (s.after op).Remembers copy := by
  obtain ⟨n, hn, hnumber, hsame⟩ := h
  refine ⟨n, hn.trans (s.version_le_after op), hnumber, fun b hb hversion => ?_⟩
  rcases stored_after hs hb with hwritten | ⟨a, ha, hab⟩
  · -- what is written now carries a version that no copy has
    have hnew : versionText (s.version + 1) = versionText n :=
      Option.some.inj (hwritten.version?_eq.2.symm.trans (hversion.trans hnumber))
    have := versionText_injective hnew
    omega
  · exact (hsame a ha (hab.version?_eq.symm.trans hversion)).trans hab

/-- What a client gets to see is remembered from then on. -/
theorem Shows.remembers (hs : s.Sound) (hv : s.Stamped) (h : s.Shows op o) :
    (s.after op).Remembers o := by
  obtain ⟨hstands, n, hn, hnumber⟩ := h.stands hs hv
  refine ⟨n, hn, hnumber, fun b hb _ => ?_⟩
  rcases hstands with hnone | hsome
  · cases hb.symm.trans hnone
  · cases hb.symm.trans hsome
    exact .inl rfl

/-! ## What a replace does to a mark -/

/-- A replace that goes through stores the object at its place, with its mark if it has one. -/
theorem writes_of_replacement (hc : a.replacement? = some c) (h : (s.answer c).1.isOk = true) :
    ∃ o, s.Writes (.call c) o ∧ o.place = a.place ∧ (o.BearsMark ↔ a.BearsMark) := by
  cases a with
  | source new =>
    cases hc
    rcases s.replaceSource_cases new with ⟨_, herror, _⟩ | ⟨_, written, hok, hr, _⟩
    · cases (congrArg Except.isOk herror).symm.trans h
    · refine ⟨_, .source hok, congrArg Place.source hr.key_eq, ?_⟩
      obtain ⟨_, rfl⟩ := hr.written_eq
      rfl
  | hotNews new =>
    cases hc
    rcases s.replaceHotNews_cases new with ⟨_, herror, _⟩ | ⟨_, written, hok, hr, _⟩
    · cases (congrArg Except.isOk herror).symm.trans h
    · refine ⟨_, .hotNews hok, congrArg Place.hotNews hr.key_eq, ?_⟩
      obtain ⟨_, rfl⟩ := hr.written_eq
      rfl
  | configMap => cases hc

/-- A replace of an object that is stored goes through, or it is a conflict. -/
theorem conflict_of_refused (hc : a.replacement? = some c) (stored : s.at? a.place = some b)
    (h : ¬ (s.answer c).1.isOk = true) : ∃ name, (s.answer c).1 = .error (.conflict name) := by
  cases a with
  | source new =>
    cases hc
    obtain ⟨found, hfound, -⟩ := Option.map_eq_some_iff.mp stored
    change ¬ (s.replaceSource new).1.isOk = true at h
    change ∃ name, (s.replaceSource new).1 = .error (.conflict name)
    by_cases calm : s.sourceConflicts = 0
    · rw [replaceSource_of_calm calm, isOk_replaceIn_iff] at h
      rw [replaceSource_of_calm calm]
      exact ⟨_, replaceIn_of_outdated _ hfound fun hversion => h ⟨found, hfound, hversion⟩⟩
    · unfold replaceSource
      rw [if_neg calm]
      exact ⟨_, rfl⟩
  | hotNews new =>
    cases hc
    obtain ⟨found, hfound, -⟩ := Option.map_eq_some_iff.mp stored
    change ¬ (replaceIn s.hotNews s.nextVersion.2 new).1.isOk = true at h
    rw [isOk_replaceIn_iff] at h
    exact ⟨_, replaceIn_of_outdated _ hfound fun hversion => h ⟨found, hfound, hversion⟩⟩
  | configMap => cases hc

theorem Writes.isOk (h : s.Writes (.call c) o) : (s.answer c).1.isOk = true := by
  cases h with
  | source h | sourceStatus h | hotNews h | hotNewsStatus h => exact congrArg Except.isOk h

/-- What is not a replace and not an insertion writes no more than a status. -/
theorem Writes.bearsMark_iff (hs : s.Sound) (h : s.Writes op o) (hop : op.replaces = false)
    (hput : ∀ a, op ≠ .insert a) : ∃ a, s.at? o.place = some a ∧ (o.BearsMark ↔ a.BearsMark) := by
  cases h with
  | insert a => exact absurd rfl (hput a)
  | source | hotNews => cases hop
  | sourceStatus h =>
    obtain ⟨stored, hr⟩ := statusReplaced_source h
    have hstored := hs.at?_source hr.found
    obtain ⟨_, rfl⟩ := hr.written_eq
    exact ⟨.source stored, hstored, .rfl⟩
  | hotNewsStatus h =>
    obtain ⟨stored, hr⟩ := statusReplaced_hotNews h
    have hstored := hs.at?_hotNews hr.found
    obtain ⟨_, rfl⟩ := hr.written_eq
    exact ⟨.hotNews stored, hstored, .rfl⟩

end Store

namespace Readers

theorem Step.exists_after {r r' : Readers} {deed : Deed} (h : r.Step deed r') :
    ∃ op, r' = r.after op := by
  cases h with
  | event => exact ⟨_, rfl⟩
  | replace => exact ⟨_, rfl⟩

/-- **All copies are remembered**, and the store is one that comes about. -/
theorem Reached.remembers {r : Readers} (h : r.Reached) :
    r.store.Built ∧ ∀ copy, r.copies copy → r.store.Remembers copy := by
  induction h with
  | start built => exact ⟨built, fun _ h => h.elim⟩
  | @step r _ _ _ step ih =>
    obtain ⟨built, hcopies⟩ := ih
    obtain ⟨op, rfl⟩ := step.exists_after
    refine ⟨built.after op, fun copy hcopy => ?_⟩
    rcases hcopy with hold | hshown
    · exact (hcopies copy hold).after built.sound op
    · exact hshown.remembers built.sound built.stamped

end Readers

/-! ## What becomes of a mark -/

/-- A deed that undoes the mark of a stored object: a replace that nothing obstructs, by a copy that
lacks the mark and is the stored object otherwise. -/
def Store.Unmarks (s : Store) (b : Resource) (deed : Deed) : Prop :=
  ∃ copy owners finalizers c, deed = .replace copy owners finalizers ∧
    (copy.reworked owners finalizers).replacement? = some c ∧ s.obstructs c = false ∧
    (¬ copy.BearsMark ∧ b = copy.marked) ∧
    (copy.reworked owners finalizers).metadata.isReleased = false

namespace Readers

variable {r r' : Readers} {deed : Deed} {op : StoreOp} {p : Place} {b copy : Resource}
variable {owners : Option (List OwnerReference)} {finalizers : Option (List String)}
variable {c : StoreCall}

/-- What is neither a replace nor an insertion leaves a mark where it is. -/
theorem bearsMark_event {s : Store} (hs : s.Sound) (hop : op.replaces = false)
    (stored : s.at? p = some b) (mark : b.BearsMark) (kept : ∀ o, op = .insert o → o.place ≠ p)
    {b' : Resource} (hb : (s.after op).at? p = some b') : b'.BearsMark := by
  rcases Store.after_cases hs op p with ⟨o, ho, hp⟩ | hsame | ⟨-, a, ha, hgone | hmarked⟩
  · have hput : ∀ a, op ≠ .insert a := by
      rintro a rfl
      cases ho
      exact kept a rfl (by rw [← hp, Resource.place_stamped])
    obtain ⟨a, ha, hmark⟩ := ho.bearsMark_iff hs hop hput
    subst hp
    cases stored.symm.trans ha
    rcases ho.stands hs with hnone | hsome
    · cases hb.symm.trans hnone
    · cases hb.symm.trans hsome
      exact hmark.mpr mark
  · rw [hsame, stored] at hb
    cases hb
    exact mark
  · cases hb.symm.trans hgone
  · cases stored.symm.trans ha
    cases hb.symm.trans hmarked
    exact mark.marked

/-- A copy without the mark goes through iff nothing obstructs it and the stored object is the copy
with the mark. -/
theorem isOk_answer_iff_eq_marked (h : r.Reached) (stored : r.store.at? copy.place = some b)
    (mark : b.BearsMark) (taken : r.copies copy) (unmarked : ¬ copy.BearsMark)
    (hc : (copy.reworked owners finalizers).replacement? = some c) :
    (r.store.answer c).1.isOk = true ↔ r.store.obstructs c = false ∧ b = copy.marked := by
  obtain ⟨-, hcopies⟩ := h.remembers
  obtain ⟨n, -, -, hsame⟩ := hcopies copy taken
  obtain ⟨hhanded, hstatus⟩ := Resource.handed?_of_replacement? hc
  rw [Store.isOk_answer_iff hhanded, Resource.place_reworked, Resource.version?_reworked, hstatus]
  refine and_congr_right fun _ => ?_
  constructor
  · rintro ⟨a, ha, ⟨hfalse, -⟩ | hversion⟩
    · cases hfalse
    · cases stored.symm.trans ha
      rcases hsame b stored hversion with rfl | heq
      · exact absurd mark unmarked
      · exact heq
  · rintro rfl
    exact ⟨_, stored, .inr (Resource.version?_marked copy)⟩

/-- What a replace by a copy leaves at its place, if it goes through and the object need not go. -/
theorem exists_at?_replaced {s : Store} (hs : s.Sound)
    (hc : (copy.reworked owners finalizers).replacement? = some c)
    (hok : (s.answer c).1.isOk = true)
    (stays : (copy.reworked owners finalizers).metadata.isReleased = false) :
    ∃ o, (s.answer c).2.at? copy.place = some o ∧ (o.BearsMark ↔ copy.BearsMark) := by
  obtain ⟨hhanded, hstatus⟩ := Resource.handed?_of_replacement? hc
  obtain ⟨o, hwrites, hplace, hmark⟩ := Store.writes_of_replacement hc hok
  have hgone := Store.at?_replaced_eq_none_iff hhanded hstatus hok
  rw [← Store.isReleased_iff, stays] at hgone
  rw [Resource.place_reworked] at hplace hgone
  refine ⟨o, ?_, hmark.trans Resource.bearsMark_reworked_iff⟩
  rcases hwrites.stands hs with hnone | hsome
  · rw [hplace] at hnone
    cases hgone.mp hnone
  · rwa [hplace] at hsome

/-- A replace after which a mark is missing went through with a copy that lacks it. -/
theorem unmarks_of_replace (h : r.Reached) (stored : r.store.at? p = some b) (mark : b.BearsMark)
    (taken : r.copies copy) (hc : (copy.reworked owners finalizers).replacement? = some c)
    {b' : Resource} (hb : (r.store.answer c).2.at? p = some b') (hno : ¬ b'.BearsMark) :
    r.store.Unmarks b (.replace copy owners finalizers) := by
  have hs : r.store.Sound := h.remembers.1.sound
  obtain ⟨hhanded, hstatus⟩ := Resource.handed?_of_replacement? hc
  rcases Store.at?_answer_cases hs c p with ⟨o, ho, rfl⟩ | hsame
  · have hok := ho.isOk
    obtain ⟨o', ho', hplace, hmark⟩ := Store.writes_of_replacement hc hok
    obtain rfl := ho.unique ho'
    rw [Resource.place_reworked] at hplace
    obtain rfl : b' = o := by
      rcases ho.stands hs with hnone | hsome
      · cases hb.symm.trans hnone
      · exact Option.some.inj (hb.symm.trans hsome)
    have unmarked : ¬ copy.BearsMark := fun hmarked =>
      hno (hmark.mpr (Resource.bearsMark_reworked_iff.mpr hmarked))
    rw [hplace] at stored hb
    obtain ⟨calm, heq⟩ := (isOk_answer_iff_eq_marked h stored mark taken unmarked hc).mp hok
    refine ⟨copy, owners, finalizers, c, rfl, hc, calm, ⟨unmarked, heq⟩, ?_⟩
    -- had the object been released, nothing would stand at its place
    refine Bool.eq_false_iff.mpr fun hreleased => ?_
    have hgone := (Store.at?_replaced_eq_none_iff hhanded hstatus hok).mpr
      (Store.isReleased_iff.mp hreleased)
    rw [Resource.place_reworked] at hgone
    cases hgone.symm.trans hb
  · cases stored.symm.trans (hsame.symm.trans hb)
    exact absurd mark hno

/-- **A mark is undone by a replace whose copy was read before it**, while nothing was written in
between, and by nothing else that leaves the object in the store: a request to delete takes no
version. A copy that lacks the mark is refused with a conflict iff a conflict is due or something
was written since it was taken. -/
theorem mark_undone_iff (h : r.Reached) (step : r.Step deed r')
    (stored : r.store.at? p = some b) (mark : b.BearsMark)
    (kept : ∀ o, deed = .event (.insert o) → o.place ≠ p) :
    ((∃ b', r'.store.at? p = some b' ∧ ¬ b'.BearsMark) ↔ r.store.Unmarks b deed) ∧
      ∀ copy owners finalizers c, r.copies copy → copy.place = p → ¬ copy.BearsMark →
        (copy.reworked owners finalizers).replacement? = some c →
        ((∃ name, (r.store.answer c).1 = .error (.conflict name)) ↔
          r.store.obstructs c = true ∨ b ≠ copy.marked) := by
  have hs : r.store.Sound := h.remembers.1.sound
  refine ⟨⟨?_, ?_⟩, ?_⟩
  · rintro ⟨b', hb, hno⟩
    cases step with
    | event hop =>
      exact absurd (bearsMark_event hs hop stored mark (fun o ho => kept o (ho ▸ rfl)) hb) hno
    | replace taken hc => exact unmarks_of_replace h stored mark taken hc hb hno
  · rintro ⟨copy, owners, finalizers, c, rfl, hc, calm, ⟨unmarked, rfl⟩, stays⟩
    cases step with
    | replace taken hc' =>
      obtain rfl := Option.some.inj (hc.symm.trans hc')
      have hplace : copy.place = p := (Resource.place_marked copy).symm.trans (hs.place_eq stored)
      subst hplace
      have hok := (isOk_answer_iff_eq_marked h stored mark taken unmarked hc).mpr ⟨calm, rfl⟩
      obtain ⟨o, ho, hmark⟩ := exists_at?_replaced hs hc hok stays
      exact ⟨o, ho, fun hmarked => unmarked (hmark.mp hmarked)⟩
  · rintro copy owners finalizers c taken rfl unmarked hc
    have haccepted := isOk_answer_iff_eq_marked h stored mark taken unmarked hc
    constructor
    · rintro ⟨name, hname⟩
      by_contra hnot
      obtain ⟨calm, heq⟩ := not_or.mp hnot
      have hok := haccepted.mpr ⟨Bool.eq_false_iff.mpr calm, not_not.mp heq⟩
      rw [hname] at hok
      cases hok
    · intro hreason
      refine Store.conflict_of_refused (b := b) hc ?_ fun hok => ?_
      · rw [Resource.place_reworked]
        exact stored
      · obtain ⟨calm, heq⟩ := haccepted.mp hok
        rcases hreason with obstructed | hne
        · cases calm.symm.trans obstructed
        · exact hne heq

end Readers

/-! ## A mark that is lost -/

namespace Readers

/-- A Source that has a finalizer. -/
def heldSource : Source where
  metadata := { name := some "bbc", ns := some "news", finalizers := some [Source.finalizer] }
  spec := { shortName := "bbc" }

/-- A store with that Source alone. -/
def kiosk : Store := Store.insert {} (.source heldSource)

/-- The Source as it is stored. -/
def storedSource : Source :=
  { heldSource with metadata := Store.stamp (Store.versionText 1) heldSource.metadata }

/-- Some owner. -/
def someOwner : OwnerReference :=
  { apiVersion := "v1", kind := "Owner", name := "other", uid := "uid-other" }

/-- What was read before the mark goes through after it, with an owner, and no mark is left. -/
theorem mark_lost :
    let marked := kiosk.deleteSource ⟨"news", "bbc"⟩
    let done := marked.replaceSource (storedSource.addOwner someOwner).1
    kiosk.sources.get? ⟨"news", "bbc"⟩ = some storedSource ∧
      (marked.sources.get? ⟨"news", "bbc"⟩).map (·.metadata.deletionTimestamp) =
          some (some Store.deletionTime) ∧
        done.1.isOk = true ∧
          (done.2.sources.get? ⟨"news", "bbc"⟩).map (·.metadata.deletionTimestamp) = some none :=
  ⟨rfl, by decide +kernel⟩

/-- The kiosk after its Source was read and then marked. -/
def revisited : Readers :=
  ((Readers.mk kiosk fun _ => False).after (.call (.getSource "news" "bbc"))).after
    (.deleteSource ⟨"news", "bbc"⟩)

/-- So the mark is undone when the reader writes its copy back. -/
theorem reader_undoes_mark : revisited.Reached ∧ ∃ r' deed b, revisited.Step deed r' ∧
    revisited.store.at? (.source ⟨"news", "bbc"⟩) = some b ∧ b.BearsMark ∧
      ∃ b', r'.store.at? (.source ⟨"news", "bbc"⟩) = some b' ∧ ¬ b'.BearsMark := by
  have built : kiosk.Built := Store.Built.empty.insert _
  have seen : ((Readers.mk kiosk fun _ => False).after (.call (.getSource "news" "bbc"))).Reached :=
    (Reached.start built).step (.event rfl)
  have reached : revisited.Reached := seen.step (.event rfl)
  have read : kiosk.Shows (.call (.getSource "news" "bbc")) (.source storedSource) :=
    .inl (.source rfl)
  have taken : revisited.copies (.source storedSource) := .inl (.inr read)
  have unmarked : ¬ (Resource.source storedSource).BearsMark := by
    intro h
    cases h
  have step : revisited.Step
      (.replace (.source storedSource) (some [someOwner]) (some [Source.finalizer])) _ :=
    .replace taken rfl
  have undone := mark_undone_iff reached step (p := .source ⟨"news", "bbc"⟩) rfl rfl
    fun _ h => by cases h
  exact ⟨reached, _, _, .source storedSource.marked, step, rfl, rfl,
    undone.1.mpr ⟨.source storedSource, _, _, _, rfl, rfl, rfl, ⟨unmarked, rfl⟩, rfl⟩⟩

end Readers

end FeedOperator
