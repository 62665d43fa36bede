import FeedOperator.Proofs.Reconcile.Parting
import FeedOperator.Proofs.Visit
import FeedOperator.Proofs.Weather

/-!
# Finalization that is taken up again

A HotNews that is marked for deletion is taken from the owners of the Sources one by one, so its
pass may fail when some of them are done. The pass after it starts from there.

* `Store.Departing`: a HotNews that is stored, marked for deletion and held by the finalizer.
* `Store.Departed`: what its finalization leaves.
* `HotNews.Departure`: how a pass over it can end, whatever failures it meets at every call.

Results:
* `Course.departure`: a pass ends in one of these ways.
* `departs_of_calm`: where no failure is due it finalizes the HotNews.
* `Departed.sameButVersions`: finalization leaves the same in all stores that it leaves.
* `departs_or_resumes`: a pass that fails leaves a store from which a later pass comes to what the
  first one would have come to.
-/

namespace FeedOperator

namespace Store

/-- A HotNews that is stored, marked for deletion and held by the finalizer. -/
structure Departing (s : Store) (key : ObjectKey) (a : HotNews) : Prop where
  stored : s.hotNews.get? key = some a
  marked : a.metadata.isDeleted = true
  held : a.metadata.hasFinalizer HotNews.finalizer = true

/-- What finalization of a HotNews leaves: the Sources of its namespace without it among their
owners, and of the HotNews itself what has lost the finalizer, if anything holds it yet. -/
structure Departed (s : Store) (key : ObjectKey) (a : HotNews) (uid : String) (u : Store) :
    Prop where
  unlinked : ∀ k, k.ns = key.ns →
    u.sources.view k = (s.sources.view k).map (Source.withoutOwner · uid)
  elsewhere : ∀ k, k.ns ≠ key.ns → u.sources.view k = s.sources.view k
  released : u.hotNews.view key =
    if a.released.metadata.isReleased then none else some a.released.unversioned
  others : ∀ k, k ≠ key → u.hotNews.view k = s.hotNews.view k
  configMaps : u.configMaps = s.configMaps

variable {s t u v : Store} {key : ObjectKey} {a : HotNews} {uid : String} {Q : ObjectKey → Prop}

theorem Departing.congr (h : s.Departing key a) (same : u.hotNews = s.hotNews) :
    u.Departing key a :=
  ⟨same ▸ h.stored, h.marked, h.held⟩

/-- **What finalization leaves is the same, versions apart, whenever it leaves it.** -/
theorem Departed.sameButVersions (hu : s.Departed key a uid u) (hv : s.Departed key a uid v) :
    u.SameButVersions v := by
  refine ⟨fun k => ?_, fun k => ?_, hv.configMaps.trans hu.configMaps.symm⟩
  · by_cases hk : k.ns = key.ns
    · exact (hv.unlinked k hk).trans (hu.unlinked k hk).symm
    · exact (hv.elsewhere k hk).trans (hu.elsewhere k hk).symm
  · by_cases hk : k = key
    · subst hk
      exact hv.released.trans hu.released.symm
    · exact (hv.others k hk).trans (hu.others k hk).symm

/-- It makes no difference if some of the Sources lost the owner before. -/
theorem Parts.departed (parts : s.Parts uid Q t) (inside : ∀ k, Q k → k.ns = key.ns)
    (h : t.Departed key a uid u) : s.Departed key a uid u := by
  refine ⟨fun k hk => ?_, fun k hk => ?_, h.released, fun k hk => ?_,
    h.configMaps.trans parts.rest.configMaps⟩
  · rw [h.unlinked k hk]
    by_cases hQ : Q k
    · rw [parts.parted k hQ, Option.map_map]
      simp [Function.comp_def, Source.withoutOwner_withoutOwner]
    · rw [parts.elsewhere k hQ]
  · rw [h.elsewhere k hk, parts.elsewhere k (mt (inside k) hk)]
  · rw [h.others k hk, parts.rest.hotNews]

/-- Once all Sources lost the owner, the finalizer can be released. -/
theorem departed_of_release (hs : s.Sound) (departing : s.Departing key a)
    (parts : s.Parts uid (·.ns = key.ns) t) (same : t.SameObjects u) :
    (∃ written, (u.replaceHotNews a.released).1 = .ok written) ∧
      s.Departed key a uid (u.replaceHotNews a.released).2 := by
  have hkey : a.key = key := hs.hotNews_key departing.stored
  replace hkey : a.released.key = key := hkey
  have stored : u.hotNews.get? a.released.key = some a := by
    rw [same.hotNews, parts.rest.hotNews, hkey]
    exact departing.stored
  obtain ⟨written, hw, hr⟩ := Store.replaceHotNews_of_current stored rfl
  obtain ⟨version, rfl⟩ := hr.written_eq
  have hsources : (u.replaceHotNews a.released).2.sources = t.sources :=
    (sources_replaceHotNews u _).trans same.sources
  refine ⟨⟨_, hw⟩, fun k hk => ?_, fun k hk => ?_, ?_, fun k hk => ?_, ?_⟩
  · rw [hsources]
    exact parts.parted k hk
  · rw [hsources]
    exact parts.elsewhere k hk
  · unfold Catalog.view
    rw [hr.get?_eq, if_pos hkey.symm]
    split <;> rfl
  · unfold Catalog.view
    rw [hr.get?_eq, if_neg fun h => hk (h.trans hkey), same.hotNews, parts.rest.hotNews]
  · exact (configMaps_answer u (.replaceHotNews a.released)).trans
      (same.configMaps.trans parts.rest.configMaps)

namespace Departed

/-- No Source of the namespace is owned any more. -/
theorem free (h : s.Departed key a uid u) {k : ObjectKey} (hk : k.ns = key.ns) {b : Source}
    (hb : u.sources.get? k = some b) : b.isOwnedBy uid = false := by
  obtain ⟨c, -, heq⟩ := Catalog.before_of_view_eq (h.unlinked k hk) hb
  exact (congrArg (Source.isOwnedBy · uid) heq).trans (Source.isOwnedBy_withoutOwner _ uid)

/-- Every Source of the namespace is still there, with all its other owners in their order. -/
theorem kept (h : s.Departed key a uid u) {k : ObjectKey} (hk : k.ns = key.ns) {c : Source}
    (hc : s.sources.get? k = some c) : ∃ b, u.sources.get? k = some b ∧
      b.metadata.owners = c.metadata.owners.filter (·.uid != uid) := by
  obtain ⟨b, hb, heq⟩ := Catalog.after_of_view_eq (h.unlinked k hk) hc
  exact ⟨b, hb, (congrArg (·.metadata.owners) heq).trans (Source.owners_withoutOwner _ uid)⟩

/-- The HotNews is gone iff it had no other finalizer. -/
theorem gone_iff (h : s.Departed key a uid u) (marked : a.IsMarked) :
    u.hotNews.get? key = none ↔
      ∀ f ∈ a.metadata.finalizers.getD [], f = HotNews.finalizer := by
  rw [← Object.isReleased_releasedBy_iff marked, ← Option.map_eq_none_iff]
  change u.hotNews.view key = none ↔ _
  rw [h.released]
  simp

end Departed

end Store

namespace HotNews

open Store

/-- How a pass over a departing HotNews can end. -/
inductive Departure (key : ObjectKey) (a : HotNews) (uid : String) (s : Store) :
    Except HotNewsError Action → Store → Prop
  /-- It is finalized. -/
  | departed {u : Store} (h : s.Departed key a uid u) : Departure key a uid s (.ok .awaitChange) u
  /-- It does not say in which namespace its Sources are. -/
  | unplaced {u : Store} (nowhere : a.metadata.ns = none) (same : s.SameObjects u) :
    Departure key a uid s (.error (.missingField "metadata.namespace")) u
  /-- Unlinking is cut short. -/
  | stopped {e : StoreError} {Q : ObjectKey → Prop} {u : Store} (placed : a.metadata.ns ≠ none)
    (why : e.StopsUnlinking) (inside : ∀ k, Q k → k.ns = key.ns) (parts : s.Parts uid Q u) :
    Departure key a uid s (.error (.store e)) u

variable {w : Climate} {s t u : Store} {a : HotNews} {ns name uid now : String} {es : List Event}
variable {settings : Settings} {r : Except HotNewsError Action}

/-- Unlinking ends in one of its ways for a departing HotNews. -/
theorem unlinked_of_departing (hs : s.Sound) (stay : s.SourcesStay)
    (named : ∀ k b, s.sources.get? k = some b → b.metadata.name ≠ none)
    (departing : s.Departing ⟨ns, name⟩ a) (identified : a.metadata.uid = some uid)
    {ns' uid' : String} {r : Except StoreError Nat} (placed : a.metadata.ns = some ns')
    (identified' : a.metadata.uid = some uid')
    (unlinking : (unlinkSources ns' uid').run.LeadsIn w s es r t) :
    Unlinked ns uid (·.ns = ns) s r t := by
  obtain rfl := Option.some.inj (identified'.symm.trans identified)
  have hkey := congrArg ObjectKey.ns (hs.hotNews_key departing.stored)
  simp only [Object.key, ObjectKey.ofMeta, placed, Option.getD_some] at hkey
  subst hkey
  exact unlinkSources_unlinked hs stay named unlinking

/-- Once a departing HotNews was taken from all owners, its finalizer is released. -/
theorem departed_of_freed (hs : s.Sound) (stay : s.SourcesStay)
    (named : ∀ k b, s.sources.get? k = some b → b.metadata.name ≠ none)
    (departing : s.Departing ⟨ns, name⟩ a) (identified : a.metadata.uid = some uid) {ns' : String}
    (placed : a.metadata.ns = some ns') (frees : Freed w s a ns' es t) (writes : w.Meets t u) :
    (∃ written, (u.replaceHotNews a.released).1 = .ok written) ∧
      s.Departed ⟨ns, name⟩ a uid (u.replaceHotNews a.released).2 := by
  cases frees with
  | unidentified nobody => cases nobody.symm.trans identified
  | unlinked identified' unlinking =>
    cases unlinked_of_departing hs stay named departing identified placed identified' unlinking with
    | whole parts => exact departed_of_release hs departing parts (w.sameObjects writes)

theorem Finalized.departure (hs : s.Sound) (stay : s.SourcesStay)
    (named : ∀ k b, s.sources.get? k = some b → b.metadata.name ≠ none)
    (departing : s.Departing ⟨ns, name⟩ a) (identified : a.metadata.uid = some uid)
    (h : Finalized w s a es r u) : Departure ⟨ns, name⟩ a uid s r u := by
  cases h with
  | unheld free => cases free.symm.trans departing.held
  | unplaced _ nowhere => exact .unplaced nowhere ⟨rfl, rfl, rfl⟩
  | stuck _ placed identified' unlinking =>
    cases unlinked_of_departing hs stay named departing identified placed identified' unlinking with
    | broken why inside parts => exact .stopped (by simp [placed]) why inside parts
  | released _ placed frees writes =>
    obtain ⟨⟨_, hok⟩, departed⟩ :=
      departed_of_freed hs stay named departing identified placed frees writes
    rw [hok]
    exact .departed departed

/-- **A pass over a departing HotNews finalizes it, or it leaves some of the Sources unlinked**,
whatever failures it meets at every call. -/
theorem Course.departure (hs : s.Sound) (stay : s.SourcesStay)
    (named : ∀ k b, s.sources.get? k = some b → b.metadata.name ≠ none)
    (departing : s.Departing ⟨ns, name⟩ a) (identified : a.metadata.uid = some uid)
    (h : Course w settings now ns name s es r u) : Departure ⟨ns, name⟩ a uid s r u := by
  have known : ∀ {b : HotNews}, s.hotNews.get? ⟨ns, name⟩ = some b → b = a :=
    fun hb => Option.some.inj (hb.symm.trans departing.stored)
  cases h with
  | absent _ gone => cases gone.symm.trans departing.stored
  | unheld _ stored live | refreshed _ stored live =>
    obtain rfl := known stored
    cases live.symm.trans departing.marked
  | finalized meets stored _ ends =>
    obtain rfl := known stored
    have same := w.sameObjects meets
    cases ends.departure (w.sound meets hs) (stay.of_sameObjects same) (same.sources.symm ▸ named)
        (departing.congr same.hotNews) identified with
    | departed h =>
      exact .departed ((Store.Parts.of_sameObjects same).departed (fun _ h => h.elim) h)
    | unplaced nowhere same' => exact .unplaced nowhere (same.trans same')
    | stopped placed why inside parts =>
      exact .stopped placed why (fun k hk => inside k (hk.resolve_left id))
        ((Store.Parts.of_sameObjects same).trans parts)

/-- **Where no failure is due, a pass finalizes the HotNews.** -/
theorem departs_of_calm (hs : s.Sound) (stay : s.SourcesStay)
    (named : ∀ k b, s.sources.get? k = some b → b.metadata.name ≠ none)
    (lists : s.failLists = false) (calm : s.sourceConflicts = 0)
    (departing : s.Departing ⟨ns, name⟩ a) (identified : a.metadata.uid = some uid)
    (placed : a.metadata.ns ≠ none) (h : Course .settled settings now ns name s es r u) :
    r = .ok .awaitChange ∧ s.Departed ⟨ns, name⟩ a uid u := by
  have known : ∀ {b : HotNews}, s.hotNews.get? ⟨ns, name⟩ = some b → b = a :=
    fun hb => Option.some.inj (hb.symm.trans departing.stored)
  cases h with
  | absent _ gone => cases gone.symm.trans departing.stored
  | unheld _ stored live | refreshed _ stored live =>
    obtain rfl := known stored
    cases live.symm.trans departing.marked
  | finalized meets stored _ ends =>
    obtain rfl := known stored
    obtain rfl := Climate.settled_eq meets
    cases ends with
    | unheld free => cases free.symm.trans departing.held
    | unplaced _ nowhere => exact absurd nowhere placed
    | stuck _ _ _ unlinking =>
      rcases (unlinkSources_failure hs unlinking).1 with failing | due
      · cases failing.symm.trans lists
      · exact absurd calm due
    | released _ placed frees writes =>
      obtain ⟨⟨_, hok⟩, departed⟩ :=
        departed_of_freed hs stay named departing identified placed frees writes
      exact ⟨by rw [hok]; rfl, departed⟩

end HotNews

/-! ## Visits -/

namespace Store

/-- The store with no failure due. -/
def calmed (s : Store) : Store :=
  s.withFaults 0 false false

theorem sameObjects_calmed (s : Store) : s.SameObjects s.calmed :=
  ⟨rfl, rfl, rfl⟩

end Store

namespace Visit

variable {visit later : Visit} {now : String} {s u : Store} {settings : Settings} {key : ObjectKey}
variable {a : HotNews} {uid : String} {es : List Event} {r : Except PassError Action}

/-- A visit without failures to a departing HotNews finalizes it. -/
theorem departs (f : Service) (now : String) (hs : s.Sound) (stay : s.SourcesStay)
    (named : ∀ k b, s.sources.get? k = some b → b.metadata.name ≠ none)
    (departing : s.Departing key a) (identified : a.metadata.uid = some uid)
    (placed : a.metadata.ns ≠ none) (about : visit.subject? = some (.hotNews settings key)) :
    (visit.run f now s.calmed).1 = .ok .awaitChange ∧
      s.Departed key a uid (visit.run f now s.calmed).2 := by
  have same := s.sameObjects_calmed
  have course := course_of_leads about (visit.leads_run f now s.calmed)
  generalize (visit.run f now s.calmed).1 = r at course ⊢
  cases course with
  | hotNews course =>
    obtain ⟨rfl, departed⟩ := HotNews.departs_of_calm
      (Store.sound_after hs (.faults 0 false false)) (stay.of_sameObjects same) named rfl rfl
      (departing.congr rfl) identified placed course
    exact ⟨rfl, (Store.Parts.of_sameObjects same).departed (fun _ h => h.elim) departed⟩

/-- **Finalization is complete or can be taken up again.** If a visit to a departing HotNews goes
well, whatever failures it met, no Source of the namespace has it as an owner any more, all other
owners are there in their order, and the HotNews is gone iff it had no other finalizer. If it fails,
for want of a list or by conflicts at any of the Sources, the HotNews stands as it was; and a later
visit that meets no failure goes well and leaves what one to the original store would have left. -/
theorem departs_or_resumes (built : s.Built) (stay : s.SourcesStay)
    (named : ∀ k b, s.sources.get? k = some b → b.metadata.name ≠ none)
    (departing : s.Departing key a) (identified : a.metadata.uid = some uid)
    (about : visit.subject? = some (.hotNews settings key))
    (h : (visit.pass now).Weathers s es r u) :
    (∀ action, r = .ok action →
      (∀ k b, k.ns = key.ns → u.sources.get? k = some b → b.isOwnedBy uid = false) ∧
      (∀ k c, k.ns = key.ns → s.sources.get? k = some c → ∃ b, u.sources.get? k = some b ∧
        b.metadata.owners = c.metadata.owners.filter (·.uid != uid)) ∧
      (u.hotNews.get? key = none ↔
        ∀ f ∈ a.metadata.finalizers.getD [], f = HotNews.finalizer)) ∧
    ∀ e, r = .error e → u.Departing key a ∧
      (e = .hotNews (.missingField "metadata.namespace") ∧ a.metadata.ns = none ∨
        (∃ cause, e = .hotNews (.store cause) ∧ cause.StopsUnlinking) ∧
          ∀ (later : Visit) (settings' : Settings) (f g : Service) (now' now'' : String),
            later.subject? = some (.hotNews settings' key) →
            (later.run f now' u.calmed).1 = .ok .awaitChange ∧
              (visit.run g now'' s.calmed).2.SameButVersions (later.run f now' u.calmed).2) := by
  have hs := built.sound
  cases course_of_leads about h with
  | hotNews course =>
    cases course.departure hs stay named departing identified with
    | departed departed =>
      refine ⟨fun _ _ => ⟨fun k b hk => departed.free hk, fun k c hk => departed.kept hk,
        departed.gone_iff departing.marked⟩, fun _ h => by cases h⟩
    | unplaced nowhere same =>
      refine ⟨(fun _ h => by cases h), fun e he => ⟨departing.congr same.hotNews, .inl ?_⟩⟩
      cases he
      exact ⟨rfl, nowhere⟩
    | stopped placed why inside parts =>
      refine ⟨(fun _ h => by cases h), fun e he => ⟨departing.congr parts.rest.hotNews, .inr ?_⟩⟩
      cases he
      refine ⟨⟨_, rfl, why⟩, fun later settings' f g now' now'' about' => ?_⟩
      have clean := departs g now'' hs stay named departing identified placed about
      have resumed := departs f now' (h.sound hs) (parts.stay stay) (parts.named named)
        (departing.congr parts.rest.hotNews) identified placed about'
      exact ⟨resumed.1, clean.2.sameButVersions (parts.departed inside resumed.2)⟩

end Visit

/-! ## A visit that is cut short -/

/-- Two Sources with a HotNews among their owners, which is marked for deletion. -/
def closing : Store :=
  let owner := fun name : String => ({
    apiVersion := "v1", kind := "Owner", name := name, uid := "uid-" ++ name } : OwnerReference)
  let source := fun (name : String) (owners : List OwnerReference) => ({
    metadata := { name := some name, ns := some "news", ownerReferences := some owners }
    spec := { shortName := name } } : Source)
  let world : HotNews := {
    metadata := { name := some "world", ns := some "news", finalizers := some [HotNews.finalizer] }
    spec := { sources := ["bbc", "cnn"] } }
  ((((Store.insert {} (.source (source "bbc" [owner "world", owner "other"]))).insert
    (.source (source "cnn" [owner "world"]))).insert (.hotNews world)).deleteHotNews
      ⟨"news", "world"⟩)

theorem built_closing : closing.Built := by
  unfold closing
  exact (((Store.Built.empty.insert _).insert _).insert _).after (.deleteHotNews _)

/-- A visit that unlinks the first of the Sources and fails at the second one. -/
def interrupted : Except PassError Action × Store :=
  (worldVisit.pass "now").runIn unreachable (.worsening 4) closing

/-- The owners of a Source. -/
def ownersOf (s : Store) (name : String) : Option (List String) :=
  (s.sources.get? ⟨"news", name⟩).map (·.metadata.owners.map (·.uid))

/-- The next visit unlinks the other one as well, and leaves what one visit would have left. -/
theorem interrupted_resumes :
    interrupted.1 = .error (.hotNews (.store (.conflict "cnn"))) ∧
    ownersOf interrupted.2 "bbc" = some ["uid-other"] ∧
    ownersOf interrupted.2 "cnn" = some ["uid-world"] ∧
    (worldVisit.run unreachable "later" interrupted.2.calmed).1 = .ok .awaitChange ∧
    (worldVisit.run unreachable "now" closing.calmed).2.SameButVersions
      (worldVisit.run unreachable "later" interrupted.2.calmed).2 := by
  have failed : interrupted.1 = .error (.hotNews (.store (.conflict "cnn"))) := by decide +kernel
  have stay : closing.NoneLeaving := .of_entries (by decide +kernel) (by decide +kernel)
  have names : ∀ e ∈ closing.sources.entries, e.2.metadata.name ≠ none := by decide +kernel
  have departing : closing.Departing ⟨"news", "world"⟩ _ := ⟨rfl, rfl, by decide +kernel⟩
  have about : worldVisit.subject? = some (.hotNews {} ⟨"news", "world"⟩) := rfl
  have run := Pass.weathers_runIn unreachable (worldVisit.pass "now") (.worsening 4) closing
  obtain ⟨-, h⟩ := Visit.departs_or_resumes built_closing stay.sources
    (fun _ _ hb => names _ (Catalog.mem_of_lookup hb)) departing rfl about run
  obtain ⟨-, ⟨h, -⟩ | ⟨-, resumes⟩⟩ := h _ failed
  · cases h
  · obtain ⟨ok, same⟩ := resumes worldVisit {} unreachable unreachable "later" "now" about
    exact ⟨failed, by decide +kernel, by decide +kernel, ok, same⟩

end FeedOperator
