import FeedOperator.Proofs.Store.Change
import FeedOperator.Reconcile.Source

/-!
# What a pass over a Source does

* `Source.withCondition`, `Source.registered`, `Source.updated`: what is written to the status.
* `Source.released`: what is written to release the finalizer.
* `Source.Held`: how the finalizer is made sure of.
* `Source.Course`: all that a pass can do, with its calls, its result and the store after it.

* `Source.Tended`: a store in which nothing changed but what a pass may change of its Source.

Results:
* `register_leads`, `pushUpdate_leads`, `finalize_leads`, `ensureFinalizer_leads`: the parts.
* `course_of_leads`, `reconcile_leads`: a pass takes one of the courses, unless the given object
  does not say where it is stored.
* `Course.tended`: a pass changes finalizers, status and version of its Source, and nothing else.
-/

namespace FeedOperator

namespace Source

/-! ## What is written -/

/-- The Source with a condition put on its status. -/
def withCondition (source : Source) (condition : Condition) : Source :=
  let status := source.statusOrEmpty
  { source with status := some { status with conditions := condition.put status.conditions } }

/-- The Source after the service answered a request to register it. -/
def registered (now : String) (source : Source) (kind : Condition.Kind) :
    Except ServiceError Int64 → Source
  | .ok id =>
    withCondition { source with status := some { source.statusOrEmpty with id := id } }
      (.make kind true now Condition.Reason.successfulCreation.text
        ("Source registered with id " ++ String.ofList (Text.signedDecimal id.toInt)))
  | .error e =>
    source.withCondition (.make kind false now Condition.Reason.failedCreation.text e.message)

/-- The Source after the service answered a request to update it. -/
def updated (now : String) (source : Source) (kind : Condition.Kind) :
    Except ServiceError Unit → Source
  | .ok () =>
    source.withCondition (.make kind true now Condition.Reason.successfulUpdate.text
      "Source synced to aggregation service")
  | .error e =>
    source.withCondition (.make kind false now Condition.Reason.failedUpdate.text e.message)

/-- The Source without its finalizer. -/
abbrev released (source : Source) : Source :=
  source.releasedBy finalizer

/-- The Source with its finalizer. -/
abbrev held (source : Source) : Source :=
  source.heldBy finalizer

/-- What comes of a request and of the write that reports its answer: an error of the write takes
the place of that of the request. -/
def outcome {α : Type} (answer : Except ServiceError α) (write : Except StoreError Source) :
    Except SourceError Unit :=
  match write, answer with
  | .error e, _ => .error (.store e)
  | .ok _, .error e => .error (.service e)
  | .ok _, .ok _ => .ok ()

@[simp] theorem metadata_registered (now : String) (source : Source) (kind : Condition.Kind)
    (answer : Except ServiceError Int64) :
    (source.registered now kind answer).metadata = source.metadata := by
  cases answer <;> rfl

theorem key_registered (now : String) (source : Source) (kind : Condition.Kind)
    (answer : Except ServiceError Int64) :
    (source.registered now kind answer).key = source.key := by
  cases answer <;> rfl

theorem key_updated (now : String) (source : Source) (kind : Condition.Kind)
    (answer : Except ServiceError Unit) : (source.updated now kind answer).key = source.key := by
  cases answer <;> rfl

@[simp] theorem metadata_updated (now : String) (source : Source) (kind : Condition.Kind)
    (answer : Except ServiceError Unit) :
    (source.updated now kind answer).metadata = source.metadata := by
  cases answer <;> rfl

@[simp] theorem externalId_updated (now : String) (source : Source) (kind : Condition.Kind)
    (answer : Except ServiceError Unit) :
    (source.updated now kind answer).externalId = source.externalId := by
  cases answer <;> rfl

/-! ## The parts of a pass -/

variable {w : Climate} {s u : Store} {es : List Event} {source : Source} {now : String}
variable {kind : Condition.Kind}

theorem writeCondition_leads {α : Type} (a : α) {condition : Condition}
    {r : Except SourceError Unit} (h : (writeCondition source condition).run.LeadsIn w s es r u) :
    ∃ t, w.Meets s t ∧ es = [.ofStore (.replaceSourceStatus (source.withCondition condition))
        (t.replaceSourceStatus (source.withCondition condition)).1] ∧
      r = outcome (.ok a) (t.replaceSourceStatus (source.withCondition condition)).1 ∧
      (t.replaceSourceStatus (source.withCondition condition)).2 = u := by
  obtain ⟨_, hwrite, rfl⟩ := Attempt.leads_thenReturn_iff.mp h
  obtain ⟨t, meets, rfl, rfl, rfl⟩ := Attempt.leads_store_iff.mp hwrite
  refine ⟨t, meets, rfl, ?_, rfl⟩
  change Except.map _ (Except.mapError _
    (t.replaceSourceStatus (source.withCondition condition)).1) = _
  cases (t.replaceSourceStatus (source.withCondition condition)).1 <;> rfl

/-- The report of a failed request: a write of the status, and then the error. -/
theorem reportFailure_leads (α : Type) {e : ServiceError} {condition : Condition}
    {r : Except SourceError Unit}
    (h : (writeCondition source condition >>= fun _ =>
      throw (.service e)).run.LeadsIn w s es r u) :
    ∃ t, w.Meets s t ∧ es = [.ofStore (.replaceSourceStatus (source.withCondition condition))
        (t.replaceSourceStatus (source.withCondition condition)).1] ∧
      r = outcome (α := α) (.error e)
        (t.replaceSourceStatus (source.withCondition condition)).1 ∧
      (t.replaceSourceStatus (source.withCondition condition)).2 = u := by
  rcases Attempt.leads_bind_iff.mp h with ⟨e', hwrite, rfl⟩ | ⟨_, _, _, _, hwrite, hthrow, rfl⟩
  · obtain ⟨t, meets, rfl, hr, rfl⟩ := writeCondition_leads () hwrite
    refine ⟨t, meets, rfl, ?_, rfl⟩
    rw [hr]
    cases hw : (t.replaceSourceStatus (source.withCondition condition)).1 with
    | error _ => rfl
    | ok _ => rw [hw] at hr; cases hr
  · obtain ⟨t, meets, rfl, hr, rfl⟩ := writeCondition_leads () hwrite
    obtain ⟨rfl, rfl, rfl⟩ := Attempt.leads_throw_iff.mp hthrow
    refine ⟨t, meets, rfl, ?_, rfl⟩
    cases hw : (t.replaceSourceStatus (source.withCondition condition)).1 with
    | error _ => rw [hw] at hr; cases hr
    | ok _ => rfl

theorem register_leads {r : Except SourceError Unit}
    (h : (register now source kind).run.LeadsIn w s es r u) :
    ∃ (answer : Except ServiceError Int64) (t : Store), w.Meets s t ∧
      es = [.ofService (.create source.spec) answer,
        .ofStore (.replaceSourceStatus (source.registered now kind answer))
          (t.replaceSourceStatus (source.registered now kind answer)).1] ∧
      r = outcome answer (t.replaceSourceStatus (source.registered now kind answer)).1 ∧
      (t.replaceSourceStatus (source.registered now kind answer)).2 = u := by
  unfold register at h
  obtain ⟨answer, _, _, back, hcreate, hreport, rfl⟩ := Attempt.leads_catch_iff.mp h
  obtain ⟨rfl, rfl⟩ := Pass.leads_service_iff.mp hcreate
  refine ⟨answer, ?_⟩
  cases answer with
  | ok id =>
    obtain ⟨t, meets, rfl, rfl, rfl⟩ := writeCondition_leads id hreport
    exact ⟨t, meets, rfl, rfl, rfl⟩
  | error e =>
    obtain ⟨t, meets, rfl, rfl, rfl⟩ := reportFailure_leads Int64 hreport
    exact ⟨t, meets, rfl, rfl, rfl⟩

theorem pushUpdate_leads {id : Int64} {r : Except SourceError Unit}
    (h : (pushUpdate now source id kind).run.LeadsIn w s es r u) :
    ∃ (answer : Except ServiceError Unit) (t : Store), w.Meets s t ∧
      es = [.ofService (.update id { source.spec with id := id }) answer,
        .ofStore (.replaceSourceStatus (source.updated now kind answer))
          (t.replaceSourceStatus (source.updated now kind answer)).1] ∧
      r = outcome answer (t.replaceSourceStatus (source.updated now kind answer)).1 ∧
      (t.replaceSourceStatus (source.updated now kind answer)).2 = u := by
  unfold pushUpdate at h
  obtain ⟨answer, _, _, back, hupdate, hreport, rfl⟩ := Attempt.leads_catch_iff.mp h
  obtain ⟨rfl, rfl⟩ := Pass.leads_service_iff.mp hupdate
  refine ⟨answer, ?_⟩
  cases answer with
  | ok =>
    obtain ⟨t, meets, rfl, rfl, rfl⟩ := writeCondition_leads () hreport
    exact ⟨t, meets, rfl, rfl, rfl⟩
  | error e =>
    obtain ⟨t, meets, rfl, rfl, rfl⟩ := reportFailure_leads Unit hreport
    exact ⟨t, meets, rfl, rfl, rfl⟩

/-- How the finalizer is made sure of: it is there, or it is written, which may fail. -/
inductive Held (w : Climate) (s : Store) (source : Source) :
    List Event → Except SourceError Source → Store → Prop
  | already (h : source.metadata.hasFinalizer finalizer = true) : Held w s source [] (.ok source) s
  | written {t : Store} (meets : w.Meets s t)
    (h : source.metadata.hasFinalizer finalizer = false) :
    Held w s source [.ofStore (.replaceSource source.held) (t.replaceSource source.held).1]
      ((t.replaceSource source.held).1.mapError .store) (t.replaceSource source.held).2

theorem ensureFinalizer_leads {r : Except SourceError Source}
    (h : (ensureFinalizer source).run.LeadsIn w s es r u) : Held w s source es r u := by
  unfold ensureFinalizer at h
  cases hf : source.metadata.hasFinalizer finalizer with
  | true =>
    rw [Object.addFinalizer_of_hasFinalizer hf] at h
    obtain ⟨rfl, rfl, rfl⟩ := Attempt.leads_pure_iff.mp h
    exact .already hf
  | false =>
    rw [Object.addFinalizer_of_not_hasFinalizer hf] at h
    obtain ⟨t, meets, rfl, rfl, rfl⟩ := Attempt.leads_store_iff.mp h
    exact .written meets hf

/-- How a Source that is marked for deletion is finalized: it does not have the finalizer, or its
record cannot be deleted, or the record is gone and the finalizer is released. -/
inductive Finalized (w : Climate) (s : Store) (source : Source) :
    List Event → Except SourceError Action → Store → Prop
  | unheld (h : source.metadata.hasFinalizer finalizer = false) :
    Finalized w s source [] (.ok .awaitChange) s
  | undeleted (h : source.metadata.hasFinalizer finalizer = true)
    (registered : source.externalId ≠ 0) (e : ServiceError) :
    Finalized w s source [.ofService (.delete source.externalId) (.error e)] (.error (.service e)) s
  | released {t : Store} (meets : w.Meets s t)
    (h : source.metadata.hasFinalizer finalizer = true) :
    Finalized w s source
      ((if source.externalId = 0 then [] else [.ofService (.delete source.externalId) (.ok ())]) ++
        [.ofStore (.replaceSource source.released) (t.replaceSource source.released).1])
      (((t.replaceSource source.released).1.mapError .store).map fun _ => .awaitChange)
      (t.replaceSource source.released).2

theorem finalize_leads {r : Except SourceError Action}
    (h : (finalize source).run.LeadsIn w s es r u) : Finalized w s source es r u := by
  unfold finalize at h
  cases hf : source.metadata.hasFinalizer finalizer with
  | false =>
    rw [if_pos (by simp [hf])] at h
    obtain ⟨rfl, rfl, rfl⟩ := Attempt.leads_pure_iff.mp h
    exact .unheld hf
  | true =>
    rw [if_neg (by simp [hf])] at h
    by_cases hid : source.externalId = 0
    · simp only [hid, ne_eq, not_true_eq_false, if_false] at h
      obtain ⟨_, hwrite, rfl⟩ := Attempt.leads_thenReturn_iff.mp h
      obtain ⟨t, meets, rfl, rfl, rfl⟩ := Attempt.leads_store_iff.mp hwrite
      have := Finalized.released meets hf
      rw [if_pos hid] at this
      exact this
    · simp only [hid, ne_eq, not_false_eq_true, if_true] at h
      obtain ⟨answer, _, _, back, hdelete, hback, rfl⟩ := Attempt.leads_catch_iff.mp h
      obtain ⟨rfl, rfl⟩ := Pass.leads_service_iff.mp hdelete
      cases answer with
      | error e =>
        obtain ⟨rfl, rfl, rfl⟩ := Attempt.leads_throw_iff.mp hback
        exact .undeleted hf hid e
      | ok =>
        obtain ⟨_, hwrite, rfl⟩ := Attempt.leads_thenReturn_iff.mp hback
        obtain ⟨t, meets, rfl, rfl, rfl⟩ := Attempt.leads_store_iff.mp hwrite
        have := Finalized.released meets hf
        rw [if_neg hid] at this
        exact this

/-! ## A whole pass -/

/-- The fresh read with which a pass starts. -/
def firstRead (s : Store) (ns name : String) : Event :=
  .ofStore (.getSource ns name) (.ok (s.sources.get? ⟨ns, name⟩))

/-- The kind of the condition that a pass over a Source leaves. -/
def nextKind (source : Source) : Condition.Kind :=
  .next source.statusOrEmpty.conditions

/-- All that a pass over the Source under a key can do. -/
inductive Course (w : Climate) (now ns name : String) (s : Store) :
    List Event → Except SourceError Action → Store → Prop
  | absent {t : Store} (meets : w.Meets s t) (gone : s.sources.get? ⟨ns, name⟩ = none) :
    Course w now ns name s [firstRead s ns name] (.ok .awaitChange) t
  | finalized {source : Source} {es : List Event} {r : Except SourceError Action} {t u : Store}
    (meets : w.Meets s t) (stored : s.sources.get? ⟨ns, name⟩ = some source)
    (deleted : source.metadata.isDeleted = true) (ends : Finalized w t source es r u) :
    Course w now ns name s (firstRead s ns name :: es) r u
  | unheld {source : Source} {es : List Event} {e : SourceError} {t u : Store}
    (meets : w.Meets s t) (stored : s.sources.get? ⟨ns, name⟩ = some source)
    (live : source.metadata.isDeleted = false) (holds : Held w t source es (.error e) u) :
    Course w now ns name s (firstRead s ns name :: es) (.error e) u
  | registered {source mine : Source} {es : List Event} {t v x : Store}
    (answer : Except ServiceError Int64) (meets : w.Meets s t)
    (stored : s.sources.get? ⟨ns, name⟩ = some source) (live : source.metadata.isDeleted = false)
    (holds : Held w t source es (.ok mine) v) (fresh : mine.externalId = 0)
    (writes : w.Meets v x) :
    Course w now ns name s
      (firstRead s ns name :: (es ++ [.ofService (.create mine.spec) answer,
        .ofStore (.replaceSourceStatus (mine.registered now mine.nextKind answer))
          (x.replaceSourceStatus (mine.registered now mine.nextKind answer)).1]))
      ((outcome answer (x.replaceSourceStatus (mine.registered now mine.nextKind answer)).1).map
        fun _ => .awaitChange)
      (x.replaceSourceStatus (mine.registered now mine.nextKind answer)).2
  | updated {source mine : Source} {es : List Event} {t v x : Store}
    (answer : Except ServiceError Unit) (meets : w.Meets s t)
    (stored : s.sources.get? ⟨ns, name⟩ = some source) (live : source.metadata.isDeleted = false)
    (holds : Held w t source es (.ok mine) v) (known : mine.externalId ≠ 0)
    (writes : w.Meets v x) :
    Course w now ns name s
      (firstRead s ns name ::
        (es ++ [
          .ofService (.update mine.externalId { mine.spec with id := mine.externalId }) answer,
          .ofStore (.replaceSourceStatus (mine.updated now mine.nextKind answer))
            (x.replaceSourceStatus (mine.updated now mine.nextKind answer)).1]))
      ((outcome answer (x.replaceSourceStatus (mine.updated now mine.nextKind answer)).1).map
        fun _ => .awaitChange)
      (x.replaceSourceStatus (mine.updated now mine.nextKind answer)).2

/-- **A pass takes one of the courses.** -/
theorem course_of_leads {ns name : String} {given : Source} {r : Except SourceError Action}
    (hns : given.metadata.ns = some ns) (hname : given.metadata.name = some name)
    (h : (reconcile now given).pass.LeadsIn w s es r u) : Course w now ns name s es r u := by
  unfold reconcile at h
  rw [hname, hns] at h
  dsimp only at h
  rcases Tracking.leads_bind_iff.mp h with
    ⟨e, hread, -⟩ | ⟨found, _, front, back, hread, hback, rfl⟩
  · obtain ⟨_, -, -, he, -⟩ := Attempt.leads_store_iff.mp hread
    cases he
  · obtain ⟨t, meets, rfl, hfound, rfl⟩ := Attempt.leads_store_iff.mp hread
    obtain rfl := Except.ok.inj hfound
    have same := w.sameObjects meets
    have hfirst : .ofStore (.getSource ns name) (t.answer (.getSource ns name)).1 =
        firstRead s ns name := by
      simp only [Store.answer, firstRead, same.sources]
    rw [hfirst]
    simp only [Store.answer, same.sources] at hback
    cases hg : s.sources.get? ⟨ns, name⟩ with
    | none =>
      rw [hg] at hback
      obtain ⟨rfl, rfl, rfl⟩ := Tracking.leads_forget_iff.mp hback
      exact .absent meets hg
    | some source =>
      rw [hg] at hback
      dsimp only at hback
      cases hd : source.metadata.isDeleted with
      | true =>
        rw [if_pos hd] at hback
        obtain ⟨r', hends, rfl⟩ := Tracking.leads_bind_forget_iff.mp hback
        rw [show r'.map (fun a => a) = r' from congrFun Except.map_id r']
        exact .finalized meets hg hd (finalize_leads hends)
      | false =>
        rw [if_neg (by simp [hd])] at hback
        rcases Tracking.leads_bind_iff.mp hback with
          ⟨e, hhold, rfl⟩ | ⟨mine, v, holds, rest, hhold, hrest, rfl⟩
        · exact .unheld meets hg hd (ensureFinalizer_leads hhold)
        · have holds := ensureFinalizer_leads hhold
          split at hrest
          · next hfresh =>
            obtain ⟨_, hreg, rfl⟩ := Tracking.leads_bind_forget_iff.mp hrest
            obtain ⟨answer, x, writes, rfl, rfl, rfl⟩ := register_leads hreg
            exact .registered answer meets hg hd holds hfresh writes
          · next hknown =>
            obtain ⟨_, hpush, rfl⟩ := Tracking.leads_bind_forget_iff.mp hrest
            obtain ⟨answer, x, writes, rfl, rfl, rfl⟩ := pushUpdate_leads hpush
            exact .updated answer meets hg hd holds hknown writes

/-- A pass takes one of the courses, or fails at once if the given object does not say where it is
stored. -/
theorem reconcile_leads {given : Source} {r : Except SourceError Action}
    (h : (reconcile now given).pass.LeadsIn w s es r u) :
    (∃ field, es = [] ∧ r = .error (.missingField field) ∧ s = u) ∨
      ∃ ns name, given.metadata.ns = some ns ∧ given.metadata.name = some name ∧
        Course w now ns name s es r u := by
  cases hname : given.metadata.name with
  | none =>
    unfold reconcile at h
    rw [hname] at h
    obtain ⟨rfl, rfl, rfl⟩ := Tracking.leads_throw_iff.mp h
    exact .inl ⟨_, rfl, rfl, rfl⟩
  | some name =>
    cases hns : given.metadata.ns with
    | none =>
      unfold reconcile at h
      rw [hname, hns] at h
      obtain ⟨rfl, rfl, rfl⟩ := Tracking.leads_throw_iff.mp h
      exact .inl ⟨_, rfl, rfl, rfl⟩
    | some ns => exact .inr ⟨ns, name, rfl, rfl, course_of_leads hns hname h⟩

/-! ## What a pass leaves -/

section Leaves

variable {ns name : String} {mine : Source} {t : Store}

/-- What holds once the finalizer was made sure of: the Source is stored with it. -/
structure Holding (s : Store) (source mine : Source) (t : Store) : Prop extends
    s.sources.Holds finalizer source mine t.sources where
  rest : s.SameButSources t

theorem Held.holding (h : Held w s source es (.ok mine) t)
    (stored : s.sources.get? source.key = some source)
    (live : source.metadata.isDeleted = false) : Holding s source mine t := by
  generalize hr : (Except.ok mine : Except SourceError Source) = r at h
  cases h with
  | already hf =>
    cases hr
    exact ⟨⟨fun _ _ => rfl, stored, ⟨_, source.metadata.resourceVersion, rfl⟩, hf⟩, rfl, rfl⟩
  | @written t meets hf =>
    have same := w.sameObjects meets
    rcases t.replaceSource_cases source.held with ⟨e, he, _⟩ | ⟨old, written, hw, hreplaced, rest⟩
    · rw [he] at hr
      cases hr
    · rw [hw] at hr
      cases hr
      rw [same.sources] at hreplaced
      exact ⟨hreplaced.holds stored live, same.thenSources rest⟩

/-- The next call finds the Source held too. -/
theorem Holding.meets {v x : Store} (h : Holding s source mine v) (meets : w.Meets v x) :
    Holding s source mine x := by
  have same := w.sameObjects meets
  refine ⟨?_, h.rest.thenObjects same⟩
  rw [same.sources]
  exact h.toHolds

/-- A write of the status by one who knows the stored Source. -/
theorem writeStatus_cases {new : Source} (stored : t.sources.get? mine.key = some mine)
    (known : new.metadata = mine.metadata) :
    (∃ e, (t.replaceSourceStatus new).1 = .error e ∧
      t.SameObjects (t.replaceSourceStatus new).2) ∨
    ∃ version, (t.replaceSourceStatus new).1 = .ok (mine.withStatusOf new version) ∧
      t.SameButSources (t.replaceSourceStatus new).2 ∧
      ∀ k, (t.replaceSourceStatus new).2.sources.get? k =
        if k = mine.key then some (mine.withStatusOf new version) else t.sources.get? k := by
  have hkey : new.key = mine.key := congrArg ObjectKey.ofMeta known
  rcases t.replaceSourceStatus_cases new with ⟨e, he, hsame⟩ | ⟨old, written, hw, hreplaced, rest⟩
  · exact .inl ⟨e, he, hsame⟩
  · obtain ⟨version, rfl⟩ := hreplaced.written_eq
    obtain rfl := hreplaced.stored_eq (hkey ▸ stored)
    exact .inr ⟨version, hw, rest, hkey ▸ hreplaced.get?_eq⟩

/-- Such a write goes through, if writes of a status do not fail. -/
theorem writeStatus_of_calm {new : Source} (stored : t.sources.get? mine.key = some mine)
    (known : new.metadata = mine.metadata) (calm : t.failStatusWrites = false) :
    ∃ version, (t.replaceSourceStatus new).1 = .ok (mine.withStatusOf new version) ∧
      (t.replaceSourceStatus new).2.sources.get? mine.key =
        some (mine.withStatusOf new version) := by
  have hkey : new.key = mine.key := congrArg ObjectKey.ofMeta known
  obtain ⟨written, hok, hreplaced⟩ := Store.replaceSourceStatus_of_current calm (hkey ▸ stored)
    (congrArg Meta.resourceVersion known).symm
  have hu := hreplaced.get?_self
  obtain ⟨version, rfl⟩ := hreplaced.written_eq
  exact ⟨version, hok, hkey ▸ hu⟩

/-- A replace that releases the finalizer, by one who knows the stored Source. -/
theorem release_cases (stored : t.sources.get? mine.key = some mine) :
    (∃ e, (t.replaceSource mine.released).1 = .error e ∧
      t.SameObjects (t.replaceSource mine.released).2) ∨
    ∃ version, (t.replaceSource mine.released).1 = .ok (mine.released.inPlaceOf mine version) ∧
      t.SameButSources (t.replaceSource mine.released).2 ∧
      ∀ k, (t.replaceSource mine.released).2.sources.get? k =
        if k = mine.key then
          if mine.released.metadata.isReleased then none
          else some (mine.released.inPlaceOf mine version)
        else t.sources.get? k := by
  have hkey : mine.released.key = mine.key := rfl
  rcases t.replaceSource_cases mine.released with
    ⟨e, he, hsame⟩ | ⟨old, written, hw, hreplaced, rest⟩
  · exact .inl ⟨e, he, hsame⟩
  · obtain ⟨version, hwritten⟩ := hreplaced.written_eq
    rw [hreplaced.stored_eq (hkey ▸ stored)] at hwritten
    subst hwritten
    exact .inr ⟨version, hw, rest, hreplaced.get?_eq⟩

theorem Held.failStatusWrites_eq {r : Except SourceError Source}
    (h : Held .settled s source es r u) : u.failStatusWrites = s.failStatusWrites := by
  cases h with
  | already => rfl
  | written meets =>
    obtain rfl := Climate.settled_eq meets
    exact s.failStatusWrites_answer (.replaceSource source.held)

theorem Held.withoutRequests {r : Except SourceError Source} (h : Held w s source es r u) :
    WithoutRequests es := by
  cases h with
  | already => exact .nil
  | written => exact .cons_store .nil

/-- A Source that has the finalizer is not written again to get it. -/
theorem Held.eq_of_hasFinalizer {r : Except SourceError Source} (h : Held w s source es r u)
    (held : source.metadata.hasFinalizer finalizer = true) :
    es = [] ∧ r = .ok source ∧ u = s := by
  cases h with
  | already => exact ⟨rfl, rfl, rfl⟩
  | written _ hno => cases held.symm.trans hno

/-- A store in which at most the Source under a key changed, and of that finalizers, status and
version. If it was marked for deletion, it may be gone. -/
abbrev Tended (key : ObjectKey) (s u : Store) : Prop :=
  s.SourcesChange Object.Kept Object.IsMarked (· = key) u

namespace Tended

variable {key : ObjectKey}

theorem refl (s : Store) : Tended key s s :=
  Store.SourcesChange.refl Object.kept_evolution s

theorem trans (hst : Tended key s t) (htu : Tended key t u) : Tended key s u :=
  Store.SourcesChange.trans Object.kept_evolution hst htu

theorem of_sameObjects (same : s.SameObjects u) : Tended key s u :=
  Store.SourcesChange.of_sameObjects Object.kept_evolution same

theorem of_writeStatus (new : Source) : Tended new.key t (t.replaceSourceStatus new).2 :=
  Store.SourcesChange.of_replaceStatus Object.kept_evolution
    fun a _ version => (Object.restated_withStatusOf a new version).kept

/-- A replace of a stored Source that changes no more than its finalizers. -/
theorem of_replace {new : Source} (h : mine.Refinalized new)
    (stored : t.sources.get? mine.key = some mine) :
    Tended mine.key t (t.replaceSource new).2 := by
  have hkey : new.key = mine.key := h.kept.key_eq
  rw [← hkey] at stored ⊢
  rcases t.replaceSource_cases new with ⟨_, _, hsame⟩ | ⟨old, _, _, hreplaced, rest⟩
  · exact .of_sameObjects hsame
  · obtain rfl := hreplaced.stored_eq stored
    exact ⟨hreplaced.kept h, rest⟩

end Tended

theorem Held.tended {r : Except SourceError Source} (h : Held w s source es r u)
    (stored : s.sources.get? source.key = some source) : Tended source.key s u := by
  cases h with
  | already => exact .refl s
  | written meets =>
    have same := w.sameObjects meets
    rw [← same.sources] at stored
    exact (Tended.of_sameObjects same).trans
      (.of_replace (source.refinalized_heldBy finalizer) stored)

/-- **A pass changes nothing but finalizers, status and version of its Source**, or removes it if
it was marked for deletion. -/
theorem Course.tended {r : Except SourceError Action} (hs : s.Sound)
    (h : Course w now ns name s es r u) : Tended ⟨ns, name⟩ s u := by
  have read : ∀ {t : Store} {source : Source}, w.Meets s t →
      s.sources.get? ⟨ns, name⟩ = some source → source.key = ⟨ns, name⟩ ∧
        t.sources.get? source.key = some source ∧ Tended source.key s t := by
    intro t source meets stored
    have same := w.sameObjects meets
    have hk : source.key = ⟨ns, name⟩ := hs.sources.key_eq stored
    exact ⟨hk, by rw [hk, same.sources, stored], .of_sameObjects same⟩
  have written : ∀ {source mine new : Source} {t v x : Store} {holds : List Event},
      w.Meets s t → s.sources.get? ⟨ns, name⟩ = some source → source.metadata.isDeleted = false →
      Held w t source holds (.ok mine) v → new.key = mine.key → w.Meets v x →
      Tended ⟨ns, name⟩ s (x.replaceSourceStatus new).2 := by
    intro source mine new t v x _ meets stored live holds hnew writes
    obtain ⟨hk, stored, reads⟩ := read meets stored
    rw [← hk]
    refine (reads.trans (holds.tended stored)).trans
      ((Tended.of_sameObjects (w.sameObjects writes)).trans ?_)
    rw [← (holds.holding stored live).refinalized.kept.key_eq, ← hnew]
    exact .of_writeStatus new
  cases h with
  | absent meets => exact .of_sameObjects (w.sameObjects meets)
  | finalized meets stored deleted ends =>
    obtain ⟨hk, stored, reads⟩ := read meets stored
    rw [← hk]
    cases ends with
    | unheld | undeleted => exact reads
    | released meets =>
      have same := w.sameObjects meets
      rw [← same.sources] at stored
      exact (reads.trans (.of_sameObjects same)).trans
        (.of_replace (Object.refinalized_releasedBy _ _) stored)
  | unheld meets stored _ holds =>
    obtain ⟨hk, stored, reads⟩ := read meets stored
    rw [← hk]
    exact reads.trans (holds.tended stored)
  | registered answer meets stored live holds _ writes =>
    exact written meets stored live holds (key_registered _ _ _ _) writes
  | updated answer meets stored live holds _ writes =>
    exact written meets stored live holds (key_updated _ _ _ _) writes

end Leaves

end Source

end FeedOperator
