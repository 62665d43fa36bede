import FeedOperator.Proofs.Visit
import FeedOperator.Proofs.Weather

/-!
# When failed passes are retried

Both controllers share one tracker, which knows objects by their retry keys. A pass that goes well
forgets the failures of its object, at whichever of its ends it got there; one that fails leaves the
tracker alone, and its controller counts one more failure, of whatever kind, and retries by the new
number. Passes over other objects, what happens to the store, and the failures that are set while a
pass runs change nothing of that.

* `Failure.schedule`: when a failure is retried that is the j-th in a row.
* `Visit.tracked`: a visit with the tracker at hand.
* `Outcome`: a pass over an object, with its end and what the controller decided.
* `Outcome.failures`: how many failures in a row there are of an object, read off the passes.
* `Chronicle`: any number of passes over any objects, and anything between them.
* `KeepsSchedule`: what the schedule says of a failed pass, given the passes before it.

Results:
* `Failure.backoff_ofNat`: the delay that is computed is the one of the schedule.
* `Source.reconcile_resets`, `HotNews.reconcile_resets`: a pass forgets the failures of its object
  if it goes well, and none if it fails.
* `Visit.leads_tracked_iff`: a run with the tracker is one without it, and what becomes of the
  tracker.
* `Subject.Course.isOk`: a pass that finds its object gone goes well, and so does one that
  finalizes it.
* `Chronicle.get_eq`: the tracker has the number of failures in a row of each object.
* `Chronicle.keepsSchedule`: the schedule is kept in every run.
-/

namespace FeedOperator

/-! ## The schedule -/

namespace Failure

/-- The delay after the j-th failure in a row, in seconds. -/
def delay (j : Nat) : Nat :=
  min (5 * 2 ^ (j - 1)) 3600

/-- When to retry after the j-th failure in a row. -/
def schedule (j : Nat) : Failure → Action
  | .transient => .requeue (delay j)
  | .conflict => .requeue 1
  | .permanent => .awaitChange

theorem delay_mono {i j : Nat} (h : i ≤ j) : delay i ≤ delay j := by
  have hpow : 2 ^ (i - 1) ≤ 2 ^ (j - 1) :=
    Nat.pow_le_pow_right (by decide) (Nat.sub_le_sub_right h 1)
  exact min_le_min_right 3600 (Nat.mul_le_mul_left 5 hpow)

/-- Doubling stops where the delay is an hour already. -/
theorem delay_eq (j : Nat) : min (baseDelay * Nat.pow 2 (min (j - 1) maxDoublings)) maxDelay =
    delay j := by
  change min (5 * 2 ^ min (j - 1) 20) 3600 = min (5 * 2 ^ (j - 1)) 3600
  by_cases h : j - 1 ≤ 20
  · rw [Nat.min_eq_left h]
  · have hle : 20 ≤ j - 1 := by omega
    have hpow : 2 ^ 20 ≤ 2 ^ (j - 1) := Nat.pow_le_pow_right (by decide) hle
    rw [Nat.min_eq_right hle]
    omega

theorem backoff_ofNat {j : Nat} (h : j < 2 ^ 32) (failure : Failure) :
    failure.backoff (UInt32.ofNat j) = failure.schedule j := by
  cases failure with
  | transient =>
    have hj : (UInt32.ofNat j).toNat = j := UInt32.toNat_ofNat_of_lt' h
    change Action.requeue _ = Action.requeue _
    rw [hj, delay_eq]
  | conflict | permanent => rfl

end Failure

/-- What the failure of a pass calls for, as its controller sees it. -/
def PassError.failure : PassError → Failure
  | .source e => e.failure
  | .hotNews e => e.failure

/-- The key under which failures of the visited object are counted. -/
def Visit.retryKey : Visit → String
  | .source given => given.metadata.retryKey
  | .hotNews _ given => given.metadata.retryKey

/-! ## What a pass does to the tracker -/

/-- **A pass over a Source forgets its failures if it goes well, and none if it fails.** -/
theorem Source.reconcile_resets (now : String) (given : Source) :
    (reconcile now given).Resets given.metadata.retryKey := by
  unfold reconcile
  cases given.metadata.name with
  | none => exact Tracking.resets_throw _ _
  | some name =>
    cases given.metadata.ns with
    | none => exact Tracking.resets_throw _ _
    | some ns =>
      refine .of_tracked fun found => ?_
      cases found with
      | none => exact Tracking.resets_forget _ _
      | some source =>
        dsimp only
        split
        · exact .of_tracked fun _ => Tracking.resets_forget _ _
        · refine .of_tracked fun mine => ?_
          split
          · exact .of_tracked fun _ => Tracking.resets_forget _ _
          · exact .of_tracked fun _ => Tracking.resets_forget _ _

/-- **So does a pass over a HotNews.** -/
theorem HotNews.reconcile_resets (settings : Settings) (now : String) (given : HotNews) :
    (reconcile settings now given).Resets given.metadata.retryKey := by
  unfold reconcile
  cases given.metadata.name with
  | none => exact Tracking.resets_throw _ _
  | some name =>
    cases given.metadata.ns with
    | none => exact Tracking.resets_throw _ _
    | some ns =>
      refine .of_tracked fun found => ?_
      cases found with
      | none => exact Tracking.resets_forget _ _
      | some hotNews =>
        dsimp only
        split
        · exact .of_tracked fun _ => Tracking.resets_forget _ _
        · exact .of_tracked fun _ => .of_tracked fun _ => Tracking.resets_forget _ _

namespace Visit

/-- The pass with the tracker at hand. -/
def tracked (now : String) : Visit → Tracking PassError Action
  | .source given => ExceptT.adapt .source (Source.reconcile now given)
  | .hotNews settings given => ExceptT.adapt .hotNews (HotNews.reconcile settings now given)

variable {now : String} {visit : Visit}

theorem pass_tracked : (visit.tracked now).pass = visit.pass now := by
  cases visit <;> exact Tracking.pass_adapt

theorem tracked_resets : (visit.tracked now).Resets visit.retryKey := by
  cases visit with
  | source given => exact (Source.reconcile_resets now given).adapt
  | hotNews settings given => exact (HotNews.reconcile_resets settings now given).adapt

/-- A run of a visit with the tracker is one without it, after which the failures of the visited
object are forgotten if it went well. -/
theorem leads_tracked_iff {w : Climate} {s u : Store} {es : List Event} {t t' : Tracker}
    {r : Except PassError Action} :
    ((visit.tracked now).run t).LeadsIn w s es (r, t') u ↔
      (visit.pass now).LeadsIn w s es r u ∧ t' = t.after visit.retryKey r := by
  rw [tracked_resets t, pass_tracked, Pass.leads_map_iff]
  constructor
  · rintro ⟨_, h, heq⟩
    cases heq
    exact ⟨h, rfl⟩
  · rintro ⟨h, rfl⟩
    exact ⟨r, h, rfl⟩

end Visit

/-! ## Passes that go well -/

namespace Subject

/-- The metadata of the stored object. -/
def metadata? (s : Store) : Subject → Option Meta
  | .source key => (s.sources.get? key).map (·.metadata)
  | .hotNews _ key => (s.hotNews.get? key).map (·.metadata)

/-- The finalizer that the controller of the object holds. -/
def finalizer : Subject → String
  | .source _ => Source.finalizer
  | .hotNews _ _ => HotNews.finalizer

/-- Whether the object is marked for deletion and waits for its controller. -/
def IsHeld (s : Store) (subject : Subject) : Prop :=
  ∃ m, subject.metadata? s = some m ∧ m.isDeleted = true ∧
    m.hasFinalizer subject.finalizer = true

/-- Whether nothing is stored that has the finalizer. -/
def IsFreed (s : Store) (subject : Subject) : Prop :=
  ∀ m, subject.metadata? s = some m → m.hasFinalizer subject.finalizer = false

theorem IsHeld.ne_of_isFreed {s u : Store} {subject : Subject} (held : subject.IsHeld s)
    (freed : subject.IsFreed u) : subject.metadata? u ≠ subject.metadata? s := by
  obtain ⟨m, hm, -, hheld⟩ := held
  intro same
  cases hheld.symm.trans (freed m (same.trans hm))

end Subject

section Courses

variable {w : Climate} {now ns name : String} {s u : Store} {es : List Event}

/-- Where a Source cannot be finalized it stays as it is. -/
theorem Source.Finalized.ok_or_same {source : Source} {r : Except SourceError Action}
    (h : Source.Finalized w s source es r u) :
    (∃ action, r = .ok action) ∨ u.sources = s.sources := by
  cases h with
  | unheld => exact .inl ⟨_, rfl⟩
  | undeleted => exact .inr rfl
  | @released t meets =>
    rcases t.replaceSource_cases source.released with ⟨e, he, hsame⟩ | ⟨_, written, hok, -, -⟩
    · exact .inr (hsame.sources.trans (w.sameObjects meets).sources)
    · rw [hok]
      exact .inl ⟨_, rfl⟩

/-- A pass over a Source that fails found a live one, or left it as it is. -/
theorem Source.Course.ok_or_stored {r : Except SourceError Action}
    (h : Source.Course w now ns name s es r u) : (∃ action, r = .ok action) ∨
      ∃ source, s.sources.get? ⟨ns, name⟩ = some source ∧
        (source.metadata.isDeleted = false ∨ u.sources = s.sources) := by
  cases h with
  | absent => exact .inl ⟨_, rfl⟩
  | finalized meets stored _ ends =>
    exact ends.ok_or_same.imp_right fun same =>
      ⟨_, stored, .inr (same.trans (w.sameObjects meets).sources)⟩
  | unheld _ stored live => exact .inr ⟨_, stored, .inl live⟩
  | registered _ _ stored live => exact .inr ⟨_, stored, .inl live⟩
  | updated _ _ stored live => exact .inr ⟨_, stored, .inl live⟩

/-- Where a HotNews cannot be finalized it stays as it is. -/
theorem HotNews.Finalized.ok_or_same {hotNews : HotNews} {r : Except HotNewsError Action}
    (hs : s.Sound) (h : HotNews.Finalized w s hotNews es r u) :
    (∃ action, r = .ok action) ∨ u.hotNews = s.hotNews := by
  cases h with
  | unheld => exact .inl ⟨_, rfl⟩
  | unplaced => exact .inr rfl
  | stuck _ _ _ unlinking => exact .inr (unlinkSources_leads hs unlinking).1.rest.hotNews
  | @released _ _ _ v _ _ frees writes =>
    rcases v.replaceHotNews_cases hotNews.released with
      ⟨e, he, hsame⟩ | ⟨_, written, hok, -, -⟩
    · exact .inr ((hsame.hotNews.trans (w.sameObjects writes).hotNews).trans (frees.hotNews_eq hs))
    · rw [hok]
      exact .inl ⟨_, rfl⟩

/-- So for a pass over a HotNews. -/
theorem HotNews.Course.ok_or_stored {settings : Settings} {r : Except HotNewsError Action}
    (hs : s.Sound) (h : HotNews.Course w settings now ns name s es r u) :
    (∃ action, r = .ok action) ∨ ∃ hotNews, s.hotNews.get? ⟨ns, name⟩ = some hotNews ∧
      (hotNews.metadata.isDeleted = false ∨ u.hotNews = s.hotNews) := by
  cases h with
  | absent => exact .inl ⟨_, rfl⟩
  | finalized meets stored _ ends =>
    exact (ends.ok_or_same (w.sound meets hs)).imp_right fun same =>
      ⟨_, stored, .inr (same.trans (w.sameObjects meets).hotNews)⟩
  | unheld _ stored live => exact .inr ⟨_, stored, .inl live⟩
  | refreshed _ stored live => exact .inr ⟨_, stored, .inl live⟩

/-- A pass that fails found its object live, or left it as it is. -/
theorem Subject.Course.ok_or_stored {subject : Subject} {r : Except PassError Action} (hs : s.Sound)
    (h : subject.Course w now s es r u) : (∃ action, r = .ok action) ∨
      ∃ m, subject.metadata? s = some m ∧
        (m.isDeleted = false ∨ subject.metadata? u = subject.metadata? s) := by
  cases h with
  | source h =>
    rcases h.ok_or_stored with ⟨action, rfl⟩ | ⟨source, stored, hleft⟩
    · exact .inl ⟨action, rfl⟩
    · refine .inr ⟨source.metadata, congrArg (Option.map _) stored, hleft.imp_right fun same => ?_⟩
      simp only [Subject.metadata?, same]
  | hotNews h =>
    rcases h.ok_or_stored hs with ⟨action, rfl⟩ | ⟨hotNews, stored, hleft⟩
    · exact .inl ⟨action, rfl⟩
    · refine .inr ⟨hotNews.metadata, congrArg (Option.map _) stored, hleft.imp_right fun same => ?_⟩
      simp only [Subject.metadata?, same]

/-- **A pass that finds its object gone goes well, and so does one that finalizes it.** -/
theorem Subject.Course.isOk {subject : Subject} {r : Except PassError Action} (hs : s.Sound)
    (h : subject.Course w now s es r u)
    (ends : subject.metadata? s = none ∨ subject.IsHeld s ∧ subject.IsFreed u) :
    ∃ action, r = .ok action := by
  refine (h.ok_or_stored hs).resolve_right ?_
  rintro ⟨m, hm, hleft⟩
  rcases ends with gone | ⟨held, freed⟩
  · cases gone.symm.trans hm
  · rcases hleft with live | same
    · obtain ⟨m', hm', marked, -⟩ := held
      cases hm.symm.trans hm'
      cases live.symm.trans marked
    · exact held.ne_of_isFreed freed same

end Courses

/-! ## Passes in a row -/

/-- A pass over an object, with its end and what the controller decided. -/
structure Outcome (ι : Type) where
  object : ι
  visit : Visit
  before : Store
  after : Store
  result : Except PassError Action
  action : Action

namespace Outcome

variable {ι : Type}

/-- Whether the pass is one of a run of the operator: it is over an object with the retry key, runs
over the store with the tracker at hand, and its end is settled with the tracker that it leaves. -/
structure Follows (key : ι → String) (s : Store) (t : Tracker) (o : Outcome ι) (u : Tracker) :
    Prop where
  own : o.visit.retryKey = key o.object
  before : o.before = s
  run : ∃ now es left, ((o.visit.tracked now).run t).Weathers o.before es (o.result, left) o.after ∧
    left.settle o.visit.retryKey PassError.failure o.result = (u, o.action)

/-- Whether the pass was one that forgets the failures of its object: it went well, found the object
gone, or finalized it. -/
def WentWell (o : Outcome ι) : Prop :=
  (∃ action, o.result = .ok action) ∨ ∃ subject, o.visit.subject? = some subject ∧
    (subject.metadata? o.before = none ∨ subject.IsHeld o.before ∧ subject.IsFreed o.after)

section Follows

variable {key : ι → String} {s : Store} {t u : Tracker} {o : Outcome ι} {e : PassError}

theorem Follows.weathers (h : o.Follows key s t u) :
    ∃ now es, (o.visit.pass now).Weathers s es o.result o.after := by
  obtain ⟨now, es, _, run, -⟩ := h.run
  exact ⟨now, es, h.before ▸ (Visit.leads_tracked_iff.mp run).1⟩

/-- A pass that went well has forgotten the failures of its object. -/
theorem Follows.tracker_of_ok (h : o.Follows key s t u) {action : Action}
    (ok : o.result = .ok action) : u = t.reset (key o.object) := by
  obtain ⟨_, _, left, run, settled⟩ := h.run
  obtain rfl := (Visit.leads_tracked_iff.mp run).2
  rw [ok] at settled
  rw [← h.own]
  exact (congrArg Prod.fst settled).symm

/-- One that failed left the tracker alone, and the failure was counted and retried after that. -/
theorem Follows.settle_of_error (h : o.Follows key s t u) (failed : o.result = .error e) :
    u = (t.increment (key o.object)).1 ∧
      o.action = e.failure.backoff (t.get (key o.object) + 1) := by
  obtain ⟨_, _, left, run, settled⟩ := h.run
  obtain rfl := (Visit.leads_tracked_iff.mp run).2
  rw [failed] at settled
  rw [← h.own]
  exact ⟨(congrArg Prod.fst settled).symm, (congrArg Prod.snd settled).symm⟩

theorem WentWell.ok (h : o.WentWell) (hs : s.Sound) (follows : o.Follows key s t u) :
    ∃ action, o.result = .ok action := by
  rcases h with hok | ⟨subject, about, ends⟩
  · exact hok
  · obtain ⟨now, es, run⟩ := follows.weathers
    exact (Visit.course_of_leads about run).isOk hs (follows.before ▸ ends)

end Follows

section Failures

variable [DecidableEq ι] {object : ι} {o : Outcome ι} {past between : List (Outcome ι)}

/-- How many passes over an object failed in a row, given all passes, last first. -/
def failures (object : ι) : List (Outcome ι) → Nat
  | [] => 0
  | o :: past =>
    if o.object = object then
      match o.result with
      | .ok _ => 0
      | .error _ => failures object past + 1
    else failures object past

theorem failures_of_ok {action : Action} (ok : o.result = .ok action) :
    failures o.object (o :: past) = 0 := by
  simp [failures, ok]

theorem failures_of_error {e : PassError} (failed : o.result = .error e) :
    failures o.object (o :: past) = failures o.object past + 1 := by
  simp [failures, failed]

theorem failures_of_other (other : o.object ≠ object) :
    failures object (o :: past) = failures object past := by
  simp [failures, other]

theorem failures_append_of_others (others : ∀ x ∈ between, x.object ≠ object) :
    failures object (between ++ past) = failures object past := by
  induction between with
  | nil => rfl
  | cons x more ih =>
    obtain ⟨hx, hmore⟩ := List.forall_mem_cons.mp others
    rw [List.cons_append, failures_of_other hx, ih hmore]

/-- Passes that fail add to the failures before them. -/
theorem failures_le_append
    (fail : ∀ x ∈ between, x.object = object → ∃ e, x.result = .error e) :
    failures object past ≤ failures object (between ++ past) := by
  induction between with
  | nil => exact Nat.le_refl _
  | cons x more ih =>
    obtain ⟨hx, hmore⟩ := List.forall_mem_cons.mp fail
    rw [List.cons_append]
    by_cases hown : x.object = object
    · obtain ⟨e, failed⟩ := hx hown
      subst hown
      rw [failures_of_error failed]
      exact Nat.le_succ_of_le (ih hmore)
    · rw [failures_of_other hown]
      exact ih hmore

end Failures

end Outcome

/-- Passes over objects with retry keys, last first, with the store and the tracker after them. The
tracker is empty at first. Anything may happen to the store between two passes, and while one runs
the failures that are due may change. -/
inductive Chronicle {ι : Type} (key : ι → String) : List (Outcome ι) → Store → Tracker → Prop
  | start {s : Store} (built : s.Built) : Chronicle key [] s {}
  | between {past : List (Outcome ι)} {s : Store} {t : Tracker} (h : Chronicle key past s t)
    (op : StoreOp) : Chronicle key past (s.after op) t
  | pass {past : List (Outcome ι)} {s : Store} {t u : Tracker} (h : Chronicle key past s t)
    {o : Outcome ι} (follows : o.Follows key s t u) : Chronicle key (o :: past) o.after u

namespace Chronicle

open Outcome

variable {ι : Type} {key : ι → String} {all past later : List (Outcome ι)} {s : Store}
variable {t : Tracker} {o : Outcome ι} {e : PassError}

theorem built (h : Chronicle key past s t) : s.Built := by
  induction h with
  | start built => exact built
  | between _ op ih => exact ih.after op
  | pass _ follows ih =>
    obtain ⟨now, es, run⟩ := follows.weathers
    exact run.built ih

/-- The last pass of a run, and the run before it. -/
theorem last (h : Chronicle key (o :: past) s t) :
    ∃ s' t', Chronicle key past s' t' ∧ o.Follows key s' t' t := by
  generalize hall : o :: past = all at h
  induction h with
  | start => cases hall
  | between _ _ ih => exact ih hall
  | pass h follows =>
    cases hall
    exact ⟨_, _, h, follows⟩

/-- What came before some passes is a run. -/
theorem earlier (h : Chronicle key (later ++ past) s t) : ∃ s' t', Chronicle key past s' t' := by
  induction later generalizing s t with
  | nil => exact ⟨s, t, h⟩
  | cons o later ih =>
    obtain ⟨_, _, hbefore, -⟩ := last h
    exact ih hbefore

variable [DecidableEq ι]

/-- **The tracker has the number of failures in a row of each object**, whatever happened to other
ones, as far as it can count. -/
theorem get_eq (distinct : Function.Injective key) (h : Chronicle key past s t) (object : ι) :
    t.get (key object) = UInt32.ofNat (failures object past) := by
  -- Only passes move the tracker, and each one under the key of its own object alone.
  induction h with
  | start => rfl
  | between _ _ ih => exact ih
  | @pass past s t _ _ o follows ih =>
    cases hr : o.result with
    | ok action =>
      rw [follows.tracker_of_ok hr, Tracker.get_reset]
      by_cases hown : o.object = object
      · subst hown
        rw [if_pos rfl, failures_of_ok hr]
        rfl
      · rw [if_neg fun hkey => hown (distinct hkey).symm, failures_of_other hown, ih]
    | error e =>
      rw [(follows.settle_of_error hr).1, Tracker.get_increment]
      by_cases hown : o.object = object
      · subst hown
        rw [if_pos rfl, failures_of_error hr, ih, UInt32.ofNat_add]
        rfl
      · rw [if_neg fun hkey => hown (distinct hkey).symm, failures_of_other hown, ih]

/-- What is decided after a failed pass is settled by how many there were in a row. -/
theorem action_eq (distinct : Function.Injective key) (h : Chronicle key (o :: past) s t)
    (failed : o.result = .error e) (few : failures o.object (o :: past) < 2 ^ 32) :
    o.action = e.failure.schedule (failures o.object (o :: past)) := by
  obtain ⟨s', t', before, follows⟩ := last h
  have hcount : t'.get (key o.object) + 1 = UInt32.ofNat (failures o.object (o :: past)) := by
    rw [get_eq distinct before, failures_of_error failed, UInt32.ofNat_add]
    rfl
  rw [(follows.settle_of_error failed).2, hcount, Failure.backoff_ofNat few]

/-- What the schedule says of a pass that failed, given the passes before it, last first. -/
structure KeepsSchedule (past : List (Outcome ι)) (o : Outcome ι) (e : PassError) : Prop where
  /-- The number of failures of the object in a row, this one included, settles what is decided. -/
  action_eq : o.action = e.failure.schedule (failures o.object (o :: past))
  /-- A transient failure is retried, and no sooner than one before it in the row. -/
  grows : e.failure = .transient → ∀ between o' earlier e', past = between ++ o' :: earlier →
    o'.object = o.object → o'.result = .error e' → e'.failure = .transient →
    (∀ x ∈ between, x.object = o.object → ∃ e, x.result = .error e) →
    ∃ d' d, o'.action = .requeue d' ∧ o.action = .requeue d ∧ d' ≤ d
  /-- After a pass over the object that went well, found it gone or finalized it, it counts as the
  first failure. -/
  restarts : ∀ between o' earlier, past = between ++ o' :: earlier → o'.object = o.object →
    o'.WentWell → (∀ x ∈ between, x.object ≠ o.object) → failures o.object (o :: past) = 1

/-- **Every failed pass of a run is retried by the schedule.** Its object fails less than 2^32 times
in a row. -/
theorem keepsSchedule (distinct : Function.Injective key) (h : Chronicle key all s t)
    (part : all = later ++ o :: past) (failed : o.result = .error e)
    (few : failures o.object (o :: past) < 2 ^ 32) : KeepsSchedule past o e := by
  subst part
  obtain ⟨s', t', upto⟩ := earlier h
  have decided := action_eq distinct upto failed few
  refine ⟨decided, ?_, ?_⟩
  · rintro transient between o' front e' rfl hown failed' transient' fail
    -- The row of failures at the earlier pass is a part of the row at this one.
    have row : failures o'.object (o' :: front) ≤
        failures o.object (o :: (between ++ o' :: front)) := by
      rw [hown, failures_of_error failed]
      exact Nat.le_succ_of_le (failures_le_append fail)
    obtain ⟨_, _, upto', -⟩ := last upto
    obtain ⟨_, _, upto'⟩ := earlier upto'
    have decided' := action_eq distinct upto' failed' (Nat.lt_of_le_of_lt row few)
    rw [transient'] at decided'
    rw [transient] at decided
    exact ⟨_, _, decided', decided, Failure.delay_mono row⟩
  · rintro between o' front rfl hown well others
    obtain ⟨_, _, upto', -⟩ := last upto
    obtain ⟨_, _, upto'⟩ := earlier upto'
    obtain ⟨_, _, start, follows⟩ := last upto'
    obtain ⟨action, ok⟩ := well.ok start.built.sound follows
    have none : failures o.object (o' :: front) = 0 := hown ▸ failures_of_ok ok
    rw [failures_of_error failed, failures_append_of_others others, none]

end Chronicle

/-! ## A newsroom with trouble -/

/-- Passes, last first, with the store and the tracker after them. -/
structure Ledger where
  past : List (Outcome String) := []
  store : Store
  tracker : Tracker := {}

namespace Ledger

/-- One more pass in some weather, with a service whose answer depends on the request alone. -/
def visit (l : Ledger) (f : Service) (weather : Weather) (visit : Visit) : Ledger :=
  let done := ((visit.tracked "now").run l.tracker).runIn f weather l.store
  let settled := done.1.2.settle visit.retryKey PassError.failure done.1.1
  ⟨⟨visit.retryKey, visit, l.store, done.2, done.1.1, settled.2⟩ :: l.past, done.2, settled.1⟩

/-- What is computed is a run of passes. -/
theorem chronicle_visit {l : Ledger} (h : Chronicle id l.past l.store l.tracker) (f : Service)
    (weather : Weather) (visit : Visit) :
    Chronicle id (l.visit f weather visit).past (l.visit f weather visit).store
      (l.visit f weather visit).tracker :=
  h.pass ⟨rfl, rfl, _, _, _, Pass.weathers_runIn f _ weather l.store, rfl⟩

/-- A HotNews fails, is searched, and fails twice more, the other one failing in between. The first
of the last two failures is that the summary cannot be written, while the condition can. -/
def troubled : Ledger :=
  let calm : Weather := fun _ => {}
  ((((Ledger.visit { store := newsroom } unreachable calm worldVisit).visit agreeable calm
    worldVisit).visit agreeable (fun i => { failStatusWrites := i == 4 }) worldVisit).visit
    unreachable calm sportVisit).visit unreachable calm worldVisit

/-- It is retried after ten seconds, as after the second failure in a row. -/
theorem troubled_keepsSchedule : Function.Injective (id : String → String) ∧
    Chronicle id troubled.past troubled.store troubled.tracker ∧
    ∃ o past e, troubled.past = [] ++ o :: past ∧ o.result = .error e ∧
      Outcome.failures o.object (o :: past) < 2 ^ 32 ∧ Chronicle.KeepsSchedule past o e ∧
      o.action = .requeue 10 := by
  have chronicle : Chronicle id troubled.past troubled.store troubled.tracker :=
    chronicle_visit (chronicle_visit (chronicle_visit (chronicle_visit (chronicle_visit
      (.start built_newsroom) _ _ _) _ _ _) _ _ _) _ _ _) _ _ _
  obtain ⟨o, past, part, failed, object⟩ : ∃ o past, troubled.past = [] ++ o :: past ∧
      o.result = .error (.hotNews (.fetchArticles (.transport "unreachable"))) ∧
      o.object = worldVisit.retryKey := ⟨_, _, rfl, rfl, rfl⟩
  have second : Outcome.failures o.object (o :: past) = 2 := by
    change troubled.past = o :: past at part
    rw [object, ← part]
    decide +kernel
  have few : Outcome.failures o.object (o :: past) < 2 ^ 32 := by
    rw [second]
    decide
  have keeps := Chronicle.keepsSchedule Function.injective_id chronicle part failed few
  refine ⟨Function.injective_id, chronicle, o, past, _, part, failed, few, keeps, ?_⟩
  rw [keeps.action_eq, second]
  rfl

end Ledger

end FeedOperator
