import FeedOperator.Proofs.Recording
import FeedOperator.Proofs.Weather

/-!
# What the conditions of an object remember

Passes over any objects follow one another. Between them users store other objects and ask for the
deletion of any, and clients write what they like but the status of the object. How the store fails
may change at any call. The conditions of the object remember the first pass that was written of,
and the last one.

* `Condition.Chronological`: the lists of conditions that passes make.
* `PastPass`: a pass with its calls and its result.
* `History`: what happens to a store around an object, with the passes, last first.
* `lastOutcome?`: what the last pass over an object came to that was written of.

Results:
* `Chronological.enter`, `Chronological.last_enter`, `Condition.mem_enter_of_added`: what the
  condition of a pass does to such a list.
* `Store.conditions_of_spared`, `History.last_pass`: what the steps of a history do to the
  conditions.
* `History.conditions_remember`: there are no conditions, or the one of the first pass, or that and
  the one of the last pass; the first one stays as it is.
-/

namespace FeedOperator

/-! ## Lists of conditions -/

namespace Condition

/-- The lists of conditions that passes make: no condition, the one of the first pass, or that and
the one of the last pass. -/
inductive Chronological : List Condition → Prop
  | untold : Chronological []
  | first {c : Condition} (hc : c.kind = .added) : Chronological [c]
  | later {c d : Condition} (hc : c.kind = .added) (hd : d.kind = .updated) : Chronological [c, d]

variable {c d : Condition} {cs : List Condition}

theorem mem_enter_of_kind_ne (hd : d ∈ cs) (hk : d.kind ≠ c.kind) : d ∈ c.enter cs := by
  induction cs with
  | nil => exact absurd hd List.not_mem_nil
  | cons e rest ih =>
    unfold enter
    rcases List.mem_cons.mp hd with rfl | hd
    · rw [if_neg hk]
      exact List.mem_cons_self
    · split
      · exact List.mem_cons_of_mem _ hd
      · exact List.mem_cons_of_mem _ (ih hd)

/-- The condition of a pass never takes the place of the one of the first pass. -/
theorem mem_enter_of_added (kind : c.kind = .next cs) (hd : d ∈ cs) (added : d.kind = .added) :
    d ∈ c.enter cs := by
  refine mem_enter_of_kind_ne hd ?_
  rw [kind, added, Kind.next_of_ne_nil (List.ne_nil_of_mem hd)]
  nofun

theorem Chronological.enter (h : Chronological cs) (kind : c.kind = .next cs) :
    Chronological (c.enter cs) := by
  cases h with
  | untold => exact .first kind
  | @first a ha =>
    have hk : c.kind = .updated := kind
    simp only [Condition.enter, ha, hk, reduceCtorEq, if_false]
    exact .later ha hk
  | @later a d ha hd =>
    have hk : c.kind = .updated := kind
    simp only [Condition.enter, ha, hd, hk, reduceCtorEq, if_false, if_true]
    exact .later ha hk

/-- The last condition is the one of the last pass. -/
theorem Chronological.last_enter (h : Chronological cs) (kind : c.kind = .next cs) :
    (c.enter cs).getLast? = some c := by
  cases h with
  | untold => rfl
  | @first a ha =>
    have hk : c.kind = .updated := kind
    simp [Condition.enter, ha, hk]
  | @later a d ha hd =>
    have hk : c.kind = .updated := kind
    simp [Condition.enter, ha, hd, hk]

end Condition

/-! ## Histories -/

/-- Whether something that happens to a store neither stores an object at a place nor writes the
status of the one that is there. -/
def StoreOp.Spares (p : Place) : StoreOp → Prop
  | .insert o => o.place ≠ p
  | .call c => c.writesStatus = true → ∀ o, c.handed? = some o → o.place ≠ p
  | .deleteSource _ | .deleteHotNews _ | .faults _ _ _ => True

/-- A pass with its calls and its result. -/
structure PastPass where
  visit : Visit
  calls : List Event
  result : Except PassError Action

namespace PastPass

/-- Whether a pass was about the object at a place, and has written its status. -/
def recordedAt (p : Place) (past : PastPass) : Bool :=
  past.visit.subject?.map Subject.place = some p && past.calls.any Event.records

/-- What a pass came to. -/
def outcome? (past : PastPass) : Option Finding :=
  FeedOperator.outcome? past.calls past.result

end PastPass

/-- What the last pass came to that has written the status of the object at a place. -/
def lastOutcome? (p : Place) (past : List PastPass) : Option Finding :=
  (past.find? (·.recordedAt p)).bind PastPass.outcome?

/-- What happens to a store, with the passes, last first. What happens between two passes spares the
object at a place, and while one runs the failures that are due may change. -/
inductive History (p : Place) (s : Store) : List PastPass → Store → Prop
  | start : History p s [] s
  | between {past : List PastPass} {t : Store} (h : History p s past t) {op : StoreOp}
    (spares : op.Spares p) : History p s past (t.after op)
  | pass {past : List PastPass} {t u : Store} (h : History p s past t) {now : String}
    {visit : Visit} {es : List Event} {r : Except PassError Action}
    (run : (visit.pass now).Weathers t es r u) : History p s (⟨visit, es, r⟩ :: past) u

variable {p : Place} {s t u : Store} {op : StoreOp} {past : List PastPass} {o b : Resource}

/-- What happens between two passes leaves the conditions as they are. -/
theorem Store.conditions_of_spared (hs : s.Sound) (spares : op.Spares p)
    (hb : (s.after op).at? p = some b) : ∃ a, s.at? p = some a ∧ b.conditions = a.conditions := by
  have hplace := (sound_after hs op).place_eq hb
  rcases stored_after hs hb with written | ⟨a, ha, rfl | rfl⟩
  · cases written with
    | insert o => exact absurd (o.place_stamped _ ▸ hplace) spares
    | source h =>
      obtain ⟨stored, hr⟩ := replaced_source h
      obtain ⟨version, rfl⟩ := hr.written_eq
      subst hplace
      exact ⟨.source stored, congrArg (Option.map _) hr.found, rfl⟩
    | @sourceStatus new written h =>
      obtain ⟨_, hr⟩ := statusReplaced_source h
      have hkey : written.key = new.key := hr.key_eq (hs.source_key hr.found)
      exact absurd (hplace.symm.trans (congrArg Place.source hkey)).symm (spares rfl _ rfl)
    | hotNews h =>
      obtain ⟨stored, hr⟩ := replaced_hotNews h
      obtain ⟨version, rfl⟩ := hr.written_eq
      subst hplace
      exact ⟨.hotNews stored, congrArg (Option.map _) hr.found, rfl⟩
    | @hotNewsStatus new written h =>
      obtain ⟨_, hr⟩ := statusReplaced_hotNews h
      have hkey : written.key = new.key := hr.key_eq (hs.hotNews_key hr.found)
      exact absurd (hplace.symm.trans (congrArg Place.hotNews hkey)).symm (spares rfl _ rfl)
  · exact ⟨b, ha, rfl⟩
  · exact ⟨a, ha, by cases a <;> rfl⟩

namespace History

theorem sound (hs : s.Sound) (h : History p s past t) : t.Sound := by
  induction h with
  | start => exact hs
  | between _ _ ih => exact Store.sound_after ih _
  | pass _ run ih => exact run.sound ih

/-- What a pass of a history does to the conditions of the object: it is not written of, or it
enters one condition that tells what it came to. -/
theorem last_pass (hs : t.Sound) {now : String} {visit : Visit} {es : List Event}
    {r : Except PassError Action} (run : (visit.pass now).Weathers t es r u)
    (hb : u.at? p = some b) : ∃ a, t.at? p = some a ∧
      (PastPass.recordedAt p ⟨visit, es, r⟩ = false ∧ b.conditions = a.conditions ∨
        PastPass.recordedAt p ⟨visit, es, r⟩ = true ∧ ∃ c : Condition,
          c.kind = .next a.conditions ∧ outcome? es r = some c.finding ∧
          b.conditions = c.enter a.conditions) := by
  by_cases own : visit.subject?.map Subject.place = some p
  · obtain ⟨subject, about, rfl⟩ := Option.map_eq_some_iff.mp own
    obtain ⟨a, ha, recording⟩ := visit.recording hs about run hb
    refine ⟨a, ha, ?_⟩
    cases recording with
    | silent unwritten conditions =>
      exact .inl ⟨by simp [PastPass.recordedAt, unwritten], conditions⟩
    | told c written kind outcome conditions =>
      exact .inr ⟨by simp only [PastPass.recordedAt, own, written, decide_true, Bool.and_self],
        c, kind, outcome, conditions⟩
  · have other : ∀ subject, visit.subject? = some subject → subject.place ≠ p := by
      rintro subject about rfl
      exact own (congrArg (Option.map Subject.place) about)
    obtain ⟨a, ha, same⟩ := visit.conditions_elsewhere hs run other hb
    exact ⟨a, ha, .inl ⟨by simp [PastPass.recordedAt, own], same⟩⟩

/-- What the conditions of the object at a place remember of the passes. -/
structure Remembered (p : Place) (past : List PastPass) (cs : List Condition) : Prop where
  shape : Condition.Chronological cs
  last : cs.getLast?.map Condition.finding = lastOutcome? p past

theorem remembered (hs : s.Sound) (untold : ∀ o, s.at? p = some o → o.conditions = [])
    (h : History p s past t) (stored : t.at? p = some o) : Remembered p past o.conditions := by
  induction h generalizing o with
  | start =>
    rw [untold o stored]
    exact ⟨.untold, rfl⟩
  | between h spares ih =>
    obtain ⟨a, ha, same⟩ := Store.conditions_of_spared (h.sound hs) spares stored
    rw [same]
    exact ih ha
  | pass h run ih =>
    obtain ⟨a, ha, ⟨silent, same⟩ | ⟨told, c, kind, outcome, entered⟩⟩ :=
      last_pass (h.sound hs) run stored
    · obtain ⟨shape, last⟩ := ih ha
      refine ⟨same ▸ shape, ?_⟩
      rw [same, last, lastOutcome?, lastOutcome?, List.find?_cons_of_neg (by simp [silent])]
    · obtain ⟨shape, -⟩ := ih ha
      refine ⟨entered ▸ shape.enter kind, ?_⟩
      rw [entered, shape.last_enter kind, lastOutcome?, List.find?_cons_of_pos told]
      exact outcome.symm

/-- Nothing that happens later changes the condition of the first pass. -/
theorem added_kept (hs : t.Sound) (h : History p t past u) (stored : u.at? p = some b) :
    ∃ a, t.at? p = some a ∧ ∀ c ∈ a.conditions, c.kind = .added → c ∈ b.conditions := by
  induction h generalizing b with
  | start => exact ⟨b, stored, fun _ hc _ => hc⟩
  | between h spares ih =>
    obtain ⟨o, ho, same⟩ := Store.conditions_of_spared (h.sound hs) spares stored
    obtain ⟨a, ha, kept⟩ := ih ho
    exact ⟨a, ha, same ▸ kept⟩
  | pass h run ih =>
    obtain ⟨o, ho, ⟨-, same⟩ | ⟨-, c, kind, -, entered⟩⟩ := last_pass (h.sound hs) run stored
    · obtain ⟨a, ha, kept⟩ := ih ho
      exact ⟨a, ha, same ▸ kept⟩
    · obtain ⟨a, ha, kept⟩ := ih ho
      refine ⟨a, ha, fun d hd added => ?_⟩
      rw [entered]
      exact Condition.mem_enter_of_added kind (kept d hd added) added

/-- **The conditions of an object remember the first pass that was written of, and the last one.**
It starts without conditions; whatever passes there are and however they fail, it has none, or one
that was added, or that and one that was updated. The last of them tells what the last pass over it
came to that could be written, and the one that was added stays as it is from then on. -/
theorem conditions_remember (built : s.Built) (untold : ∀ o, s.at? p = some o → o.conditions = [])
    (h : History p s past t) (stored : t.at? p = some o) :
    Condition.Chronological o.conditions ∧
      o.conditions.getLast?.map Condition.finding = lastOutcome? p past ∧
      ∀ later u b, History p t later u → u.at? p = some b →
        ∀ c ∈ o.conditions, c.kind = .added → c ∈ b.conditions := by
  obtain ⟨shape, last⟩ := remembered built.sound untold h stored
  refine ⟨shape, last, fun later u b hlater hb => ?_⟩
  obtain ⟨a, ha, kept⟩ := added_kept (h.sound built.sound) hlater hb
  obtain rfl := Option.some.inj (stored.symm.trans ha)
  exact kept

end History

/-! ## An eventful life -/

/-- Passes, last first, with the store after them. -/
structure Diary where
  past : List PastPass := []
  store : Store

namespace Diary

/-- One more pass in some weather, with a service whose answer depends on the request alone. -/
def visit (d : Diary) (f : Service) (weather : Weather) (visit : Visit) : Diary :=
  let done := (visit.pass "now").runIn f weather d.store
  ⟨⟨visit, (visit.pass "now").journalIn f weather d.store, done.1⟩ :: d.past, done.2⟩

/-- Something that happens between two passes. -/
def after (d : Diary) (op : StoreOp) : Diary :=
  { d with store := d.store.after op }

/-- What is computed is a history. -/
theorem history_visit {d : Diary} (h : History p s d.past d.store) (f : Service)
    (weather : Weather) (visit : Visit) :
    History p s (d.visit f weather visit).past (d.visit f weather visit).store :=
  h.pass (Pass.weathers_runIn f _ weather d.store)

theorem history_after {d : Diary} (h : History p s d.past d.store) (spares : op.Spares p) :
    History p s (d.after op).past (d.after op).store :=
  h.between spares

/-- A HotNews is searched in vain, as is another one. Once the deletion of their Source is requested
the first one is searched with success. After that the summary of one more search is refused and its
report is not, and in the end no status can be written any more, and it is searched in vain. -/
def eventful : Diary :=
  let calm : Weather := fun _ => {}
  (((((Diary.visit { store := newsroom } unreachable calm worldVisit).visit unreachable calm
    sportVisit).after (.deleteSource ⟨"news", "bbc"⟩)).visit agreeable calm worldVisit).visit
    agreeable (fun i => { failStatusWrites := i == 4 }) worldVisit).visit unreachable
    (fun _ => { failStatusWrites := true }) worldVisit

/-- Its conditions tell of the first pass and of the one whose report was written. -/
theorem eventful_remembered : newsroom.Built ∧
    (∀ o, newsroom.at? (.hotNews ⟨"news", "world"⟩) = some o → o.conditions = []) ∧
    History (.hotNews ⟨"news", "world"⟩) newsroom eventful.past eventful.store ∧
    ∃ o, eventful.store.at? (.hotNews ⟨"news", "world"⟩) = some o ∧
      o.conditions.map (·.kind) = [.added, .updated] ∧ Condition.Chronological o.conditions ∧
      o.conditions.getLast?.map (·.reason) = some "UpdateStatusFailed" := by
  have untold : ∀ o, newsroom.at? (.hotNews ⟨"news", "world"⟩) = some o → o.conditions = [] := by
    intro o ho
    cases ho
    rfl
  have spares : (StoreOp.deleteSource ⟨"news", "bbc"⟩).Spares (.hotNews ⟨"news", "world"⟩) :=
    trivial
  have history : History (.hotNews ⟨"news", "world"⟩) newsroom eventful.past eventful.store :=
    history_visit (history_visit (history_visit (history_after (history_visit (history_visit .start
      _ _ _) _ _ _) spares) _ _ _) _ _ _) _ _ _
  have written : (eventful.store.at? (.hotNews ⟨"news", "world"⟩)).map
      (fun o => o.conditions.map (·.kind)) = some [.added, .updated] := by
    decide +kernel
  obtain ⟨o, stored, kinds⟩ := Option.map_eq_some_iff.mp written
  obtain ⟨shape, last, -⟩ := History.conditions_remember built_newsroom untold history stored
  have reason : (lastOutcome? (.hotNews ⟨"news", "world"⟩) eventful.past).map Finding.reason =
      some "UpdateStatusFailed" := by
    decide +kernel
  refine ⟨built_newsroom, untold, history, o, stored, kinds, shape, ?_⟩
  rw [← reason, ← last, Option.map_map]
  rfl

end Diary

end FeedOperator
