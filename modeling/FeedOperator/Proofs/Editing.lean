import FeedOperator.Proofs.Race
import FeedOperator.Proofs.Store.Version

/-!
# Edits amid other writers

An edit of owners reads a Source and replaces it, and between the two anyone else may write it. The
replace carries the version that was read, and the store takes it only if that is still the stored
one, so what it writes is made of what is stored.

* `Pass.amid`: a pass, with what others do to the store before each of its calls.
* `Account`: the calls of such a run, each with the store before and after it, and the result.
* `Store.Disturbed`, `Undisplacing`: what others may do. They leave the Source in its place and do
  not ask for its deletion; all else is theirs, conflicts that are injected among it.
* `SourceEdit.Rounds`: how an edit ends, round by round.
* `SourceEdit.LosesNothing`: what the rounds say about the calls and the result.

Results:
* `disturbed_replaceSource`, `disturbed_replaceSourceStatus`, `undisplacing_doing`: others may make
  any replaces and writes of the status, if what they store is not to go.
* `replaceSource_of_read`: a replace after a read is refused, or the Source is still what was read.
* `rounds_of_amid`: every run of an edit goes through its rounds like that.
* `edit_loses_nothing`: an edit of owners loses no update.

Others that let the Source go meanwhile are out of scope here.
-/

namespace FeedOperator

/-! ## Runs amid others -/

/-- A call with its answer, and the store before and after it. -/
structure Moment where
  before : Store
  event : Event
  after : Store

/-- What a run tells: its calls in order, and its result. -/
structure Account (α : Type) where
  moments : List Moment
  result : α

/-- What a run tells that begins with a call. -/
def Account.after {α : Type} (rest : Account α) (m : Moment) : Account α :=
  ⟨m :: rest.moments, rest.result⟩

/-- What others do to the store before the first call of a pass, before the second one, and so
on. -/
abbrev Others := Nat → Store → Store

/-- Runs a pass amid others. -/
def Pass.amid {α : Type} (service : (c : ServiceCall) → c.Answer) :
    Pass α → Others → Store → Account α
  | .done a, _, _ => ⟨[], a⟩
  | .ask (.store c) next, others, s =>
    let t := others 0 s
    ((next (t.answer c).1).amid service (fun i => others (i + 1)) (t.answer c).2).after
      ⟨t, .ofStore c (t.answer c).1, (t.answer c).2⟩
  | .ask (.service c) next, others, s =>
    let t := others 0 s
    ((next (service c)).amid service (fun i => others (i + 1)) t).after
      ⟨t, .ofService c (service c), t⟩

/-- What a call is to an edit. -/
inductive Event.Kind where
  /-- A read of a Source. -/
  | read
  /-- A replace of a Source that went through. -/
  | written
  /-- A replace of a Source that was refused. -/
  | refused
  /-- Any other call. -/
  | other
  deriving DecidableEq

def Event.kind : Event → Event.Kind
  | ⟨.store (.getSource _ _), _⟩ => .read
  | ⟨.store (.replaceSource _), .ok _⟩ => .written
  | ⟨.store (.replaceSource _), .error _⟩ => .refused
  | _ => .other

namespace Account

variable {α : Type}

/-- How many calls of a run are of a kind. -/
def count (kind : Event.Kind) (run : Account α) : Nat :=
  run.moments.countP (·.event.kind = kind)

theorem result_after (rest : Account α) (m : Moment) : (rest.after m).result = rest.result := rfl

theorem mem_after {rest : Account α} {m m' : Moment} :
    m ∈ (rest.after m').moments ↔ m = m' ∨ m ∈ rest.moments :=
  List.mem_cons

theorem count_after (kind : Event.Kind) (rest : Account α) (m : Moment) :
    (rest.after m).count kind = rest.count kind + if m.event.kind = kind then 1 else 0 := by
  simp [count, after, List.countP_cons]

end Account

/-! ## What others may do -/

/-- Whether the Source under a key, if there is one, is not to go. -/
def Store.StaysAt (key : ObjectKey) (s : Store) : Prop :=
  ∀ a, s.sources.get? key = some a → ¬ a.IsLeaving

/-- One thing that others do: anything but a request to delete the Source, as long as that is there
afterwards and is not to go. -/
structure Store.Disturbed (key : ObjectKey) (s t : Store) : Prop where
  op : ∃ op, op ≠ .deleteSource key ∧ t = s.after op
  there : ∀ a, s.sources.get? key = some a → ∃ b, t.sources.get? key = some b
  stays : t.StaysAt key

/-- Others who, whenever it is their turn, do any number of such things. -/
def Undisplacing (key : ObjectKey) (others : Others) : Prop :=
  ∀ i s, s.Built → s.StaysAt key → Relation.ReflTransGen (Store.Disturbed key) s (others i s)

variable {key : ObjectKey} {edit : SourceEdit} {others : Others} {a b new : Source} {s t u : Store}

/-- What is known of a store after others have disturbed it. -/
structure Store.Lasting (key : ObjectKey) (s t : Store) : Prop where
  built : t.Built
  stays : t.StaysAt key
  onward : s.Onward key t
  there : ∀ a, s.sources.get? key = some a → ∃ b, t.sources.get? key = some b

theorem Store.lasting_of_disturbed (built : s.Built) (stays : s.StaysAt key)
    (h : Relation.ReflTransGen (Store.Disturbed key) s t) : s.Lasting key t := by
  induction h with
  | refl => exact ⟨built, stays, .refl key s, fun a ha => ⟨a, ha⟩⟩
  | tail _ step ih =>
    obtain ⟨⟨op, hop, rfl⟩, there, stays'⟩ := step
    refine ⟨ih.built.after op, stays', ih.onward.trans (.of_after hop), fun a ha => ?_⟩
    obtain ⟨b, hb⟩ := ih.there a ha
    exact there b hb

/-- What leaves the objects alone disturbs nothing. -/
theorem Store.disturbed_of_same {op : StoreOp} (hop : op ≠ .deleteSource key)
    (stays : s.StaysAt key) (same : s.SameObjects (s.after op)) : s.Disturbed key (s.after op) := by
  refine ⟨⟨op, hop, rfl⟩, fun a ha => ⟨a, ?_⟩, fun b hb => stays b ?_⟩
  · rwa [same.sources]
  · rwa [← same.sources]

/-- Others may replace any Source, if what they make of this one is not to go. -/
theorem Store.disturbed_replaceSource (stays : s.StaysAt key)
    (hnew : new.key = key → ¬ new.IsLeaving) :
    s.Disturbed key (s.after (.call (.replaceSource new))) := by
  rcases s.replaceSource_cases new with ⟨_, _, hsame⟩ | ⟨stored, written, _, hreplaced, _⟩
  · exact disturbed_of_same (by simp) stays hsame
  · by_cases hkey : key = new.key
    · subst hkey
      have hstays : new.metadata.isReleased = false := by
        simpa [Object.IsLeaving] using hnew rfl
      have hwritten := hreplaced.get?_self hstays
      refine ⟨⟨_, by simp, rfl⟩, fun a _ => ⟨written, hwritten⟩, fun b hb => ?_⟩
      obtain rfl := Option.some.inj (hwritten.symm.trans hb)
      obtain ⟨version, rfl⟩ := hreplaced.written_eq
      exact hnew rfl
    · have hsame := hreplaced.elsewhere hkey
      refine ⟨⟨_, by simp, rfl⟩, fun a ha => ⟨a, hsame.trans ha⟩, fun b hb => stays b ?_⟩
      exact hsame.symm.trans hb

/-- Others may write the status of any Source. -/
theorem Store.disturbed_replaceSourceStatus (stays : s.StaysAt key) (new : Source) :
    s.Disturbed key (s.after (.call (.replaceSourceStatus new))) := by
  rcases s.replaceSourceStatus_cases new with ⟨_, _, hsame⟩ | ⟨stored, written, _, hreplaced, _⟩
  · exact disturbed_of_same (by simp) stays hsame
  · by_cases hkey : key = new.key
    · subst hkey
      have hwritten := hreplaced.get?_self
      refine ⟨⟨_, by simp, rfl⟩, fun a _ => ⟨written, hwritten⟩, fun b hb => ?_⟩
      obtain rfl := Option.some.inj (hwritten.symm.trans hb)
      obtain ⟨version, rfl⟩ := hreplaced.written_eq
      exact stays stored hreplaced.found
    · have hsame := hreplaced.elsewhere hkey
      refine ⟨⟨_, by simp, rfl⟩, fun a ha => ⟨a, hsame.trans ha⟩, fun b hb => stays b ?_⟩
      exact hsame.symm.trans hb

/-- Others who do given things, one after another, whenever it is their turn. -/
def Others.doing (ops : Nat → List StoreOp) : Others :=
  fun i s => (ops i).foldl Store.after s

theorem undisplacing_doing {ops : Nat → List StoreOp}
    (h : ∀ i, ∀ op ∈ ops i, ∀ s : Store, s.StaysAt key → s.Disturbed key (s.after op)) :
    Undisplacing key (.doing ops) := by
  intro i s built stays
  have each := h i
  unfold Others.doing
  generalize ops i = more at each
  induction more generalizing s with
  | nil => exact .refl
  | cons op rest ih =>
    have first := each op List.mem_cons_self s stays
    exact .head first (ih (s.after op) (built.after op) first.stays
      fun o ho => each o (List.mem_cons_of_mem op ho))

theorem Undisplacing.shift (h : Undisplacing key others) (n : Nat) :
    Undisplacing key fun i => others (i + n) :=
  fun i => h (i + n)

theorem Undisplacing.lasting (h : Undisplacing key others) (i : Nat) (built : s.Built)
    (stays : s.StaysAt key) : s.Lasting key (others i s) :=
  Store.lasting_of_disturbed built stays (h i s built stays)

/-! ## Calls of an edit -/

/-- The same object at a version. -/
def Object.atVersion {σ τ : Type} (o : Object σ τ) (version : String) : Object σ τ :=
  { o with metadata := { o.metadata with resourceVersion := some version } }

namespace Moment

/-- A read of the Source under a key. -/
structure Finds (m : Moment) (key : ObjectKey) (found : Option Source) : Prop where
  event_eq : m.event = .ofStore (.getSource key.ns key.name) (.ok found)
  found_eq : m.before.sources.get? key = found
  after_eq : m.after = m.before

/-- A replace that put one Source in the place of another, at a new version. -/
structure Stores (m : Moment) (key : ObjectKey) (old new : Source) : Prop where
  event_eq : ∃ written, m.event = .ofStore (.replaceSource new) (.ok written)
  before_eq : m.before.sources.get? key = some old
  after_eq : ∃ version, m.after.sources.get? key = some (new.atVersion version) ∧
    ¬ m.before.Carries version

/-- A replace that met a conflict. -/
structure Refuses (m : Moment) (new : Source) (name : String) : Prop where
  event_eq : m.event = .ofStore (.replaceSource new) (.error (.conflict name))
  same : m.before.SameObjects m.after

variable {m : Moment} {found : Option Source} {old : Source} {name : String}

theorem Finds.kind_eq (h : m.Finds key found) : m.event.kind = .read := by
  rw [h.event_eq]
  rfl

theorem Stores.kind_eq (h : m.Stores key old new) : m.event.kind = .written := by
  obtain ⟨written, hevent⟩ := h.event_eq
  rw [hevent]
  rfl

theorem Refuses.kind_eq (h : m.Refuses new name) : m.event.kind = .refused := by
  rw [h.event_eq]
  rfl

/-- A read after which there is nothing to do. -/
def Idle (m : Moment) (key : ObjectKey) (edit : SourceEdit) : Prop :=
  ∃ found, m.Finds key found ∧ ∀ a, found = some a → (edit a).2 = false

theorem Finds.idle_iff (h : m.Finds key found) :
    m.Idle key edit ↔ ∀ a, found = some a → (edit a).2 = false := by
  constructor
  · rintro ⟨_, hfinds, hidle⟩
    rwa [← hfinds.found_eq, h.found_eq] at hidle
  · exact fun hidle => ⟨found, h, hidle⟩

theorem not_idle_of_kind (h : m.event.kind ≠ .read) : ¬ m.Idle key edit :=
  fun ⟨_, hfinds, _⟩ => h hfinds.kind_eq

theorem Stores.not_idle {k : ObjectKey} (h : m.Stores k old new) : ¬ m.Idle key edit :=
  not_idle_of_kind (h.kind_eq.trans_ne (by decide))

theorem Refuses.not_idle (h : m.Refuses new name) : ¬ m.Idle key edit :=
  not_idle_of_kind (h.kind_eq.trans_ne (by decide))

/-- A read does not change the store. -/
theorem Finds.same (h : m.Finds key found) : m.before.SameObjects m.after := by
  rw [h.after_eq]
  exact ⟨rfl, rfl, rfl⟩

end Moment

/-- A replace of a Source that is there and is not to go: it meets a conflict, or what is stored has
the version of the new one. -/
theorem Store.replaceSource_of_there (hkey : new.key = key) (hs : s.sources.get? key = some b)
    (stays : ¬ new.IsLeaving) :
    (∃ name, (s.replaceSource new).1 = .error (.conflict name) ∧
      s.SameObjects (s.replaceSource new).2) ∨
    b.metadata.resourceVersion = new.metadata.resourceVersion ∧
      (∃ written, (s.replaceSource new).1 = .ok written) ∧
      (s.replaceSource new).2.sources.get? key =
        some (new.inPlaceOf b (versionText (s.version + 1))) := by
  subst hkey
  by_cases calm : s.sourceConflicts = 0
  · by_cases hv : b.metadata.resourceVersion = new.metadata.resourceVersion
    · right
      simp only [replaceSource, calm, if_true]
      obtain ⟨hok, hreplaced⟩ := replaceIn_of_current (versionText (s.version + 1)) hs hv
      have hstays : new.metadata.isReleased = false := by
        simpa [Object.IsLeaving] using stays
      exact ⟨hv, ⟨_, hok⟩, hreplaced.get?_self hstays⟩
    · left
      rcases s.replaceSource_cases new with ⟨e, he, hsame⟩ | ⟨stored, _, _, hreplaced, -⟩
      · refine ⟨new.key.name, ?_, hsame⟩
        unfold Object.key at hs
        simp [replaceSource, calm, nextVersion, replaceIn, hs, hv, Object.key]
      · obtain rfl := hreplaced.stored_eq hs
        exact absurd hreplaced.current hv
  · left
    simp only [replaceSource, if_neg calm]
    exact ⟨_, rfl, rfl, rfl, rfl⟩

/-- **A replace after a read** is refused, or the Source is still what was read. -/
theorem replaceSource_of_read {uid : String} {owners : List OwnerReference}
    (relinks : edit.Relinks uid owners) (built : s.Built) (stays : s.StaysAt key)
    (read : s.sources.get? key = some a) (lasting : s.Lasting key t) :
    (∃ name, (t.replaceSource (edit a).1).1 = .error (.conflict name) ∧
      t.SameObjects (t.replaceSource (edit a).1).2) ∨
    (∃ written, (t.replaceSource (edit a).1).1 = .ok written) ∧
      t.sources.get? key = some a ∧ ∃ version,
        (t.replaceSource (edit a).1).2.sources.get? key = some ((edit a).1.atVersion version) ∧
          ¬ t.Carries version := by
  obtain ⟨b, hb⟩ := lasting.there a read
  have hrelinked := relinks.relinked a
  have hkey : (edit a).1.key = key := hrelinked.key_eq.trans (built.sound.sources.key_eq read)
  have hstays : ¬ (edit a).1.IsLeaving := fun h => stays a read (hrelinked.isLeaving_iff.mp h)
  rcases Store.replaceSource_of_there hkey hb hstays with hrefused | ⟨hversion, hok, hafter⟩
  · exact .inl hrefused
  · right
    -- The version of what was read is still stored, so nobody has written the Source meanwhile.
    have hba : b = a :=
      lasting.onward.eq_of_version_eq built.stamped read hb (hversion.trans (relinks.version_eq a))
    subst hba
    refine ⟨hok, hb, _, ?_, lasting.built.stamped.next_isNew⟩
    rw [hafter, Object.inPlaceOf, ← hrelinked.status_eq]
    rfl

/-! ## Rounds -/

/-- How an edit with so many rounds ends. -/
inductive SourceEdit.Rounds (key : ObjectKey) (edit : SourceEdit) :
    Nat → Account (Except StoreError Bool) → Prop
  /-- The Source is gone. -/
  | gone {rounds : Nat} {m : Moment} (finds : m.Finds key none) :
      Rounds key edit (rounds + 1) ⟨[m], .ok false⟩
  /-- There is nothing to change. -/
  | settled {rounds : Nat} {m : Moment} {a : Source} (finds : m.Finds key (some a))
      (nothing : (edit a).2 = false) : Rounds key edit (rounds + 1) ⟨[m], .ok false⟩
  /-- The edit is written. -/
  | written {rounds : Nat} {m m' : Moment} {a : Source} (finds : m.Finds key (some a))
      (changes : (edit a).2 = true) (stores : m'.Stores key a (edit a).1) :
      Rounds key edit (rounds + 1) ⟨[m, m'], .ok true⟩
  /-- The last round meets a conflict. -/
  | givenUp {m m' : Moment} {a : Source} {name : String} (finds : m.Finds key (some a))
      (changes : (edit a).2 = true) (refuses : m'.Refuses (edit a).1 name) :
      Rounds key edit 1 ⟨[m, m'], .error (.conflict name)⟩
  /-- A round meets a conflict, and there are more. -/
  | again {rounds : Nat} {m m' : Moment} {a : Source} {name : String}
      {rest : Account (Except StoreError Bool)} (finds : m.Finds key (some a))
      (changes : (edit a).2 = true) (refuses : m'.Refuses (edit a).1 name)
      (rest_of : Rounds key edit (rounds + 1) rest) :
      Rounds key edit (rounds + 2) ((rest.after m').after m)

/-- **Every run of an edit amid others** who let the Source stay goes through its rounds. -/
theorem rounds_of_amid {uid : String} {owners : List OwnerReference}
    (relinks : edit.Relinks uid owners) (service : (c : ServiceCall) → c.Answer) (rounds : Nat)
    (built : s.Built) (stays : s.StaysAt key) (undisplacing : Undisplacing key others) :
    edit.Rounds key (rounds + 1)
      ((editSourceWithin key.ns key.name edit (rounds + 1)).run.amid service others s) := by
  induction rounds using Nat.strongRecOn generalizing others s with
  | ind rounds ih =>
    have hread := undisplacing.lasting 0 built stays
    have hwrite := (undisplacing.shift 1).lasting 0 hread.built hread.stays
    rw [run_editSourceWithin]
    simp only [Pass.amid, Store.answer]
    generalize hfound : (others 0 s).sources.get? ⟨key.ns, key.name⟩ = found
    cases found with
    | none => exact .gone ⟨rfl, hfound, rfl⟩
    | some a =>
      dsimp only
      split
      · next changes =>
        have finds : Moment.Finds ⟨others 0 s,
            .ofStore (.getSource key.ns key.name) (.ok (some a)), others 0 s⟩ key (some a) :=
          ⟨rfl, hfound, rfl⟩
        simp only [Pass.amid, Store.answer]
        rcases replaceSource_of_read relinks hread.built hread.stays hfound hwrite with
          ⟨name, hconflict, hsame⟩ | ⟨⟨written, hok⟩, hbefore, hafter⟩
        · simp only [hconflict]
          cases rounds with
          | zero => exact .givenUp finds changes ⟨rfl, hsame⟩
          | succ rounds =>
            have built' := hwrite.built.after (.call (.replaceSource (edit a).1))
            have stays' : Store.StaysAt key ((others 1 (others 0 s)).replaceSource (edit a).1).2 :=
              fun b hb => hwrite.stays b (by rwa [← hsame.sources])
            exact .again finds changes ⟨rfl, hsame⟩
              (ih rounds (Nat.lt_succ_self rounds) built' stays' (undisplacing.shift 2))
        · simp only [hok]
          exact .written finds changes ⟨⟨written, rfl⟩, hbefore, hafter⟩
      · next nothing =>
        exact .settled ⟨rfl, hfound, rfl⟩ (Bool.eq_false_iff.mpr nothing)

namespace SourceEdit.Rounds

variable {rounds : Nat} {run : Account (Except StoreError Bool)}

/-- Each round reads once, and replaces at most once. -/
theorem count_le (h : edit.Rounds key rounds run) :
    run.count .read ≤ rounds ∧ run.count .written + run.count .refused ≤ run.count .read := by
  induction h with
  | gone finds | settled finds => simp [Account.count, finds.kind_eq]
  | written finds _ stores => simp [Account.count, finds.kind_eq, stores.kind_eq]
  | givenUp finds _ refuses => simp [Account.count, finds.kind_eq, refuses.kind_eq]
  | again finds _ refuses _ ih =>
    obtain ⟨hreads, hreplaces⟩ := ih
    simp only [Account.count_after, finds.kind_eq, refuses.kind_eq, reduceCtorEq, if_true, if_false]
    omega

theorem kind_ne_other (h : edit.Rounds key rounds run) :
    ∀ m ∈ run.moments, m.event.kind ≠ .other := by
  induction h with
  | gone finds | settled finds => simp [finds.kind_eq]
  | written finds _ stores => simp [finds.kind_eq, stores.kind_eq]
  | givenUp finds _ refuses => simp [finds.kind_eq, refuses.kind_eq]
  | again finds _ refuses _ ih => simpa [Account.mem_after, finds.kind_eq, refuses.kind_eq] using ih

/-- An edit was written iff a replace went through. -/
theorem ok_true_iff (h : edit.Rounds key rounds run) :
    run.result = .ok true ↔ ∃ m ∈ run.moments, m.event.kind = .written := by
  induction h with
  | gone finds | settled finds => simp [finds.kind_eq]
  | written finds _ stores => simp [finds.kind_eq, stores.kind_eq]
  | givenUp finds _ refuses => simp [finds.kind_eq, refuses.kind_eq]
  | again finds _ refuses _ ih =>
    simpa [Account.result_after, Account.mem_after, finds.kind_eq, refuses.kind_eq] using ih

/-- What went through is the edit of what was stored. -/
theorem stores_of_written (h : edit.Rounds key rounds run) :
    ∀ m ∈ run.moments, m.event.kind = .written →
      ∃ a, (edit a).2 = true ∧ m.Stores key a (edit a).1 := by
  induction h with
  | gone finds | settled finds => simp [finds.kind_eq]
  | written finds changes stores =>
    simpa [finds.kind_eq, stores.kind_eq] using ⟨_, changes, stores⟩
  | givenUp finds _ refuses => simp [finds.kind_eq, refuses.kind_eq]
  | again finds _ refuses _ ih => simpa [Account.mem_after, finds.kind_eq, refuses.kind_eq] using ih

/-- An edit was not needed iff a read found nothing to change. -/
theorem ok_false_iff (h : edit.Rounds key rounds run) :
    run.result = .ok false ↔ ∃ m ∈ run.moments, m.Idle key edit := by
  induction h with
  | gone finds => simp [finds.idle_iff]
  | settled finds nothing => simp [finds.idle_iff, nothing]
  | written finds changes stores => simp [finds.idle_iff, changes, stores.not_idle]
  | givenUp finds changes refuses => simp [finds.idle_iff, changes, refuses.not_idle]
  | again finds changes refuses _ ih =>
    simpa [Account.result_after, Account.mem_after, finds.idle_iff, changes, refuses.not_idle]
      using ih

/-- An edit fails only after so many conflicts, and then it has changed nothing. -/
theorem of_error (h : edit.Rounds key rounds run) {e : StoreError} (he : run.result = .error e) :
    e.isConflict = true ∧ run.count .refused = rounds ∧
      ∀ m ∈ run.moments, m.before.SameObjects m.after := by
  induction h with
  | gone | settled | written => cases he
  | givenUp finds _ refuses =>
    cases he
    refine ⟨rfl, ?_, ?_⟩
    · simp [Account.count, finds.kind_eq, refuses.kind_eq]
    · simp [finds.same, refuses.same]
  | again finds _ refuses _ ih =>
    obtain ⟨hconflict, hcount, hsame⟩ := ih he
    refine ⟨hconflict, ?_, ?_⟩
    · simp [Account.count_after, finds.kind_eq, refuses.kind_eq, hcount]
    · simpa [Account.mem_after, finds.same, refuses.same] using hsame

end SourceEdit.Rounds

/-- What an edit of so many rounds promises, whatever others do meanwhile. -/
structure SourceEdit.LosesNothing (key : ObjectKey) (edit : SourceEdit) (rounds : Nat)
    (run : Account (Except StoreError Bool)) : Prop where
  /-- It reads and replaces, and does nothing else. -/
  kinds : ∀ m ∈ run.moments, m.event.kind ≠ .other
  /-- Each round reads once. -/
  reads_le : run.count .read ≤ rounds
  /-- Each round replaces at most once. -/
  replaces_le : run.count .written + run.count .refused ≤ run.count .read
  /-- It says that the Source was written iff a replace went through. -/
  written_iff : run.result = .ok true ↔ ∃ m ∈ run.moments, m.event.kind = .written
  /-- What a replace stores is the edit of what was stored, at a version that nothing had. -/
  kept : ∀ m ∈ run.moments, m.event.kind = .written → ∃ a version,
    m.before.sources.get? key = some a ∧ (edit a).2 = true ∧
      m.after.sources.get? key = some ((edit a).1.atVersion version) ∧ ¬ m.before.Carries version
  /-- It says that there was nothing to do iff a read found that. -/
  idle_iff : run.result = .ok false ↔ ∃ m ∈ run.moments, m.Idle key edit
  /-- It fails with a conflict, after a conflict in every round, and has written nothing. -/
  givesUp : ∀ e, run.result = .error e → e.isConflict = true ∧ run.count .refused = rounds ∧
    ∀ m ∈ run.moments, m.before.SameObjects m.after

theorem OwnerEdit.relinks (edit : OwnerEdit) : ∃ uid owners, edit.apply.Relinks uid owners := by
  cases edit with
  | add owner => exact ⟨_, _, addOwner_relinks owner⟩
  | remove uid => exact ⟨_, _, removeOwner_relinks uid⟩

/-- **An edit of owners loses no update.** -/
theorem edit_loses_nothing (key : ObjectKey) (edit : OwnerEdit)
    (service : (c : ServiceCall) → c.Answer) (others : Others) {s : Store} (built : s.Built)
    (stays : s.StaysAt key) (undisplacing : Undisplacing key others) :
    edit.apply.LosesNothing key 5
      ((editSource key.ns key.name edit.apply).run.amid service others s) := by
  obtain ⟨uid, owners, relinks⟩ := edit.relinks
  have rounds := rounds_of_amid relinks service 4 built stays undisplacing
  exact
    { kinds := rounds.kind_ne_other
      reads_le := rounds.count_le.1
      replaces_le := rounds.count_le.2
      written_iff := rounds.ok_true_iff
      kept := fun m hm hwritten => by
        obtain ⟨a, changes, stores⟩ := rounds.stores_of_written m hm hwritten
        obtain ⟨version, hafter, hnew⟩ := stores.after_eq
        exact ⟨a, version, stores.before_eq, changes, hafter, hnew⟩
      idle_iff := rounds.ok_false_iff
      givesUp := fun e he => rounds.of_error he }

/-- A HotNews as an owner. -/
def newsOwner : OwnerReference :=
  ⟨HotNews.type.apiVersion, HotNews.type.kind, "world", "uid-world", none, none⟩

/-- Someone writes the status of a Source before the second call, and someone else replaces the
Source before the fourth one. -/
def meddling : Nat → List StoreOp
  | 1 => [.call (.replaceSourceStatus { contested with status := some {} })]
  | 3 => [.call (.replaceSource (contested.atVersion (Store.versionText 2)))]
  | _ => []

theorem undisplacing_meddling (key : ObjectKey) : Undisplacing key (.doing meddling) := by
  refine undisplacing_doing fun i op hop s stays => ?_
  unfold meddling at hop
  split at hop
  · obtain rfl := List.mem_singleton.mp hop
    exact Store.disturbed_replaceSourceStatus stays _
  · obtain rfl := List.mem_singleton.mp hop
    exact Store.disturbed_replaceSource stays fun _ => Bool.false_ne_true
  · cases hop

/-- Two replaces meet conflicts, and the third one keeps what the others have written. -/
theorem edit_loses_nothing_of_meddling :
    ∃ s : Store, s.Built ∧ s.StaysAt contested.key ∧ Undisplacing contested.key (.doing meddling) ∧
      (OwnerEdit.add newsOwner).apply.LosesNothing contested.key 5
        ((editSource contested.key.ns contested.key.name (OwnerEdit.add newsOwner).apply).run.amid
          (registrar 1) (.doing meddling) s) ∧
      ((editSource contested.key.ns contested.key.name (OwnerEdit.add newsOwner).apply).run.amid
          (registrar 1) (.doing meddling) s).moments.map (·.event.kind) =
        [.read, .refused, .read, .refused, .read, .written] := by
  have built : (Store.insert {} (.source contested)).Built := Store.Built.empty.insert _
  have stays : (Store.insert {} (.source contested)).StaysAt contested.key := by
    intro b hb
    obtain rfl := Option.some.inj hb
    exact Bool.false_ne_true
  have undisplacing := undisplacing_meddling contested.key
  exact ⟨_, built, stays, undisplacing,
    edit_loses_nothing contested.key (.add newsOwner) (registrar 1) (.doing meddling) built stays
      undisplacing, by decide +kernel⟩

end FeedOperator
