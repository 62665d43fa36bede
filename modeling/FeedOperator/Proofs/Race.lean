import FeedOperator.Proofs.Reconcile.Calls
import FeedOperator.Proofs.Reconcile.Owners
import FeedOperator.Rehearsal

/-!
# Registrations that are overtaken

Passes over one Source and edits of its owners run at the same time, so that any call of one can
fall between two calls of another. The id of a new record is written after the service gave it, and
that write is checked against the version that the pass has seen. An edit in between makes it fail,
and the next pass registers the Source once more.

* `Race`: a store, the pass under way and the edits under way; one pass at a time.
* `Race.step`: one choice of who goes on. `Race.moves`: the calls that a schedule makes.
* `Watch`: counts the registrations, and those of them that an edit overtook, from the calls alone.

Results:
* `registers_once_more`: at most one registration more than were overtaken, for every schedule.
* `registered_twice`: a schedule with two registrations.

Nothing is said about Sources that are marked for deletion, about failures of the store, or about
requests to register that fail.
-/

namespace FeedOperator

/-! ## Schedules -/

/-- An edit of owners, as linking and unlinking make it. -/
inductive OwnerEdit where
  | add (owner : OwnerReference)
  | remove (uid : String)

/-- The edit that is made of each read. -/
def OwnerEdit.apply : OwnerEdit → SourceEdit
  | .add owner => (Source.addOwner · owner)
  | .remove uid => (Source.removeOwner · uid)

/-- A pass and edits on one Source that are under way. A pass that is done is not under way. -/
structure Race where
  store : Store
  pass : Pass (Except SourceError Action) := .done (.ok .awaitChange)
  edits : List (Pass (Except StoreError Bool)) := []

/-- What comes next. -/
inductive Choice where
  /-- A pass starts, unless one is under way. -/
  | startPass (now : String) (given : Source)
  /-- An edit starts. -/
  | startEdit (edit : OwnerEdit)
  /-- The pass makes its next call, to which the service answers in this way. -/
  | pass (service : (c : ServiceCall) → c.Answer)
  /-- One of the edits makes its next call. -/
  | edit (i : Nat)

/-- A call, and whether the pass or an edit has made it. -/
inductive Move where
  | pass (e : Event)
  | edit (e : Event)

namespace Race

variable (key : ObjectKey)

/-- What becomes of a race by one choice, and the call that was made. -/
def step (r : Race) : Choice → Race × List Move
  | .startPass now given =>
    match r.pass with
    | .done _ =>
      if given.metadata.ns = some key.ns ∧ given.metadata.name = some key.name then
        ({ r with pass := (Source.reconcile now given).pass }, [])
      else (r, [])
    | .ask _ _ => (r, [])
  | .startEdit edit =>
    ({ r with edits := r.edits ++ [(editSource key.ns key.name edit.apply).run] }, [])
  | .pass service =>
    match r.pass.advance service r.store with
    | none => (r, [])
    | some (e, rest, store) => ({ r with store := store, pass := rest }, [.pass e])
  | .edit i =>
    match r.edits[i]? with
    | none => (r, [])
    | some edit =>
      match edit.advance (fun _ => .error (.transport "")) r.store with
      | none => (r, [])
      | some (e, rest, store) =>
        ({ r with store := store, edits := r.edits.set i rest }, [.edit e])

/-- What becomes of a race by a schedule, and the calls that were made. -/
def play (r : Race) : List Choice → Race × List Move
  | [] => (r, [])
  | choice :: rest =>
    let (r, moves) := r.step key choice
    let (r, more) := r.play rest
    (r, moves ++ more)

end Race

/-! ## Counting -/

/-- What the calls so far tell. -/
structure Watch where
  /-- Requests to register. -/
  registrations : Nat := 0
  /-- Registrations of which the id was to be written after an edit went through. -/
  overtaken : Nat := 0
  /-- Whether the id of a registration is still to be written. -/
  pending : Bool := false
  /-- Whether an edit went through since the pass has last read or written the Source. -/
  behind : Bool := false

namespace Watch

/-- One call of the pass. -/
def seePass (w : Watch) : Event → Watch
  | ⟨.store (.getSource _ _), _⟩ => { w with behind := false }
  | ⟨.store (.replaceSource _), .ok _⟩ => { w with behind := false }
  | ⟨.service (.create _), _⟩ =>
    { w with registrations := w.registrations + 1, pending := true }
  | ⟨.store (.replaceSourceStatus _), _⟩ =>
    { w with
      overtaken := if w.pending && w.behind then w.overtaken + 1 else w.overtaken
      pending := false }
  | _ => w

/-- One call of an edit. -/
def seeEdit (w : Watch) : Event → Watch
  | ⟨.store (.replaceSource _), .ok _⟩ => { w with behind := true }
  | _ => w

/-- One call. -/
def see (w : Watch) : Move → Watch
  | .pass e => w.seePass e
  | .edit e => w.seeEdit e

/-- All calls in order. -/
def all (moves : List Move) : Watch :=
  moves.foldl see {}

end Watch

/-! ## What a pass and an edit are about to do -/

/-- A service that registers whatever it is asked to, under an id other than zero. -/
def Registers (service : (c : ServiceCall) → c.Answer) : Prop :=
  ∀ spec, ∃ id, id ≠ 0 ∧ service (.create spec) = .ok id

/-- The registrations are accounted for by those that were overtaken and by a stored id. -/
def Watch.Covers (w : Watch) (a : Source) : Prop :=
  w.registrations ≤ w.overtaken ∨ w.registrations ≤ w.overtaken + 1 ∧ a.externalId ≠ 0

/-- What a pass is about to do while a Source is stored. From the finalizer on the pass knows the
stored id, and it knows the stored version unless it is behind. -/
inductive Attends (key : ObjectKey) (a : Source) (w : Watch) :
    Pass (Except SourceError Action) → Prop
  | ended (r : Except SourceError Action) (settled : w.pending = false) (covers : w.Covers a) :
    Attends key a w (.done r)
  | start (now : String) (given : Source) (hns : given.metadata.ns = some key.ns)
    (hname : given.metadata.name = some key.name) (settled : w.pending = false)
    (covers : w.Covers a) : Attends key a w (Source.reconcile now given).pass
  | hold (now : String) (source : Source) (hkey : source.key = key)
    (live : source.metadata.isDeleted = false)
    (free : source.metadata.hasFinalizer Source.finalizer = false) (settled : w.pending = false)
    (covers : w.Covers a) : Attends key a w (Source.hold now source).run
  | tend (now : String) (mine : Source) (hkey : mine.key = key)
    (known : mine.externalId = a.externalId)
    (current : w.behind = false → a.metadata.resourceVersion = mine.metadata.resourceVersion)
    (settled : w.pending = false) (covers : w.Covers a) :
    Attends key a w (Source.tend now mine).run
  | report (new : Source) (next : Except StoreError Source → Pass (Except SourceError Action))
    (hkey : new.key = key) (identified : new.externalId ≠ 0)
    (current : w.behind = false → a.metadata.resourceVersion = new.metadata.resourceVersion)
    (bound : w.registrations ≤ w.overtaken + 1) (awaited : w.pending = true ∨ w.Covers a)
    (last : ∀ answer, ∃ r, next answer = .done r) :
    Attends key a w (.ask (.store (.replaceSourceStatus new)) next)

/-- What an edit is about to do: it writes what it has read but for the owners. -/
inductive Edits (key : ObjectKey) : Pass (Except StoreError Bool) → Prop
  | ended (r : Except StoreError Bool) : Edits key (.done r)
  | reads (next : Except StoreError (Option Source) → Pass (Except StoreError Bool))
    (h : ∀ found, (∀ a, found = some a → a.key = key ∧ a.metadata.isDeleted = false) →
      Edits key (next (.ok found))) :
    Edits key (.ask (.store (.getSource key.ns key.name)) next)
  | writes (new : Source) (next : Except StoreError Source → Pass (Except StoreError Bool))
    (hkey : new.key = key) (live : new.metadata.isDeleted = false)
    (h : ∀ answer, Edits key (next answer)) :
    Edits key (.ask (.store (.replaceSource new)) next)

variable {key : ObjectKey} {a b : Source} {w : Watch} {s t : Store}

theorem OwnerEdit.relinked (edit : OwnerEdit) (a : Source) :
    ∃ uid new, a.Relinked uid new (edit.apply a).1 := by
  cases edit with
  | add owner => exact ⟨_, _, (addOwner_relinks owner).relinked a⟩
  | remove uid => exact ⟨_, _, (removeOwner_relinks uid).relinked a⟩

theorem edits_editSourceWithin (key : ObjectKey) (edit : OwnerEdit) (rounds : Nat) :
    Edits key (editSourceWithin key.ns key.name edit.apply rounds).run := by
  induction rounds with
  | zero => exact .ended _
  | succ rounds ih =>
    rw [run_editSourceWithin]
    refine .reads _ fun found hfound => ?_
    cases found with
    | none => exact .ended _
    | some source =>
      dsimp only
      obtain ⟨hkey, live⟩ := hfound source rfl
      obtain ⟨uid, new, hrel⟩ := edit.relinked source
      split
      · refine .writes _ _ (hrel.key_eq.trans hkey) ?_ fun answer => ?_
        · unfold Meta.isDeleted at *
          rwa [hrel.deletionTimestamp_eq]
        · cases answer with
          | ok => exact .ended _
          | error e =>
            dsimp only
            split
            · exact ih
            · exact .ended _
      · exact .ended _

/-! ## One call -/

theorem Watch.Covers.of_eq (h : w.Covers a) (hid : b.externalId = a.externalId) : w.Covers b := by
  unfold Covers at *
  rwa [hid]

theorem Watch.Covers.registrations_le (h : w.Covers a) : w.registrations ≤ w.overtaken + 1 :=
  h.elim Nat.le_succ_of_le And.left

/-- A write of an edit puts the pass behind, and takes nothing else from it. -/
theorem Attends.behind {p : Pass (Except SourceError Action)} (h : Attends key a w p)
    (hid : b.externalId = a.externalId) : Attends key b { w with behind := true } p := by
  cases h with
  | ended r settled covers => exact .ended r settled (covers.of_eq hid)
  | start now given hns hname settled covers =>
    exact .start now given hns hname settled (covers.of_eq hid)
  | hold now source hkey live free settled covers =>
    exact .hold now source hkey live free settled (covers.of_eq hid)
  | tend now mine hkey known _ settled covers =>
    exact .tend now mine hkey (known.trans hid.symm) (fun h => by cases h) settled
      (covers.of_eq hid)
  | report new next hkey identified _ bound awaited last =>
    exact .report new next hkey identified (fun h => by cases h) bound
      (awaited.imp_right fun h => h.of_eq hid) last

/-- What holds of the stored Source and of the pass. -/
structure Tracked (key : ObjectKey) (s : Store) (w : Watch)
    (p : Pass (Except SourceError Action)) (a : Source) : Prop where
  stored : s.sources.get? key = some a
  live : a.metadata.isDeleted = false
  attends : Attends key a w p

/-- A replace by someone who has read the Source while it was not marked for deletion. -/
theorem replace_cases {new : Source} (stored : s.sources.get? key = some a) (hkey : new.key = key)
    (live : new.metadata.isDeleted = false) :
    (∃ e, (s.replaceSource new).1 = .error e ∧
      (s.replaceSource new).2.sources.get? key = some a) ∨
    ∃ version, (s.replaceSource new).1 = .ok (new.inPlaceOf a version) ∧
      (s.replaceSource new).2.sources.get? key = some (new.inPlaceOf a version) := by
  subst hkey
  rcases s.replaceSource_cases new with ⟨e, he, hsame⟩ | ⟨old, written, hw, hreplaced, -⟩
  · exact .inl ⟨e, he, by rw [hsame.sources, stored]⟩
  · obtain ⟨version, rfl⟩ := hreplaced.written_eq
    obtain rfl := hreplaced.stored_eq stored
    refine .inr ⟨version, hw, hreplaced.get?_self ?_⟩
    unfold Meta.isReleased
    rw [live]
    rfl

/-- **One call of an edit.** It leaves the stored id alone, and what the pass knows stays true. -/
theorem Tracked.edit {p : Pass (Except SourceError Action)} {q rest : Pass (Except StoreError Bool)}
    {service : (c : ServiceCall) → c.Answer} {e : Event} (hs : s.Sound) (h : Tracked key s w p a)
    (hq : Edits key q) (hcall : q.advance service s = some (e, rest, t)) :
    Edits key rest ∧ ∃ b, Tracked key t (w.seeEdit e) p b := by
  cases hq with
  | ended => cases hcall
  | reads next hnext =>
    cases hcall
    refine ⟨hnext _ fun b hb => ?_, a, h.stored, h.live, h.attends⟩
    obtain rfl := Option.some.inj (h.stored.symm.trans hb)
    exact ⟨hs.source_key h.stored, h.live⟩
  | writes new next hkey live hnext =>
    cases hcall
    refine ⟨hnext _, ?_⟩
    change ∃ b, Tracked key (s.replaceSource new).2
      (w.seeEdit (.ofStore (.replaceSource new) (s.replaceSource new).1)) p b
    rcases replace_cases h.stored hkey live with ⟨e, he, hget⟩ | ⟨version, hok, hget⟩
    · rw [he]
      exact ⟨a, hget, h.live, h.attends⟩
    · rw [hok]
      exact ⟨_, hget, live, h.attends.behind rfl⟩

/-- A pass that has read the Source. -/
theorem attends_of_read (now : String) (hkey : a.key = key) (live : a.metadata.isDeleted = false)
    (settled : w.pending = false) (covers : w.Covers a) :
    Attends key a w (Source.hold now a).run := by
  cases hf : a.metadata.hasFinalizer Source.finalizer with
  | true =>
    rw [Source.run_hold, if_pos hf]
    exact .tend now a hkey rfl (fun _ => rfl) settled covers
  | false => exact .hold now a hkey live hf settled covers

/-- The write that ends a pass: it goes through, or the pass was behind, or nothing was pending. -/
theorem tracked_of_report {new : Source} {rest : Pass (Except SourceError Action)}
    (stored : s.sources.get? key = some a) (calm : s.Calm) (live : a.metadata.isDeleted = false)
    (hkey : new.key = key) (identified : new.externalId ≠ 0)
    (current : w.behind = false → a.metadata.resourceVersion = new.metadata.resourceVersion)
    (bound : w.registrations ≤ w.overtaken + 1) (awaited : w.pending = true ∨ w.Covers a)
    (last : ∃ r, rest = .done r) :
    ∃ b, Tracked key (s.replaceSourceStatus new).2
      (w.seePass (.ofStore (.replaceSourceStatus new) (s.replaceSourceStatus new).1)) rest b := by
  subst hkey
  obtain ⟨r, rfl⟩ := last
  change ∃ b, Tracked new.key (s.replaceSourceStatus new).2
    { w with
      overtaken := if w.pending && w.behind then w.overtaken + 1 else w.overtaken
      pending := false } (.done r) b
  rcases s.replaceSourceStatus_cases new with ⟨e, he, hsame⟩ | ⟨old, written, -, hw, -⟩
  · refine ⟨a, by rw [hsame.sources, stored], live, .ended r rfl ?_⟩
    cases hb : w.behind with
    | false =>
      obtain ⟨written, hok, -⟩ :=
        Store.replaceSourceStatus_of_current calm.failStatusWrites stored (current hb)
      rw [he] at hok
      cases hok
    | true =>
      cases hp : w.pending with
      | true => exact .inl bound
      | false =>
        rcases awaited with hpending | hcovers
        · rw [hp] at hpending
          cases hpending
        · exact hcovers
  · obtain ⟨version, rfl⟩ := hw.written_eq
    obtain rfl := hw.stored_eq stored
    refine ⟨_, hw.get?_self, live, .ended r rfl (.inr ⟨bound.trans ?_, identified⟩)⟩
    dsimp only
    split
    · exact Nat.le_succ _
    · exact Nat.le_refl _

/-- **One call of the pass.** A registration is counted when it is made, and its write either stores
the id or was overtaken. -/
theorem Tracked.pass {p rest : Pass (Except SourceError Action)}
    {service : (c : ServiceCall) → c.Answer} {e : Event} (hs : s.Sound) (calm : s.Calm)
    (registers : Registers service) (h : Tracked key s w p a)
    (hcall : p.advance service s = some (e, rest, t)) :
    ∃ b, Tracked key t (w.seePass e) rest b := by
  obtain ⟨stored, live, attends⟩ := h
  cases attends with
  | ended => cases hcall
  | start now given hns hname settled covers =>
    rw [Source.run_reconcile hns hname] at hcall
    cases hcall
    have hget : s.sources.get? ⟨key.ns, key.name⟩ = some a := stored
    simp only [Store.answer, hget, live, Bool.false_eq_true, if_false]
    exact ⟨a, stored, live,
      attends_of_read (w := { w with behind := false }) now (hs.source_key stored) live settled
        covers⟩
  | hold now source hkey slive free settled covers =>
    rw [Source.run_hold, if_neg (by simp [free])] at hcall
    cases hcall
    have hheld := (source.refinalized_heldBy Source.finalizer).kept
    simp only [Store.answer]
    rcases replace_cases stored (hheld.key_eq.trans hkey) (hheld.isDeleted_eq.trans slive) with
      ⟨e, he, hget⟩ | ⟨version, hok, hget⟩
    · rw [he]
      exact ⟨a, hget, live, .ended _ settled covers⟩
    · rw [hok]
      have hkey' : (source.held.inPlaceOf a version).key = key := hheld.key_eq.trans hkey
      exact ⟨_, hget, hheld.isDeleted_eq.trans slive,
        .tend now _ hkey' rfl (fun _ => rfl) settled (covers.of_eq rfl)⟩
  | tend now mine hkey known current settled covers =>
    rw [Source.run_tend] at hcall
    split at hcall
    · next hfresh =>
      cases hcall
      obtain ⟨id, hid, hanswer⟩ := registers mine.spec
      rw [hanswer]
      have hnone : w.registrations ≤ w.overtaken :=
        covers.resolve_right fun h => h.2 (known.symm.trans hfresh)
      exact ⟨a, stored, live, .report _ _ hkey hid current (Nat.succ_le_succ hnone) (.inl rfl)
        fun answer => ⟨_, rfl⟩⟩
    · next hknown =>
      cases hcall
      refine ⟨a, stored, live, .report _ _ ?_ ?_ ?_ covers.registrations_le (.inr covers)
        fun answer => ⟨_, rfl⟩⟩
      · exact (Source.key_updated ..).trans hkey
      · rwa [Source.externalId_updated]
      · rwa [Source.metadata_updated]
  | report new next hkey identified current bound awaited last =>
    cases hcall
    exact tracked_of_report stored calm live hkey identified current bound awaited (last _)

/-! ## Whole schedules -/

/-- What every choice keeps. -/
structure Race.Followed (key : ObjectKey) (r : Race) (w : Watch) : Prop where
  sound : r.store.Sound
  calm : r.store.Calm
  tracked : ∃ a, Tracked key r.store w r.pass a
  edits : ∀ edit ∈ r.edits, Edits key edit

/-- A pass that is done awaits no id. -/
theorem Attends.of_done {r : Except SourceError Action} (h : Attends key a w (.done r)) :
    w.pending = false ∧ w.Covers a := by
  generalize hp : (Pass.done r : Pass (Except SourceError Action)) = p at h
  cases h with
  | ended r settled covers => exact ⟨settled, covers⟩
  | start now given hns hname settled covers => exact ⟨settled, covers⟩
  | hold now source hkey live free settled covers => exact ⟨settled, covers⟩
  | tend now mine hkey known current settled covers => exact ⟨settled, covers⟩
  | report => cases hp

/-- What a choice keeps; of the service it matters only if the pass goes on. -/
theorem followed_step {r : Race} {choice : Choice} (h : r.Followed key w)
    (registers : ∀ service, choice = .pass service → Registers service) :
    (r.step key choice).1.Followed key ((r.step key choice).2.foldl Watch.see w) := by
  obtain ⟨sound, calm, ⟨a, tracked⟩, edits⟩ := h
  have keeps : ∀ s c, Store.Sound s ∧ s.Calm → (s.answer c).2.Sound ∧ (s.answer c).2.Calm :=
    fun s c hs => ⟨Store.sound_answer hs.1 c, hs.2.answer c⟩
  cases choice with
  | startPass now given =>
    dsimp only [Race.step]
    split
    · next done hdone =>
      split
      · next hgiven =>
        refine ⟨sound, calm, ⟨a, tracked.stored, tracked.live, ?_⟩, edits⟩
        have attends := tracked.attends
        rw [hdone] at attends
        obtain ⟨settled, covers⟩ := attends.of_done
        exact .start now given hgiven.1 hgiven.2 settled covers
      · exact ⟨sound, calm, ⟨a, tracked⟩, edits⟩
    · exact ⟨sound, calm, ⟨a, tracked⟩, edits⟩
  | startEdit edit =>
    refine ⟨sound, calm, ⟨a, tracked⟩, fun q hq => ?_⟩
    rcases List.mem_append.mp hq with hq | hq
    · exact edits q hq
    · obtain rfl := List.mem_singleton.mp hq
      exact edits_editSourceWithin key edit maxEditRounds
  | pass service =>
    dsimp only [Race.step]
    cases hcall : r.pass.advance service r.store with
    | none => exact ⟨sound, calm, ⟨a, tracked⟩, edits⟩
    | some moved =>
      obtain ⟨e, rest, t⟩ := moved
      obtain ⟨sound', calm'⟩ := Pass.advance_preserves keeps hcall ⟨sound, calm⟩
      exact ⟨sound', calm', tracked.pass sound calm (registers service rfl) hcall, edits⟩
  | edit i =>
    dsimp only [Race.step]
    cases hq : r.edits[i]? with
    | none => exact ⟨sound, calm, ⟨a, tracked⟩, edits⟩
    | some q =>
      dsimp only
      cases hcall : q.advance (fun _ => .error (.transport "")) r.store with
      | none => exact ⟨sound, calm, ⟨a, tracked⟩, edits⟩
      | some moved =>
        obtain ⟨e, rest, t⟩ := moved
        obtain ⟨hrest, htracked⟩ := tracked.edit sound (edits q (List.mem_of_getElem? hq)) hcall
        obtain ⟨sound', calm'⟩ := Pass.advance_preserves keeps hcall ⟨sound, calm⟩
        refine ⟨sound', calm', htracked, fun q' hq' => ?_⟩
        rcases List.mem_or_eq_of_mem_set hq' with hq' | rfl
        · exact edits q' hq'
        · exact hrest

/-- What a schedule keeps. -/
theorem followed_play {r : Race} {schedule : List Choice} (h : r.Followed key w)
    (registers : ∀ service, .pass service ∈ schedule → Registers service) :
    (r.play key schedule).1.Followed key ((r.play key schedule).2.foldl Watch.see w) := by
  induction schedule generalizing r w with
  | nil => exact h
  | cons choice rest ih =>
    have hstep := followed_step h fun service heq =>
      registers service (heq ▸ List.mem_cons_self)
    have hrest := ih hstep fun service hmem => registers service (List.mem_cons_of_mem _ hmem)
    dsimp only [Race.play]
    rwa [List.foldl_append]

/-- A pass has asked for at most one registration more than were overtaken. -/
theorem Attends.registrations_le {p : Pass (Except SourceError Action)} (h : Attends key a w p) :
    w.registrations ≤ w.overtaken + 1 := by
  cases h with
  | ended r settled covers => exact covers.registrations_le
  | start now given hns hname settled covers => exact covers.registrations_le
  | hold now source hkey live free settled covers => exact covers.registrations_le
  | tend now mine hkey known current settled covers => exact covers.registrations_le
  | report new next hkey identified current bound awaited last => exact bound

/-- **Each registration but one was overtaken**, whatever the order of the single calls of the
passes over a Source and of the edits of its owners, as long as the service registers what it is
asked to. -/
theorem registers_once_more (built : s.Built) (calm : s.Calm)
    (stored : s.sources.get? key = some a) (live : a.metadata.isDeleted = false)
    (schedule : List Choice) (registers : ∀ service, .pass service ∈ schedule → Registers service) :
    (Watch.all (({ store := s } : Race).play key schedule).2).registrations ≤
      (Watch.all (({ store := s } : Race).play key schedule).2).overtaken + 1 := by
  have start : ({ store := s } : Race).Followed key {} :=
    ⟨built.sound, calm, ⟨a, stored, live, .ended _ rfl (.inl (Nat.le_refl _))⟩,
      fun _ hmem => nomatch hmem⟩
  obtain ⟨b, tracked⟩ := (followed_play start registers).tracked
  exact tracked.attends.registrations_le

/-! ## A registration that is overtaken -/

/-- A Source before any pass. -/
def contested : Source :=
  { metadata := { name := some "bbc", ns := some "news" }
    spec := { name := "BBC", link := "https://bbc.example", shortName := "bbc" } }

/-- A service that registers all under one id. -/
def registrar (id : Int64) : (c : ServiceCall) → c.Answer :=
  Rehearsal.reply (fun _ => "") (.registered id)

theorem registers_registrar {id : Int64} (h : id ≠ 0) : Registers (registrar id) :=
  fun _ => ⟨id, h, rfl⟩

/-- A HotNews that names the Source is linked between the registration and the write of its id, and
the next pass registers the Source again. -/
def overtaking : List Choice :=
  [.startPass "now" contested,
    .startEdit (.add
      ⟨HotNews.type.apiVersion, HotNews.type.kind, "world", "uid-world", none, none⟩),
    .pass (registrar 5), .pass (registrar 5), .edit 0, .pass (registrar 5), .edit 0,
    .pass (registrar 5), .startPass "now" contested, .pass (registrar 6), .pass (registrar 6),
    .pass (registrar 6)]

theorem registers_overtaking (service : (c : ServiceCall) → c.Answer)
    (h : .pass service ∈ overtaking) : Registers service := by
  simp only [overtaking, List.mem_cons, List.not_mem_nil, or_false, Choice.pass.injEq, reduceCtorEq,
    false_or] at h
  rcases h with rfl | rfl | rfl | rfl | rfl | rfl | rfl <;> exact registers_registrar (by decide)

/-- The second registration is the one that `registers_once_more` allows. -/
theorem overtaking_registers_once_more :
    ∃ s a, s.Built ∧ s.Calm ∧ s.sources.get? ⟨"news", "bbc"⟩ = some a ∧
      (∀ service, .pass service ∈ overtaking → Registers service) ∧
      (Watch.all (({ store := s } : Race).play ⟨"news", "bbc"⟩ overtaking).2).registrations ≤
        (Watch.all (({ store := s } : Race).play ⟨"news", "bbc"⟩ overtaking).2).overtaken + 1 := by
  have built : (Store.insert {} (.source contested)).Built := Store.Built.empty.insert _
  have calm : (Store.insert {} (.source contested)).Calm := ⟨rfl, rfl, rfl⟩
  exact ⟨_, _, built, calm, rfl, registers_overtaking,
    registers_once_more built calm rfl rfl overtaking registers_overtaking⟩

/-- **A Source is registered twice.** No failure of the store or of the service is involved. -/
theorem registered_twice :
    ¬ ∀ (key : ObjectKey) (s : Store) (a : Source), s.Built → s.Calm →
      s.sources.get? key = some a → a.metadata.isDeleted = false →
      ∀ schedule : List Choice, (∀ service, .pass service ∈ schedule → Registers service) →
        (Watch.all (({ store := s } : Race).play key schedule).2).registrations ≤ 1 := by
  intro h
  have once := h ⟨"news", "bbc"⟩ (Store.insert {} (.source contested)) _
    (Store.Built.empty.insert _) ⟨rfl, rfl, rfl⟩ rfl rfl overtaking registers_overtaking
  exact absurd once (by decide +kernel)

end FeedOperator
