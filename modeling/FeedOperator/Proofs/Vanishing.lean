import FeedOperator.Proofs.Editing
import FeedOperator.Reconcile.HotNews

/-!
# Sources that vanish during an edit

An edit that reads no Source is over: there is nothing to do. But the Source can also go between the
read and the replace, and then the replace has nothing to replace. That is no conflict, so the edit
does not start again, it fails, and with it whatever the edit was part of.

* `Store.notFound`: what a replace answers that has nothing to replace.
* `Moment.Misses`: such a replace. A conflict that is due comes first, so none is.
* `SourceEdit.Turns`: how an edit ends, round by round, whatever others do meanwhile.
* `SourceEdit.Vanishing`: what the rounds say about a Source that is gone.
* `Pass.Breaks`: a pass that ends once a replace of a Source is refused without a conflict.

Results:
* `turns_of_amid`: every run of an edit goes through its rounds like that.
* `result_of_refused`: a replace that is refused without a conflict decides the result of a pass
  that breaks.
* `breaks_editSourceWithin`, `breaks_linkSources`, `breaks_unlinkSources`, `breaks_finalize`: edits,
  linking and the release of a HotNews break.
* `vanishing_source`: what becomes of an edit, of linking and of the release of a HotNews where a
  Source vanishes.
-/

namespace FeedOperator

/-- What a replace answers that has nothing to replace. -/
def Store.notFound : StoreError :=
  failed 404 "not found"

/-- A replace of the Source under a key that has nothing to replace. -/
structure Moment.Misses (m : Moment) (key : ObjectKey) : Prop where
  event_eq : ∃ new : Source, new.key = key ∧
    m.event = .ofStore (.replaceSource new) (.error Store.notFound)
  gone : m.before.sources.get? key = none
  calm : m.before.sourceConflicts = 0

/-- A replace that met a conflict, which a Source that is gone does only if one was due. -/
structure Moment.Conflicts (m : Moment) (key : ObjectKey) (name : String) : Prop where
  event_eq : ∃ new : Source, m.event = .ofStore (.replaceSource new) (.error (.conflict name))
  due : m.before.sources.get? key = none → m.before.sourceConflicts ≠ 0

variable {key : ObjectKey} {edit : SourceEdit} {others : Others} {s : Store}

/-! ## Rounds -/

/-- All that a replace can answer: a conflict, that there is nothing to replace, or what was
written. A Source that is gone meets a conflict only if one was due. -/
theorem Store.replaceSource_answers (s : Store) (new : Source) :
    (∃ name, (s.replaceSource new).1 = .error (.conflict name) ∧
      (s.sources.get? new.key = none → s.sourceConflicts ≠ 0)) ∨
    ((s.replaceSource new).1 = .error notFound ∧ s.sources.get? new.key = none ∧
      s.sourceConflicts = 0) ∨
    ∃ written b, (s.replaceSource new).1 = .ok written ∧ s.sources.get? new.key = some b := by
  by_cases calm : s.sourceConflicts = 0
  · simp only [replaceSource, calm, if_true, nextVersion, replaceIn]
    change _ ∨ (_ ∧ s.sources.get? (.ofMeta new.metadata) = none ∧ _) ∨
      ∃ written b, _ ∧ s.sources.get? (.ofMeta new.metadata) = some b
    cases found : s.sources.get? (.ofMeta new.metadata) with
    | none => exact .inr (.inl ⟨rfl, rfl, trivial⟩)
    | some b =>
      dsimp only
      split
      · exact .inl ⟨_, rfl, fun gone => absurd (found.symm.trans gone) (by simp)⟩
      · exact .inr (.inr ⟨_, b, rfl, rfl⟩)
  · simp only [replaceSource, if_neg calm]
    exact .inl ⟨_, rfl, fun _ => calm⟩

/-- How an edit with so many rounds ends, whatever others do meanwhile. -/
inductive SourceEdit.Turns (key : ObjectKey) (edit : SourceEdit) :
    Nat → Account (Except StoreError Bool) → Prop
  /-- The Source is gone before it is read. -/
  | gone {rounds : Nat} {m : Moment} (finds : m.Finds key none) :
      Turns key edit (rounds + 1) ⟨[m], .ok false⟩
  /-- There is nothing to change. -/
  | settled {rounds : Nat} {m : Moment} {a : Source} (finds : m.Finds key (some a))
      (nothing : (edit a).2 = false) : Turns key edit (rounds + 1) ⟨[m], .ok false⟩
  /-- Something is written in the place of the Source. -/
  | written {rounds : Nat} {m m' : Moment} {a b : Source} (finds : m.Finds key (some a))
      (changes : (edit a).2 = true) (writes : m'.event.kind = .written)
      (there : m'.before.sources.get? key = some b) :
      Turns key edit (rounds + 1) ⟨[m, m'], .ok true⟩
  /-- The Source is gone after it was read. -/
  | missed {rounds : Nat} {m m' : Moment} {a : Source} (finds : m.Finds key (some a))
      (changes : (edit a).2 = true) (misses : m'.Misses key) :
      Turns key edit (rounds + 1) ⟨[m, m'], .error Store.notFound⟩
  /-- The last round meets a conflict. -/
  | givenUp {m m' : Moment} {a : Source} {name : String} (finds : m.Finds key (some a))
      (changes : (edit a).2 = true) (refused : m'.Conflicts key name) :
      Turns key edit 1 ⟨[m, m'], .error (.conflict name)⟩
  /-- A round meets a conflict, and there are more. -/
  | again {rounds : Nat} {m m' : Moment} {a : Source} {name : String}
      {rest : Account (Except StoreError Bool)} (finds : m.Finds key (some a))
      (changes : (edit a).2 = true) (refused : m'.Conflicts key name)
      (rest_of : Turns key edit (rounds + 1) rest) :
      Turns key edit (rounds + 2) ((rest.after m').after m)

/-- **Every run of an edit amid others** who keep the store one that was built goes through its
rounds. -/
theorem turns_of_amid {uid : String} {owners : List OwnerReference}
    (relinks : edit.Relinks uid owners) (service : (c : ServiceCall) → c.Answer) (rounds : Nat)
    (built : s.Built) (keeps : ∀ i t, t.Built → (others i t).Built) :
    edit.Turns key (rounds + 1)
      ((editSourceWithin key.ns key.name edit (rounds + 1)).run.amid service others s) := by
  induction rounds using Nat.strongRecOn generalizing others s with
  | ind rounds ih =>
    have hread : (others 0 s).Built := keeps 0 s built
    have hwrite : (others 1 (others 0 s)).Built := keeps 1 _ hread
    rw [run_editSourceWithin]
    simp only [Pass.amid, Store.answer]
    generalize hfound : (others 0 s).sources.get? ⟨key.ns, key.name⟩ = found
    cases found with
    | none => exact .gone ⟨rfl, hfound, rfl⟩
    | some a =>
      have finds : Moment.Finds ⟨others 0 s,
          .ofStore (.getSource key.ns key.name) (.ok (some a)), others 0 s⟩ key (some a) :=
        ⟨rfl, hfound, rfl⟩
      have hkey : (edit a).1.key = key :=
        (relinks.relinked a).key_eq.trans (hread.sound.sources.key_eq hfound)
      dsimp only
      split
      · next changes =>
        simp only [Pass.amid, Store.answer]
        rcases (others 1 (others 0 s)).replaceSource_answers (edit a).1 with
          ⟨name, hconflict, due⟩ | ⟨hmissed, hgone, calm⟩ | ⟨written, b, hok, hthere⟩
        · have refused : Moment.Conflicts ⟨others 1 (others 0 s),
              .ofStore (.replaceSource (edit a).1) (.error (.conflict name)),
              ((others 1 (others 0 s)).replaceSource (edit a).1).2⟩ key name :=
            ⟨⟨_, rfl⟩, hkey ▸ due⟩
          simp only [hconflict]
          cases rounds with
          | zero => exact .givenUp finds changes refused
          | succ rounds =>
            exact .again finds changes refused (ih rounds (Nat.lt_succ_self rounds)
              (hwrite.after (.call (.replaceSource (edit a).1))) fun i => keeps (i + 2))
        · simp only [hmissed]
          exact .missed finds changes ⟨⟨_, hkey, rfl⟩, hkey ▸ hgone, calm⟩
        · simp only [hok]
          exact .written finds changes rfl (hkey ▸ hthere)
      · next nothing =>
        exact .settled finds (Bool.eq_false_iff.mpr nothing)

namespace Moment

variable {m : Moment} {name : String}

theorem Misses.kind_eq (h : m.Misses key) : m.event.kind = .refused := by
  obtain ⟨new, -, hevent⟩ := h.event_eq
  rw [hevent]
  rfl

theorem Conflicts.kind_eq (h : m.Conflicts key name) : m.event.kind = .refused := by
  obtain ⟨new, hevent⟩ := h.event_eq
  rw [hevent]
  rfl

theorem not_misses_of_kind (h : m.event.kind ≠ .refused) : ¬ m.Misses key :=
  fun misses => h misses.kind_eq

theorem Finds.not_misses {found : Option Source} (h : m.Finds key found) : ¬ m.Misses key :=
  not_misses_of_kind (h.kind_eq.trans_ne (by decide))

theorem Conflicts.not_misses (h : m.Conflicts key name) : ¬ m.Misses key := by
  rintro ⟨⟨new, -, hmissed⟩, -, -⟩
  obtain ⟨new', hconflict⟩ := h.event_eq
  cases hconflict.symm.trans hmissed

theorem Misses.not_idle (h : m.Misses key) : ¬ m.Idle key edit :=
  not_idle_of_kind (h.kind_eq.trans_ne (by decide))

theorem Conflicts.not_idle (h : m.Conflicts key name) : ¬ m.Idle key edit :=
  not_idle_of_kind (h.kind_eq.trans_ne (by decide))

end Moment

/-- What a call tells about the result of an edit if it is made while the Source is gone: it is a
read, after which there is nothing to do, or a replace, after which the edit has failed, unless a
conflict was due. -/
def Moment.WhileGone (m : Moment) (key : ObjectKey) (result : Except StoreError Bool) : Prop :=
  (m.Finds key none ∧ result = .ok false) ∨
  (m.Misses key ∧ result = .error Store.notFound) ∨
  (m.before.sourceConflicts ≠ 0 ∧ ∃ name, m.Conflicts key name)

/-- What becomes of an edit where the Source vanishes. -/
structure SourceEdit.Vanishing (key : ObjectKey) (edit : SourceEdit)
    (run : Account (Except StoreError Bool)) : Prop where
  /-- A call that is made while the Source is gone decides the result, unless a conflict was due. -/
  gone : ∀ m ∈ run.moments, m.before.sources.get? key = none → m.WhileGone key run.result
  /-- It says that there was nothing to do iff a read found no Source, or nothing to change. -/
  skipped_iff : run.result = .ok false ↔ ∃ m ∈ run.moments, m.Idle key edit
  /-- It says that nothing was found iff a replace had nothing to replace. -/
  failed_iff : run.result = .error Store.notFound ↔ ∃ m ∈ run.moments, m.Misses key
  /-- It fails with nothing else but a conflict. -/
  else_conflict : ∀ e, run.result = .error e → e = Store.notFound ∨ e.isConflict = true

namespace SourceEdit.Turns

variable {rounds : Nat} {run : Account (Except StoreError Bool)}

theorem gone_cases (h : edit.Turns key rounds run) :
    ∀ m ∈ run.moments, m.before.sources.get? key = none → m.WhileGone key run.result := by
  induction h with
  | gone finds => simp [Moment.WhileGone, finds]
  | settled finds nothing => simp [finds.found_eq]
  | written finds changes writes there => simp [finds.found_eq, there]
  | missed finds changes misses => simp [Moment.WhileGone, finds.found_eq, misses]
  | givenUp finds changes refused =>
    simp only [List.mem_cons, List.not_mem_nil, or_false]
    rintro m (rfl | rfl) gone
    · exact absurd (finds.found_eq.symm.trans gone) (by simp)
    · exact .inr (.inr ⟨refused.due gone, _, refused⟩)
  | again finds changes refused _ ih =>
    simp only [Account.mem_after, Account.result_after]
    rintro m (rfl | rfl | later) gone
    · exact absurd (finds.found_eq.symm.trans gone) (by simp)
    · exact .inr (.inr ⟨refused.due gone, _, refused⟩)
    · exact ih m later gone

theorem skipped_iff (h : edit.Turns key rounds run) :
    run.result = .ok false ↔ ∃ m ∈ run.moments, m.Idle key edit := by
  induction h with
  | gone finds => simp [finds.idle_iff]
  | settled finds nothing => simp [finds.idle_iff, nothing]
  | written finds changes writes _ =>
    simp [finds.idle_iff, changes, Moment.not_idle_of_kind (writes.trans_ne (by decide))]
  | missed finds changes misses => simp [finds.idle_iff, changes, misses.not_idle]
  | givenUp finds changes refused => simp [finds.idle_iff, changes, refused.not_idle]
  | again finds changes refused _ ih =>
    simpa [Account.result_after, Account.mem_after, finds.idle_iff, changes, refused.not_idle]
      using ih

theorem failed_iff (h : edit.Turns key rounds run) :
    run.result = .error Store.notFound ↔ ∃ m ∈ run.moments, m.Misses key := by
  induction h with
  | gone finds | settled finds => simp [finds.not_misses]
  | written finds changes writes _ =>
    simp [finds.not_misses, Moment.not_misses_of_kind (writes.trans_ne (by decide))]
  | missed finds changes misses => simp [misses]
  | givenUp finds changes refused =>
    simp [finds.not_misses, refused.not_misses, Store.notFound, Store.failed]
  | again finds changes refused _ ih =>
    simpa [Account.result_after, Account.mem_after, finds.not_misses, refused.not_misses] using ih

theorem else_conflict (h : edit.Turns key rounds run) :
    ∀ e, run.result = .error e → e = Store.notFound ∨ e.isConflict = true := by
  induction h with
  | gone | settled | written => exact fun _ he => nomatch he
  | missed => exact fun _ he => .inl (Except.error.inj he).symm
  | givenUp => rintro _ ⟨⟩; exact .inr rfl
  | again _ _ _ _ ih => exact ih

end SourceEdit.Turns

/-! ## Passes that break -/

namespace Pass

variable {α β : Type}

/-- Whether a replace of a Source that is refused without a conflict is the last call of a pass,
which then comes to a given result. -/
def Breaks (w : StoreError → α) : Pass α → Prop
  | .done _ => True
  | .ask c next => ∀ answer, (next answer).Breaks w ∧ ∀ new e,
      Event.mk c answer = .ofStore (.replaceSource new) (.error e) → e.isConflict = false →
        next answer = .done (w e)

variable {w : StoreError → α} {w' : StoreError → β}

theorem result_amid_of_done {p : Pass α} {a : α} (h : p = .done a)
    (service : (c : ServiceCall) → c.Answer) (others : Others) (s : Store) :
    (p.amid service others s).result = a := by
  rw [h]
  rfl

/-- **A replace that is refused without a conflict decides the result of a pass that breaks**,
whatever others do meanwhile. -/
theorem Breaks.result_of_refused {p : Pass α} (h : p.Breaks w)
    (service : (c : ServiceCall) → c.Answer) (others : Others) (s : Store) :
    ∀ m ∈ (p.amid service others s).moments, ∀ new e,
      m.event = .ofStore (.replaceSource new) (.error e) → e.isConflict = false →
        (p.amid service others s).result = w e := by
  induction p generalizing others s with
  | done a => exact fun m mem => nomatch mem
  | ask c next ih =>
    cases c with
    | store c =>
      intro m mem new e event notConflict
      rcases Account.mem_after.1 mem with rfl | later
      · exact result_amid_of_done ((h _).2 new e event notConflict) service _ _
      · exact ih _ (h _).1 _ _ m later new e event notConflict
    | service c =>
      intro m mem new e event notConflict
      rcases Account.mem_after.1 mem with rfl | later
      · cases congrArg Event.call event
      · exact ih _ (h _).1 _ _ m later new e event notConflict

/-- A call that replaces no Source breaks if what follows does. -/
theorem breaks_ask {c : Call} (other : ∀ new, c ≠ .store (.replaceSource new))
    {next : c.Answer → Pass α} (h : ∀ answer, (next answer).Breaks w) :
    (Pass.ask c next).Breaks w :=
  fun answer => ⟨h answer, fun new _ event _ => absurd (congrArg Event.call event) (other new)⟩

/-- Passes in a row break if both do, and the second has nothing to do where the first broke. -/
theorem Breaks.andThen {p : Pass α} {f : α → Pass β} (hp : p.Breaks w)
    (stops : ∀ e, e.isConflict = false → f (w e) = .done (w' e)) (hf : ∀ a, (f a).Breaks w') :
    (p.andThen f).Breaks w' := by
  induction p with
  | done a => exact hf a
  | ask c next ih =>
    refine fun answer => ⟨ih answer (hp answer).1, fun new e event notConflict => ?_⟩
    have done := (hp answer).2 new e event notConflict
    change (next answer).andThen f = _
    rw [done]
    exact stops e notConflict

end Pass

namespace Attempt

variable {ε α β : Type} {w : StoreError → ε}

/-- Whether an attempt breaks with an error. -/
def Breaks (w : StoreError → ε) (x : Attempt ε α) : Prop :=
  x.run.Breaks fun e => .error (w e)

theorem breaks_bind {x : Attempt ε α} {f : α → Attempt ε β} (hx : Breaks w x)
    (hf : ∀ a, Breaks w (f a)) : Breaks w (x >>= f) := by
  unfold Breaks
  rw [ExceptT.run_bind]
  refine Pass.Breaks.andThen hx (fun e _ => rfl) fun r => ?_
  cases r with
  | error e => exact trivial
  | ok a => exact hf a

/-- A call that replaces no Source breaks. -/
theorem breaks_store {onError : StoreError → ε} {c : StoreCall}
    (other : ∀ new, c ≠ .replaceSource new) : Breaks w (Attempt.store onError c) :=
  Pass.breaks_ask (fun new eq => other new (Call.store.inj eq)) fun _ => trivial

/-- A pass whose result is looked at breaks if it breaks itself, and what follows gives up. -/
theorem breaks_catch {p : Pass (Except StoreError α)} {f : Except StoreError α → Attempt ε β}
    (hp : p.Breaks .error) (stops : ∀ e, f (.error e) = throw (w e)) (hf : ∀ r, Breaks w (f r)) :
    Breaks w (Attempt.ofPass p >>= f) := by
  change ((p.andThen fun r => .done (Except.ok r : Except ε _)).andThen _).Breaks _
  rw [Pass.andThen_assoc]
  exact hp.andThen (fun e _ => congrArg ExceptT.run (stops e)) hf

end Attempt

theorem breaks_editSourceWithin (ns name : String) (edit : SourceEdit) (rounds : Nat) :
    Attempt.Breaks id (editSourceWithin ns name edit rounds) := by
  induction rounds with
  | zero => exact trivial
  | succ rounds ih =>
    unfold Attempt.Breaks
    rw [run_editSourceWithin]
    refine Pass.breaks_ask (by simp) fun found => ?_
    rcases found with e | _ | source
    · exact trivial
    · exact trivial
    · dsimp only
      split
      · intro answer
        cases answer with
        | ok => exact ⟨trivial, fun _ _ event => nomatch event⟩
        | error e =>
          dsimp only
          refine ⟨?_, fun new e' event notConflict => ?_⟩
          · split
            · exact ih
            · exact trivial
          · cases event
            rw [notConflict]
            rfl
      · exact trivial

section Linking

variable (ns : String)

theorem breaks_linkListed (owner : OwnerReference) (listed : List Source) (names : List String) :
    Attempt.Breaks id (linkListed ns owner listed names) := by
  induction names with
  | nil => exact trivial
  | cons shortName more ih =>
    have hrest : ∀ name,
        Attempt.Breaks id (do return name :: (← linkListed ns owner listed more)) := fun _ =>
      Attempt.breaks_bind ih fun _ => trivial
    unfold linkListed
    split
    · exact ih
    · split
      · exact ih
      · split
        · exact Attempt.breaks_bind (breaks_editSourceWithin ns _ _ _) fun _ => hrest _
        · exact hrest _

theorem breaks_linkSources (hotNews : HotNews) (names : List String) :
    Attempt.Breaks id (linkSources ns hotNews names) := by
  unfold linkSources
  split
  · exact trivial
  · exact Attempt.breaks_bind (Attempt.breaks_store (by simp)) fun _ => breaks_linkListed ns _ _ _

theorem breaks_unlinkListed (uid : String) (listed : List Source) :
    Attempt.Breaks id (unlinkListed ns uid listed) := by
  induction listed with
  | nil => exact trivial
  | cons source more ih =>
    unfold unlinkListed
    split
    · exact Attempt.breaks_bind (breaks_editSourceWithin ns _ _ _)
        fun _ => Attempt.breaks_bind ih fun _ => trivial
    · exact ih

theorem breaks_unlinkSources (uid : String) : Attempt.Breaks id (unlinkSources ns uid) :=
  Attempt.breaks_bind (Attempt.breaks_store (by simp)) fun _ => breaks_unlinkListed ns uid _

theorem breaks_finalize (hotNews : HotNews) :
    Attempt.Breaks HotNewsError.store hotNews.finalize := by
  unfold HotNews.finalize
  split
  · exact trivial
  cases hotNews.metadata.ns with
  | none => exact trivial
  | some ns =>
    have release : Attempt.Breaks HotNewsError.store (do
        let _ ← Attempt.store .store (.replaceHotNews { hotNews with
          metadata := (hotNews.metadata.removeFinalizer HotNews.finalizer).1 })
        return Action.awaitChange) :=
      Attempt.breaks_bind (Attempt.breaks_store (by simp)) fun _ => trivial
    cases hotNews.metadata.uid with
    | none => exact release
    | some uid =>
      refine Attempt.breaks_catch (breaks_unlinkSources ns uid) (fun _ => rfl) fun r => ?_
      cases r with
      | ok => exact release
      | error e => exact trivial

end Linking

/-! ## What becomes of it -/

/-- An attempt that breaks fails where a replace has nothing to replace. -/
theorem Attempt.Breaks.result_of_misses {ε α : Type} {w : StoreError → ε} {x : Attempt ε α}
    (h : x.Breaks w) {service : (c : ServiceCall) → c.Answer} {m : Moment}
    (mem : m ∈ (x.run.amid service others s).moments) (misses : m.Misses key) :
    (x.run.amid service others s).result = .error (w Store.notFound) := by
  obtain ⟨new, -, event⟩ := misses.event_eq
  exact Pass.Breaks.result_of_refused h service others s m mem new _ event rfl

/-- **What becomes of an edit where the Source vanishes.** If it is gone at the time of a read,
there is nothing to do. If it is gone at the time of a replace, the edit fails, and so does the
linking that it was part of, or the release of the HotNews. -/
theorem vanishing_source (key : ObjectKey) (edit : OwnerEdit)
    (service : (c : ServiceCall) → c.Answer) (others : Others) {s : Store} (built : s.Built)
    (keeps : ∀ i t, t.Built → (others i t).Built) :
    edit.apply.Vanishing key
      ((editSource key.ns key.name edit.apply).run.amid service others s) ∧
    (∀ ns hotNews names, ∀ m ∈ ((linkSources ns hotNews names).run.amid service others s).moments,
      ∀ k, m.Misses k → ((linkSources ns hotNews names).run.amid service others s).result =
        .error Store.notFound) ∧
    (∀ hotNews, ∀ m ∈ ((HotNews.finalize hotNews).run.amid service others s).moments,
      ∀ k, m.Misses k → ((HotNews.finalize hotNews).run.amid service others s).result =
        .error (.store Store.notFound)) := by
  obtain ⟨uid, owners, relinks⟩ := edit.relinks
  have turns : edit.apply.Turns key 5
      ((editSource key.ns key.name edit.apply).run.amid service others s) :=
    turns_of_amid relinks service 4 built keeps
  exact ⟨⟨turns.gone_cases, turns.skipped_iff, turns.failed_iff, turns.else_conflict⟩,
    fun ns hotNews names m mem k misses =>
      (breaks_linkSources ns hotNews names).result_of_misses mem misses,
    fun hotNews m mem k misses => (breaks_finalize hotNews).result_of_misses mem misses⟩

/-- A Source that is marked for deletion and held by its finalizer alone. -/
def departing : Source :=
  { contested with
    metadata := { contested.metadata with
      deletionTimestamp := some Store.deletionTime, finalizers := [Source.finalizer] } }

/-- Someone releases the Source before the second call. -/
def releasing : Others := fun i s =>
  match i, s.sources.get? contested.key with
  | 1, some a => s.after (.call (.replaceSource
      { a with metadata := (a.metadata.removeFinalizer Source.finalizer).1 }))
  | _, _ => s

theorem built_releasing (i : Nat) (t : Store) (built : t.Built) : (releasing i t).Built := by
  unfold releasing
  split
  · exact built.after _
  · exact built

/-- An edit of a Source that is released between its two calls. -/
def overtakenEdit : Account (Except StoreError Bool) :=
  (editSource contested.key.ns contested.key.name (OwnerEdit.add newsOwner).apply).run.amid
    (registrar 1) releasing (Store.insert {} (.source departing))

theorem built_departing : (Store.insert {} (.source departing)).Built :=
  Store.Built.empty.insert _

/-- The Source is read, released, and then there is nothing to replace. -/
theorem release_between_calls :
    (Store.insert {} (.source departing)).Built ∧ (∀ i t, t.Built → (releasing i t).Built) ∧
      (OwnerEdit.add newsOwner).apply.Vanishing contested.key overtakenEdit ∧
      overtakenEdit.moments.map (·.event.kind) = [.read, .refused] :=
  ⟨built_departing, built_releasing,
    (vanishing_source contested.key (.add newsOwner) (registrar 1) releasing built_departing
      built_releasing).1, by decide +kernel⟩

/-- **A Source that vanishes is not always passed over**: it is gone at the time of the second call,
and the edit does not say that there was nothing to do. -/
theorem vanished_source_fails :
    ¬ ∀ (key : ObjectKey) (edit : OwnerEdit) (service : (c : ServiceCall) → c.Answer)
      (others : Others) (s : Store), s.Built → (∀ i t, t.Built → (others i t).Built) →
      ∀ m ∈ ((editSource key.ns key.name edit.apply).run.amid service others s).moments,
        m.before.sources.get? key = none →
          ((editSource key.ns key.name edit.apply).run.amid service others s).result =
            .ok false := by
  intro always
  have skips : ∀ m ∈ overtakenEdit.moments, m.before.sources.get? contested.key = none →
      overtakenEdit.result = .ok false :=
    always contested.key (.add newsOwner) (registrar 1) releasing _ built_departing built_releasing
  have gone : (overtakenEdit.moments.any
      fun m => (m.before.sources.get? contested.key).isNone) = true := by decide +kernel
  obtain ⟨m, mem, none⟩ := List.any_eq_true.mp gone
  have failed : overtakenEdit.result = .error Store.notFound := rfl
  cases failed.symm.trans (skips m mem (Option.isNone_iff_eq_none.mp none))

end FeedOperator
