import FeedOperator.Reconcile.Tracking
import FeedOperator.Store

/-!
# Runs of passes against a store

A pass runs against the store in memory, and against a service that may answer anything. The store
may be told at any moment how to fail from now on, so a pass may meet other failures at every call.

* `Event`: a call with the answer that it got.
* `WithoutRequests`: calls to the store alone.
* `Store.SameButFaults`: a store that differs in the failures that are due.
* `Climate`: whether these may change between two calls of a pass.
* `Pass.Step`: one call of a pass, so that the calls of several passes can be mixed.
* `Pass.LeadsIn`: a whole run with its journal, its result and the store that it leaves.
* `Pass.Leads`, `Pass.Weathers`: a run during which no failure is set, and any run.
* `Pass.Answered`: the calls of a run with their answers, whatever is stored.

Results:
* `leads_andThen_iff`, `Attempt.leads_bind_iff`: a run of two passes in a row is two runs in a row,
  and the second one is left out if the first one fails.
* `Tracking.leads_bind_iff`, `Tracking.leads_bind_forget_iff`: the same of a pass that has the
  tracker of failures at hand.
* `leads_journal`: what `Pass.run` computes, with the calls to the store answered by the store and
  those to the service in any way, is a run during which no failure is set.
* `LeadsIn.weathers`: every run is one in a changing climate.
* `Answered.unique`: the answers settle where a run ends and what comes of it.
* `LeadsIn.preserves`: what every answer of the store and every change of the failures keep is kept
  by every run.
* `Within.andThen`, `Attempt.within_bind`: two passes in a row make the calls that each one makes.
-/

namespace FeedOperator

/-- A call with its answer. -/
structure Event where
  call : Call
  answer : call.Answer

namespace Event

/-- A call to the store with its answer. -/
abbrev ofStore (c : StoreCall) (answer : c.Answer) : Event :=
  ⟨.store c, answer⟩

/-- A request to the service with its answer. -/
abbrev ofService (c : ServiceCall) (answer : c.Answer) : Event :=
  ⟨.service c, answer⟩

theorem mem_of_mem_cons_store {c : ServiceCall} {answer : c.Answer} {d : StoreCall}
    {reply : d.Answer} {es : List Event} (h : .ofService c answer ∈ .ofStore d reply :: es) :
    .ofService c answer ∈ es := by
  rcases List.mem_cons.mp h with heq | hmem
  · cases heq
  · exact hmem

end Event

/-- Calls without a request to the service. -/
def WithoutRequests (es : List Event) : Prop :=
  ∀ c answer, .ofService c answer ∉ es

namespace WithoutRequests

variable {front back : List Event}

theorem nil : WithoutRequests [] :=
  fun _ _ => List.not_mem_nil

theorem cons_store {c : StoreCall} {answer : c.Answer} (h : WithoutRequests back) :
    WithoutRequests (.ofStore c answer :: back) :=
  fun c answer hmem => h c answer (Event.mem_of_mem_cons_store hmem)

theorem append (hfront : WithoutRequests front) (hback : WithoutRequests back) :
    WithoutRequests (front ++ back) :=
  fun c answer hmem => (List.mem_append.mp hmem).elim (hfront c answer) (hback c answer)

/-- The only request among some calls. -/
theorem eq_of_mem (hfront : WithoutRequests front) (hback : WithoutRequests back)
    {c d : ServiceCall} {answer : c.Answer} {reply : d.Answer}
    (h : .ofService c answer ∈ front ++ .ofService d reply :: back) :
    Event.ofService c answer = .ofService d reply := by
  rcases List.mem_append.mp h with hmem | hmem
  · exact absurd hmem (hfront c answer)
  · rcases List.mem_cons.mp hmem with heq | hmem
    · exact heq
    · exact absurd hmem (hback c answer)

end WithoutRequests

/-! ## The failures that are due -/

namespace Store

/-- The store with other failures to come. -/
def withFaults (s : Store) (conflicts : Nat) (failStatusWrites failLists : Bool) : Store :=
  { s with
    sourceConflicts := conflicts
    failStatusWrites := failStatusWrites
    failLists := failLists }

/-- A store that differs in the failures that are due. -/
def SameButFaults (s t : Store) : Prop :=
  ∃ conflicts failStatusWrites failLists, t = s.withFaults conflicts failStatusWrites failLists

theorem SameButFaults.refl (s : Store) : s.SameButFaults s :=
  ⟨s.sourceConflicts, s.failStatusWrites, s.failLists, rfl⟩

end Store

/-- What a call of a pass finds of the store that the calls before it left: at most the failures
that are due are others. -/
structure Climate where
  Meets : Store → Store → Prop
  sameButFaults : ∀ {s t}, Meets s t → s.SameButFaults t

namespace Climate

/-- No failure is set while a pass runs. -/
def settled : Climate where
  Meets s t := s = t
  sameButFaults h := h ▸ .refl _

theorem settled_eq {s t : Store} (meets : settled.Meets s t) : s = t := meets

/-- The failures that are due may be set anew before each call. -/
def changing : Climate where
  Meets := Store.SameButFaults
  sameButFaults h := h

end Climate

namespace Pass

variable {α β σ : Type}

/-- One call: the store answers its calls, and the service answers anything. -/
inductive Step (w : Climate) : Pass α → Store → Event → Pass α → Store → Prop
  | store (c : StoreCall) (next : c.Answer → Pass α) {s t : Store} (meets : w.Meets s t) :
      Step w (.ask (.store c) next) s (.ofStore c (t.answer c).1) (next (t.answer c).1)
        (t.answer c).2
  | service (c : ServiceCall) (answer : c.Answer) (next : c.Answer → Pass α) (s : Store) :
      Step w (.ask (.service c) next) s (.ofService c answer) (next answer) s

/-- A whole run: the calls with their answers in order, the result, and the store after it. -/
inductive LeadsIn (w : Climate) : Pass α → Store → List Event → α → Store → Prop
  | done (a : α) (s : Store) : LeadsIn w (.done a) s [] a s
  | ask {p q : Pass α} {s t u : Store} {e : Event} {es : List Event} {a : α}
      (first : Step w p s e q t) (rest : LeadsIn w q t es a u) : LeadsIn w p s (e :: es) a u

/-- A whole run during which no failure is set. -/
abbrev Leads (p : Pass α) (s : Store) (es : List Event) (a : α) (u : Store) : Prop :=
  p.LeadsIn .settled s es a u

/-- A whole run during which the failures that are due may change at any call. -/
abbrev Weathers (p : Pass α) (s : Store) (es : List Event) (a : α) (u : Store) : Prop :=
  p.LeadsIn .changing s es a u

variable {w : Climate} {s u : Store} {es : List Event}

theorem leads_done_iff {a b : α} :
    (Pass.done a).LeadsIn w s es b u ↔ es = [] ∧ b = a ∧ s = u := by
  constructor
  · intro h
    cases h with
    | done => exact ⟨rfl, rfl, rfl⟩
    | ask first _ => cases first
  · rintro ⟨rfl, rfl, rfl⟩
    exact .done b s

theorem leads_askStore_iff {c : StoreCall} {next : c.Answer → Pass α} {a : α} :
    (Pass.ask (.store c) next).LeadsIn w s es a u ↔
      ∃ t rest, w.Meets s t ∧ es = .ofStore c (t.answer c).1 :: rest ∧
        (next (t.answer c).1).LeadsIn w (t.answer c).2 rest a u := by
  constructor
  · intro h
    cases h with
    | ask first rest => cases first with
      | store _ _ meets => exact ⟨_, _, meets, rfl, rest⟩
  · rintro ⟨t, rest, meets, rfl, h⟩
    exact .ask (.store c next meets) h

theorem leads_askService_iff {c : ServiceCall} {next : c.Answer → Pass α} {a : α} :
    (Pass.ask (.service c) next).LeadsIn w s es a u ↔
      ∃ answer rest, es = .ofService c answer :: rest ∧ (next answer).LeadsIn w s rest a u := by
  constructor
  · intro h
    cases h with
    | ask first rest => cases first with
      | service _ answer => exact ⟨answer, _, rfl, rest⟩
  · rintro ⟨answer, rest, rfl, h⟩
    exact .ask (.service c answer next s) h

theorem leads_store_iff {c : StoreCall} {a : c.Answer} :
    (Pass.store c).LeadsIn w s es a u ↔
      ∃ t, w.Meets s t ∧ es = [.ofStore c (t.answer c).1] ∧ a = (t.answer c).1 ∧
        (t.answer c).2 = u := by
  unfold Pass.store
  rw [leads_askStore_iff]
  simp only [leads_done_iff]
  constructor
  · rintro ⟨t, _, meets, rfl, rfl, rfl, rfl⟩
    exact ⟨t, meets, rfl, rfl, rfl⟩
  · rintro ⟨t, meets, rfl, rfl, rfl⟩
    exact ⟨t, [], meets, rfl, rfl, rfl, rfl⟩

theorem leads_service_iff {c : ServiceCall} {a : c.Answer} :
    (Pass.service c).LeadsIn w s es a u ↔ es = [.ofService c a] ∧ s = u := by
  unfold Pass.service
  rw [leads_askService_iff]
  simp only [leads_done_iff]
  constructor
  · rintro ⟨_, _, rfl, rfl, rfl, rfl⟩
    exact ⟨rfl, rfl⟩
  · rintro ⟨rfl, rfl⟩
    exact ⟨a, [], rfl, rfl, rfl, rfl⟩

/-- **A run of two passes in a row is two runs in a row.** -/
theorem leads_andThen_iff {p : Pass α} {f : α → Pass β} {b : β} :
    (p.andThen f).LeadsIn w s es b u ↔
      ∃ a t front back, p.LeadsIn w s front a t ∧ (f a).LeadsIn w t back b u ∧
        es = front ++ back := by
  constructor
  · intro h
    induction p generalizing s es with
    | done a => exact ⟨a, s, [], es, .done a s, h, rfl⟩
    | ask c next ih =>
      cases c with
      | store c =>
        obtain ⟨v, rest, meets, rfl, hrest⟩ := leads_askStore_iff.mp h
        obtain ⟨a, t, front, back, hp, hf, rfl⟩ := ih _ hrest
        exact ⟨a, t, _, back, leads_askStore_iff.mpr ⟨v, front, meets, rfl, hp⟩, hf, rfl⟩
      | service c =>
        obtain ⟨answer, rest, rfl, hrest⟩ := leads_askService_iff.mp h
        obtain ⟨a, t, front, back, hp, hf, rfl⟩ := ih _ hrest
        exact ⟨a, t, _, back, leads_askService_iff.mpr ⟨answer, front, rfl, hp⟩, hf, rfl⟩
  · rintro ⟨a, t, front, back, hp, hf, rfl⟩
    induction hp with
    | done => exact hf
    | ask first _ ih =>
      cases first with
      | store _ _ meets => exact leads_askStore_iff.mpr ⟨_, _, meets, rfl, ih hf⟩
      | service => exact leads_askService_iff.mpr ⟨_, _, rfl, ih hf⟩

theorem leads_bind_iff {p : Pass α} {f : α → Pass β} {b : β} :
    (p >>= f).LeadsIn w s es b u ↔
      ∃ a t front back, p.LeadsIn w s front a t ∧ (f a).LeadsIn w t back b u ∧
        es = front ++ back :=
  leads_andThen_iff

theorem leads_pure_iff {a b : α} :
    (pure a : Pass α).LeadsIn w s es b u ↔ es = [] ∧ b = a ∧ s = u :=
  leads_done_iff

theorem leads_map_iff {p : Pass α} {f : α → β} {b : β} :
    (f <$> p).LeadsIn w s es b u ↔ ∃ a, p.LeadsIn w s es a u ∧ b = f a := by
  rw [map_eq_pure_bind, leads_bind_iff]
  simp only [leads_pure_iff]
  constructor
  · rintro ⟨a, t, front, back, hp, ⟨rfl, rfl, rfl⟩, rfl⟩
    exact ⟨a, by simpa using hp, rfl⟩
  · rintro ⟨a, hp, rfl⟩
    exact ⟨a, u, es, [], hp, ⟨rfl, rfl, rfl⟩, by simp⟩

/-- A pass that makes no request to the service, whatever the store answers. -/
def OnStore : Pass α → Prop
  | .done _ => True
  | .ask (.store _) next => ∀ answer, (next answer).OnStore
  | .ask (.service _) _ => False

/-- A run of such a pass makes none. -/
theorem LeadsIn.onStore {p : Pass α} {a : α} (h : p.LeadsIn w s es a u) (hp : p.OnStore) :
    WithoutRequests es := by
  induction h with
  | done => exact .nil
  | ask first _ ih =>
    cases first with
    | store => exact .cons_store (ih (hp _))
    | service => exact hp.elim

/-- What comes of such a pass depends on the store alone, if no failure is set meanwhile. -/
theorem LeadsIn.unique {p : Pass α} {a b : α} {v : Store} {es' : List Event} (hp : p.OnStore)
    (h : p.Leads s es a u) (h' : p.Leads s es' b v) : es' = es ∧ b = a ∧ v = u := by
  induction h generalizing es' with
  | done =>
    obtain ⟨rfl, rfl, rfl⟩ := leads_done_iff.mp h'
    exact ⟨rfl, rfl, rfl⟩
  | ask first _ ih =>
    cases first with
    | store _ _ meets =>
      obtain ⟨_, rest, meets', rfl, hrest⟩ := leads_askStore_iff.mp h'
      obtain rfl := Climate.settled_eq meets
      obtain rfl := Climate.settled_eq meets'
      obtain ⟨rfl, rfl, rfl⟩ := ih (hp _) hrest
      exact ⟨rfl, rfl, rfl⟩
    | service => exact hp.elim

/-- A pass that makes no other calls than some, whatever the answers. -/
def Within (calls : Call → Prop) : Pass α → Prop
  | .done _ => True
  | .ask c next => calls c ∧ ∀ answer, (next answer).Within calls

variable {calls : Call → Prop}

theorem within_store {c : StoreCall} (h : calls (.store c)) : (Pass.store c).Within calls :=
  ⟨h, fun _ => trivial⟩

theorem within_service {c : ServiceCall} (h : calls (.service c)) :
    (Pass.service c).Within calls :=
  ⟨h, fun _ => trivial⟩

theorem Within.andThen {p : Pass α} {f : α → Pass β} (hp : p.Within calls)
    (hf : ∀ a, (f a).Within calls) : (p.andThen f).Within calls := by
  induction p with
  | done a => exact hf a
  | ask c next ih => exact ⟨hp.1, fun answer => ih answer (hp.2 answer)⟩

theorem Within.mono {p : Pass α} (h : p.Within calls) {more : Call → Prop}
    (hmore : ∀ c, calls c → more c) : p.Within more := by
  induction p with
  | done => exact trivial
  | ask c next ih => exact ⟨hmore c h.1, fun answer => ih answer (h.2 answer)⟩

theorem Within.onStore {p : Pass α} (h : p.Within calls)
    (none : ∀ c, ¬ calls (.service c)) : p.OnStore := by
  induction p with
  | done => exact trivial
  | ask c next ih =>
    cases c with
    | store => exact fun answer => ih answer (h.2 answer)
    | service c => exact none c h.1

/-- The calls of a run are among those of its pass. -/
theorem LeadsIn.within {p : Pass α} {a : α} (h : p.LeadsIn w s es a u) (hp : p.Within calls) :
    ∀ e ∈ es, calls e.call := by
  induction h with
  | done => exact fun _ hmem => absurd hmem List.not_mem_nil
  | ask first _ ih =>
    cases first with
    | store => exact List.forall_mem_cons.mpr ⟨hp.1, ih (hp.2 _)⟩
    | service => exact List.forall_mem_cons.mpr ⟨hp.1, ih (hp.2 _)⟩

/-- Every run is one in a changing climate. -/
theorem LeadsIn.weathers {p : Pass α} {a : α} (h : p.LeadsIn w s es a u) : p.Weathers s es a u := by
  induction h with
  | done a s => exact .done a s
  | ask first _ ih =>
    cases first with
    | store c next meets => exact .ask (.store c next (w.sameButFaults meets)) ih
    | service c answer next => exact .ask (.service c answer next _) ih

/-- **What each answer of the store keeps, and each change before a call, a run keeps.** -/
theorem LeadsIn.preserves {I : Store → Prop} (keeps : ∀ s c, I s → I (s.answer c).2)
    (changes : ∀ s t, w.Meets s t → I s → I t) {p : Pass α} {a : α}
    (h : p.LeadsIn w s es a u) (hs : I s) : I u := by
  induction h with
  | done => exact hs
  | ask first _ ih =>
    cases first with
    | store _ _ meets => exact ih (keeps _ _ (changes _ _ meets hs))
    | service => exact ih hs

/-- Calls of a whole run with their answers, whatever is stored, and the result. -/
inductive Answered : Pass α → List Event → α → Prop
  | done (a : α) : Answered (.done a) [] a
  | ask {c : Call} (answer : c.Answer) {next : c.Answer → Pass α} {es : List Event} {a : α}
    (rest : (next answer).Answered es a) : Answered (.ask c next) (⟨c, answer⟩ :: es) a

theorem LeadsIn.answered {p : Pass α} {a : α} (h : p.LeadsIn w s es a u) : p.Answered es a := by
  induction h with
  | done a => exact .done a
  | ask first _ ih =>
    cases first with
    | store => exact .ask _ ih
    | service answer => exact .ask _ ih

/-- Of some calls at most one beginning is a whole run of a pass, and the answers settle what comes
of it. -/
theorem Answered.unique {p : Pass α} {a b : α} {front front' back back' : List Event}
    (h : p.Answered front a) (h' : p.Answered front' b)
    (same : front ++ back = front' ++ back') : front' = front ∧ b = a ∧ back' = back := by
  induction h generalizing front' with
  | done =>
    cases h'
    exact ⟨rfl, rfl, same.symm⟩
  | ask answer _ ih =>
    cases h' with
    | ask answer' rest =>
      obtain ⟨hfirst, hrest⟩ := List.cons.inj same
      obtain rfl := eq_of_heq (Event.mk.inj hfirst).2
      obtain ⟨rfl, rfl, rfl⟩ := ih rest hrest
      exact ⟨rfl, rfl, rfl⟩

/-- What each answer of the store keeps, a run keeps during which no failure is set. -/
theorem Leads.preserves {I : Store → Prop} (keeps : ∀ s c, I s → I (s.answer c).2) {p : Pass α}
    {a : α} (h : p.Leads s es a u) (hs : I s) : I u :=
  LeadsIn.preserves keeps (fun _ _ meets ht => Climate.settled_eq meets ▸ ht) h hs

/-! ## Environments -/

/-- The store answers its calls, and the service answers from a state of its own. -/
def environment (service : (c : ServiceCall) → σ → c.Answer × σ) : Environment (Store × σ)
  | .store c, (s, t) => ((s.answer c).1, (s.answer c).2, t)
  | .service c, (s, t) => ((service c t).1, s, (service c t).2)

/-- The calls of a pass with their answers. -/
def journal (service : (c : ServiceCall) → σ → c.Answer × σ) : Pass α → Store × σ → List Event
  | .done _, _ => []
  | .ask c next, state =>
    ⟨c, (environment service c state).1⟩ ::
      (next (environment service c state).1).journal service (environment service c state).2

/-- **What a pass computes in an environment is one of its runs**, during which no failure is
set. -/
theorem leads_journal (service : (c : ServiceCall) → σ → c.Answer × σ) (p : Pass α)
    (state : Store × σ) :
    p.Leads state.1 (p.journal service state) (p.run (environment service) state).1
      (p.run (environment service) state).2.1 := by
  induction p generalizing state with
  | done a => exact .done a state.1
  | ask c next ih =>
    cases c with
    | store c =>
      have := ih (environment service (.store c) state).1 (environment service (.store c) state).2
      exact leads_askStore_iff.mpr ⟨_, _, rfl, rfl, this⟩
    | service c =>
      have := ih (environment service (.service c) state).1
        (environment service (.service c) state).2
      exact leads_askService_iff.mpr ⟨_, _, rfl, this⟩

end Pass

/-! ## Passes that may fail -/

namespace Attempt

variable {ε α β : Type} {w : Climate} {s u : Store} {es : List Event}

theorem leads_pure_iff {a : α} {r : Except ε α} :
    (pure a : Attempt ε α).run.LeadsIn w s es r u ↔ es = [] ∧ r = .ok a ∧ s = u :=
  Pass.leads_done_iff

theorem leads_throw_iff {e : ε} {r : Except ε α} :
    (throw e : Attempt ε α).run.LeadsIn w s es r u ↔ es = [] ∧ r = .error e ∧ s = u :=
  Pass.leads_done_iff

/-- **Of two passes in a row the second one runs if the first one goes well.** -/
theorem leads_bind_iff {x : Attempt ε α} {f : α → Attempt ε β} {r : Except ε β} :
    (x >>= f).run.LeadsIn w s es r u ↔
      (∃ e, x.run.LeadsIn w s es (.error e) u ∧ r = .error e) ∨
      ∃ a t front back, x.run.LeadsIn w s front (.ok a) t ∧ (f a).run.LeadsIn w t back r u ∧
        es = front ++ back := by
  rw [ExceptT.run_bind, Pass.leads_bind_iff]
  constructor
  · rintro ⟨a | a, t, front, back, hx, hf, rfl⟩
    · obtain ⟨rfl, rfl, rfl⟩ := Pass.leads_pure_iff.mp hf
      exact .inl ⟨a, by simpa using hx, rfl⟩
    · exact .inr ⟨a, t, front, back, hx, hf, rfl⟩
  · rintro (⟨e, hx, rfl⟩ | ⟨a, t, front, back, hx, hf, rfl⟩)
    · exact ⟨.error e, u, es, [], hx, Pass.leads_pure_iff.mpr ⟨rfl, rfl, rfl⟩, by simp⟩
    · exact ⟨.ok a, t, front, back, hx, hf, rfl⟩

theorem leads_store_iff {onError : StoreError → ε} {c : StoreCall} {r : Except ε c.Result} :
    (Attempt.store onError c).run.LeadsIn w s es r u ↔
      ∃ t, w.Meets s t ∧ es = [.ofStore c (t.answer c).1] ∧
        r = (t.answer c).1.mapError onError ∧ (t.answer c).2 = u := by
  unfold Attempt.store
  rw [ExceptT.run_mk, Pass.leads_map_iff]
  simp only [Pass.leads_store_iff]
  constructor
  · rintro ⟨_, ⟨t, meets, rfl, rfl, rfl⟩, rfl⟩
    exact ⟨t, meets, rfl, rfl, rfl⟩
  · rintro ⟨t, meets, rfl, rfl, rfl⟩
    exact ⟨_, ⟨t, meets, rfl, rfl, rfl⟩, rfl⟩

/-- A pass of whose result something is made. -/
theorem leads_thenReturn_iff {x : Attempt ε α} {f : α → β} {r : Except ε β} :
    (x >>= fun a => pure (f a)).run.LeadsIn w s es r u ↔
      ∃ r', x.run.LeadsIn w s es r' u ∧ r = r'.map f := by
  rw [leads_bind_iff]
  constructor
  · rintro (⟨e, hx, rfl⟩ | ⟨a, t, front, back, hx, hdone, rfl⟩)
    · exact ⟨.error e, hx, rfl⟩
    · obtain ⟨rfl, rfl, rfl⟩ := leads_pure_iff.mp hdone
      exact ⟨.ok a, by simpa using hx, rfl⟩
  · rintro ⟨e | a, hx, rfl⟩
    · exact .inl ⟨e, hx, rfl⟩
    · exact .inr ⟨a, u, es, [], hx, leads_pure_iff.mpr ⟨rfl, rfl, rfl⟩, by simp⟩

theorem leads_ofPass_iff {p : Pass α} {r : Except ε α} :
    (Attempt.ofPass p : Attempt ε α).run.LeadsIn w s es r u ↔
      ∃ a, p.LeadsIn w s es a u ∧ r = .ok a := by
  unfold Attempt.ofPass
  rw [ExceptT.run_mk, Pass.leads_map_iff]

/-- A pass that looks at its own failure. -/
theorem leads_catch_iff {p : Pass α} {f : α → Attempt ε β} {r : Except ε β} :
    (Attempt.ofPass p >>= f).run.LeadsIn w s es r u ↔
      ∃ a t front back, p.LeadsIn w s front a t ∧ (f a).run.LeadsIn w t back r u ∧
        es = front ++ back := by
  rw [leads_bind_iff]
  simp only [leads_ofPass_iff]
  constructor
  · rintro (⟨e, ⟨a, _, h⟩, -⟩ | ⟨a, t, front, back, ⟨b, hp, hb⟩, hf, rfl⟩)
    · cases h
    · cases hb
      exact ⟨a, t, front, back, hp, hf, rfl⟩
  · rintro ⟨a, t, front, back, hp, hf, rfl⟩
    exact .inr ⟨a, t, front, back, ⟨a, hp, rfl⟩, hf, rfl⟩

variable {calls : Call → Prop}

theorem within_bind {x : Attempt ε α} {f : α → Attempt ε β} (hx : x.run.Within calls)
    (hf : ∀ a, (f a).run.Within calls) : (x >>= f).run.Within calls := by
  rw [ExceptT.run_bind]
  refine Pass.Within.andThen hx fun a => ?_
  cases a with
  | error e => exact trivial
  | ok a => exact hf a

theorem within_ofPass {p : Pass α} (hp : p.Within calls) :
    (Attempt.ofPass p : Attempt ε α).run.Within calls :=
  hp.andThen fun _ => trivial

theorem within_store {onError : StoreError → ε} {c : StoreCall} (h : calls (.store c)) :
    (Attempt.store onError c).run.Within calls :=
  (Pass.within_store h).andThen fun _ => trivial

end Attempt

/-! ## Passes with the tracker at hand -/

namespace Tracking

variable {ε α β : Type} {w : Climate} {s u : Store} {es : List Event}

theorem leads_throw_iff {e : ε} {r : Except ε α} :
    (throw e : Tracking ε α).pass.LeadsIn w s es r u ↔ es = [] ∧ r = .error e ∧ s = u :=
  Pass.leads_done_iff

/-- To forget failures takes no call. -/
theorem leads_forget_iff {key : String} {a : α} {r : Except ε α} :
    (forget key >>= fun _ => pure a : Tracking ε α).pass.LeadsIn w s es r u ↔
      es = [] ∧ r = .ok a ∧ s = u :=
  Pass.leads_done_iff

variable {x : Attempt ε α}

/-- After an attempt the rest of a pass runs if the attempt goes well. -/
theorem leads_bind_iff {f : α → Tracking ε β} {r : Except ε β} :
    (x.tracked >>= f).pass.LeadsIn w s es r u ↔
      (∃ e, x.run.LeadsIn w s es (.error e) u ∧ r = .error e) ∨
      ∃ a t front back, x.run.LeadsIn w s front (.ok a) t ∧ (f a).pass.LeadsIn w t back r u ∧
        es = front ++ back := by
  rw [pass_bind, Attempt.leads_bind_iff]
  rfl

/-- An attempt of whose result something is made once failures are forgotten. -/
theorem leads_bind_forget_iff {key : String} {f : α → β} {r : Except ε β} :
    (x.tracked >>= fun a => forget key >>= fun _ =>
      (pure (f a) : Tracking ε β)).pass.LeadsIn w s es r u ↔
      ∃ r', x.run.LeadsIn w s es r' u ∧ r = r'.map f := by
  rw [pass_bind_forget, Attempt.leads_thenReturn_iff]

end Tracking

end FeedOperator
