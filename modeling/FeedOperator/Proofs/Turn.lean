import FeedOperator.Proofs.Reconcile.HotNews
import FeedOperator.Proofs.Reconcile.Source
import FeedOperator.Proofs.Store.Sound
import FeedOperator.Proofs.Weather
import FeedOperator.Rehearsal
import Mathlib.Logic.Relation

/-!
# The operator at work

Passes over Sources and HotNews follow one another in any order. Between them users ask for the
deletion of objects. The store may be told at any moment how to fail from now on, between two calls
of a pass too, and the service answers anything at any time.

* `Turn`, `Turn.LeadsIn`: one thing that happens, with the calls that are made and the store after
  it.
* `Turn.Leads`: the same where the failures that are due may change at any call.
* `Turn.run`, `Turn.journal`: the same computed, with a service that answers from a state.
* `Turn.runIn`: the same computed in changing weather.
* `Store.Reaches`: the stores after any number of turns.

Results:
* `leads_run`, `reaches_run`, `reaches_runIn`: what is computed is among what can happen.
* `keepsSpecs_turn`: no turn changes a spec.
* `Reaches.sound`: turns keep a store sound.
* `Reaches.keeps`: what each turn keeps, any number of turns keeps.
-/

namespace FeedOperator

/-- What happens between two moments at which no pass is under way. -/
inductive Turn where
  /-- A pass over a Source. -/
  | source (now : String) (given : Source)
  /-- A pass over a HotNews. -/
  | hotNews (settings : Settings) (now : String) (given : HotNews)
  /-- A user asks for the deletion of a Source. -/
  | deleteSource (key : ObjectKey)
  /-- A user asks for the deletion of a HotNews. -/
  | deleteHotNews (key : ObjectKey)
  /-- The store is told how to fail from now on. -/
  | faults (conflicts : Nat) (failStatusWrites failLists : Bool)

namespace Turn

/-- What a turn does: its calls with their answers, and the store after it. -/
inductive LeadsIn (w : Climate) : Turn → Store → List Event → Store → Prop
  | source {now : String} {given : Source} {s u : Store} {es : List Event}
    {r : Except SourceError Action} (h : (Source.reconcile now given).pass.LeadsIn w s es r u) :
    LeadsIn w (.source now given) s es u
  | hotNews {settings : Settings} {now : String} {given : HotNews} {s u : Store} {es : List Event}
    {r : Except HotNewsError Action}
    (h : (HotNews.reconcile settings now given).pass.LeadsIn w s es r u) :
    LeadsIn w (.hotNews settings now given) s es u
  | deleteSource (key : ObjectKey) (s : Store) :
    LeadsIn w (.deleteSource key) s [] (s.deleteSource key)
  | deleteHotNews (key : ObjectKey) (s : Store) :
    LeadsIn w (.deleteHotNews key) s [] (s.deleteHotNews key)
  | faults (conflicts : Nat) (failStatusWrites failLists : Bool) (s : Store) :
    LeadsIn w (.faults conflicts failStatusWrites failLists) s []
      (s.withFaults conflicts failStatusWrites failLists)

/-- What a turn does where the failures that are due may change at any call. -/
abbrev Leads (turn : Turn) (s : Store) (es : List Event) (u : Store) : Prop :=
  turn.LeadsIn .changing s es u

/-- Whether a turn is a pass. -/
def IsPass : Turn → Prop
  | .source _ _ | .hotNews _ _ _ => True
  | .deleteSource _ | .deleteHotNews _ | .faults _ _ _ => False

/-- Whether a turn is a pass over the Source under a key. -/
def IsPassOver (turn : Turn) (key : ObjectKey) : Prop :=
  ∃ now given, turn = .source now given ∧ given.metadata.ns = some key.ns ∧
    given.metadata.name = some key.name

end Turn

namespace Turn

variable {σ : Type}

/-- The store after a turn, with the service answering from a state of its own. -/
def run (service : (c : ServiceCall) → σ → c.Answer × σ) : Turn → Store × σ → Store × σ
  | .source now given, state =>
    ((Source.reconcile now given).pass.run (Pass.environment service) state).2
  | .hotNews settings now given, state =>
    ((HotNews.reconcile settings now given).pass.run (Pass.environment service) state).2
  | .deleteSource key, (s, t) => (s.deleteSource key, t)
  | .deleteHotNews key, (s, t) => (s.deleteHotNews key, t)
  | .faults conflicts writes lists, (s, t) => (s.withFaults conflicts writes lists, t)

/-- The calls of a turn with their answers. -/
def journal (service : (c : ServiceCall) → σ → c.Answer × σ) : Turn → Store × σ → List Event
  | .source now given, state => (Source.reconcile now given).pass.journal service state
  | .hotNews settings now given, state =>
    (HotNews.reconcile settings now given).pass.journal service state
  | _, _ => []

theorem leads_run (service : (c : ServiceCall) → σ → c.Answer × σ) (turn : Turn)
    (state : Store × σ) :
    turn.Leads state.1 (turn.journal service state) (turn.run service state).1 := by
  cases turn with
  | source now given => exact .source (Pass.leads_journal service _ state).weathers
  | hotNews settings now given => exact .hotNews (Pass.leads_journal service _ state).weathers
  | deleteSource key => exact .deleteSource key state.1
  | deleteHotNews key => exact .deleteHotNews key state.1
  | faults conflicts writes lists => exact .faults conflicts writes lists state.1

/-- The store after a turn in changing weather. -/
def runIn (service : (c : ServiceCall) → c.Answer) (weather : Weather) (s : Store) : Turn → Store
  | .source now given => ((Source.reconcile now given).pass.runIn service weather s).2
  | .hotNews settings now given =>
    ((HotNews.reconcile settings now given).pass.runIn service weather s).2
  | .deleteSource key => s.deleteSource key
  | .deleteHotNews key => s.deleteHotNews key
  | .faults conflicts writes lists => s.withFaults conflicts writes lists

theorem exists_leads_runIn (service : (c : ServiceCall) → c.Answer) (weather : Weather)
    (turn : Turn) (s : Store) : ∃ es, turn.Leads s es (turn.runIn service weather s) := by
  cases turn with
  | source now given => exact ⟨_, .source (Pass.weathers_runIn service _ weather s)⟩
  | hotNews settings now given => exact ⟨_, .hotNews (Pass.weathers_runIn service _ weather s)⟩
  | deleteSource key => exact ⟨_, .deleteSource key s⟩
  | deleteHotNews key => exact ⟨_, .deleteHotNews key s⟩
  | faults conflicts writes lists => exact ⟨_, .faults conflicts writes lists s⟩

/-- A service that replies to everything in the same way. -/
def steady (reply : ServiceReply) (c : ServiceCall) (t : Unit) : c.Answer × Unit :=
  (Rehearsal.reply (fun _ => "") reply c, t)

end Turn

namespace Store

/-- The stores after any number of turns. -/
def Reaches : Store → Store → Prop :=
  Relation.ReflTransGen fun s u => ∃ turn es, Turn.Leads turn s es u

/-- A turn keeps a store sound. -/
theorem sound_turn {turn : Turn} {s u : Store} {es : List Event} (hs : s.Sound)
    (h : turn.Leads s es u) : u.Sound := by
  cases h with
  | source h => exact h.sound hs
  | hotNews h => exact h.sound hs
  | deleteSource key => exact sound_after hs (.deleteSource key)
  | deleteHotNews key => exact sound_after hs (.deleteHotNews key)
  | faults conflicts writes lists => exact sound_after hs (.faults conflicts writes lists)

/-- What each turn keeps in a sound store, any number of turns keeps. -/
theorem Reaches.keeps {I : Store → Prop}
    (keeps : ∀ {turn s es u}, s.Sound → Turn.Leads turn s es u → I s → I u) {s u : Store}
    (h : s.Reaches u) (hs : s.Sound) (hI : I s) : u.Sound ∧ I u := by
  induction h with
  | refl => exact ⟨hs, hI⟩
  | tail _ step ih =>
    obtain ⟨turn, es, hturn⟩ := step
    exact ⟨sound_turn ih.1 hturn, keeps ih.1 hturn ih.2⟩

/-- **No turn changes what is wanted of an object**, and none brings an object. -/
theorem keepsSpecs_turn {turn : Turn} {s u : Store} {es : List Event} (hs : s.Sound)
    (h : turn.Leads s es u) :
    s.sources.KeepsSpecs u.sources ∧ s.hotNews.KeepsSpecs u.hotNews := by
  cases h with
  | source h =>
    rcases Source.reconcile_leads h with ⟨_, _, _, rfl⟩ | ⟨ns, name, _, _, hcourse⟩
    · exact ⟨.of_eq rfl, .of_eq rfl⟩
    · have tended := hcourse.tended hs
      exact ⟨.of_changes tended.sources Object.Kept.spec_eq, .of_eq tended.rest.hotNews⟩
  | hotNews h =>
    rcases HotNews.reconcile_leads h with ⟨_, _, _, rfl⟩ | ⟨ns, name, _, _, hcourse⟩
    · exact ⟨.of_eq rfl, .of_eq rfl⟩
    · obtain ⟨uid, new, relinked⟩ := hcourse.relinked hs
      exact ⟨.of_changes relinked Source.Relinked.spec_eq,
        .of_changes (hcourse.kept hs) Object.Kept.spec_eq⟩
  | deleteSource key =>
    exact ⟨.of_changes (markDeleted_changes s.sources key) Object.MayMark.spec_eq, .of_eq rfl⟩
  | deleteHotNews key =>
    exact ⟨.of_eq rfl, .of_changes (markDeleted_changes s.hotNews key) Object.MayMark.spec_eq⟩
  | faults => exact ⟨.of_eq rfl, .of_eq rfl⟩

theorem Reaches.sound {s u : Store} (h : s.Reaches u) (hs : s.Sound) : u.Sound :=
  (h.keeps (I := fun _ => True) (fun _ _ _ => trivial) hs trivial).1

/-- What is computed turn by turn is reached. -/
theorem reaches_run {σ : Type} (service : (c : ServiceCall) → σ → c.Answer × σ)
    (turns : List Turn) (state : Store × σ) :
    state.1.Reaches (turns.foldl (fun state turn => turn.run service state) state).1 := by
  induction turns generalizing state with
  | nil => exact .refl
  | cons turn rest ih => exact .head ⟨turn, _, turn.leads_run service state⟩ (ih _)

/-- What is computed turn by turn is reached, whatever the weather of each turn. -/
theorem reaches_runIn (service : (c : ServiceCall) → c.Answer) (turns : List (Weather × Turn))
    (s : Store) : s.Reaches (turns.foldl (fun s turn => turn.2.runIn service turn.1 s) s) := by
  induction turns generalizing s with
  | nil => exact .refl
  | cons turn rest ih => exact .head ⟨turn.2, turn.2.exists_leads_runIn service turn.1 s⟩ (ih _)

end Store

end FeedOperator
