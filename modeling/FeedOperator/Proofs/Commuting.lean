import FeedOperator.Proofs.Effect
import Mathlib.Data.Multiset.Defs

/-!
# Passes over two objects commute

Two passes read and write some of the same Sources: one over a HotNews adds an owner, one over a
Source adds a finalizer and writes the status. In a store that shows no failure it makes no
difference which one comes first, whether they go well or not.

* `Source.gist`, `HotNews.gist`: an object without its version, the times of its conditions and the
  order of its owners.
* `Store.Alike`: stores with objects of the same gist.
* `Subject.Apart`: objects that are not mistaken for one another.
* `Visit.both`: two passes in a row.

Results:
* `Source.tended_withOwner?`: a Source is tended in the same way with and without an owner.
* `gist_onSource_comm`, `gist_onHotNews_comm`: what two passes make of one object has one gist in
  either order.
* `order_independent`: so do the stores that they leave, and the results are the same.
-/

namespace FeedOperator

/-! ## What counts -/

/-- What counts of a Source. -/
structure Source.Gist where
  metadata : Meta
  owners : Option (Multiset OwnerReference)
  spec : SourceSpec
  status : Option SourceStatus

/-- The Source without its version, the times of its conditions and the order of its owners. -/
def Source.gist (a : Source) : Source.Gist where
  metadata := { a.metadata with resourceVersion := none, ownerReferences := none }
  owners := a.metadata.ownerReferences.map fun owners => (owners : Multiset OwnerReference)
  spec := a.spec
  status := a.status.map (Store.ageSourceStatus "")

/-- The HotNews without its version and the times of its conditions. -/
def HotNews.gist (a : HotNews) : HotNews :=
  { a.unversioned with status := a.status.map (Store.ageHotNewsStatus "") }

/-- The same store but for versions, the times of conditions and the order of owners. -/
structure Store.Alike (s u : Store) : Prop where
  sources : ∀ k, (s.sources.get? k).map Source.gist = (u.sources.get? k).map Source.gist
  hotNews : ∀ k, (s.hotNews.get? k).map HotNews.gist = (u.hotNews.get? k).map HotNews.gist
  configMaps : s.configMaps = u.configMaps
  sourceConflicts : s.sourceConflicts = u.sourceConflicts
  failStatusWrites : s.failStatusWrites = u.failStatusWrites
  failLists : s.failLists = u.failLists

/-- The time of a condition does not decide where it is put. -/
theorem ageConditions_put (time : String) (c : Condition) (cs : List Condition) :
    Store.ageConditions time (c.put cs) =
      Condition.put { c with lastUpdateTime := time } (Store.ageConditions time cs) := by
  induction cs with
  | nil => rfl
  | cons d rest ih =>
    have houtcome : Condition.sameOutcome { d with lastUpdateTime := time }
        { c with lastUpdateTime := time } = d.sameOutcome c := rfl
    simp only [Store.ageConditions, List.map_cons, Condition.put, houtcome] at ih ⊢
    split
    · split <;> rfl
    · rw [List.map_cons, ih]

/-! ## One Source -/

namespace Source

variable {f : Service} {now now' : String}

/-- The Source with other owners. -/
def reowned (a : Source) (owners : Option (List OwnerReference)) : Source :=
  { a with metadata := { a.metadata with ownerReferences := owners } }

theorem withOwner_eq (a : Source) (owner : OwnerReference) :
    a.withOwner owner = if a.isOwnedBy owner.uid then a
      else a.reowned (some (a.metadata.owners ++ [owner])) := by
  unfold withOwner addOwner
  split <;> rfl

theorem held_reowned (a : Source) (owners : Option (List OwnerReference)) :
    (a.reowned owners).held = a.held.reowned owners := by
  have hhas : (a.reowned owners).metadata.hasFinalizer finalizer =
      a.metadata.hasFinalizer finalizer := rfl
  unfold held Object.heldBy Meta.addFinalizer
  rw [hhas]
  split <;> rfl

theorem answered_reowned (a : Source) (owners : Option (List OwnerReference)) :
    (a.reowned owners).answered f now = (a.answered f now).reowned owners := by
  have hid : (a.reowned owners).externalId = a.externalId := rfl
  have hspec : (a.reowned owners).spec = a.spec := rfl
  unfold answered
  rw [hid, hspec]
  split
  · cases f (.create a.spec) <;> rfl
  · cases f (.update a.externalId { a.spec with id := a.externalId }) <;> rfl

theorem tended_reowned (a : Source) (owners : Option (List OwnerReference)) :
    (a.reowned owners).tended f now = (a.tended f now).reowned owners := by
  unfold tended
  rw [held_reowned, answered_reowned]

theorem owners_tended (a : Source) : (a.tended f now).metadata.owners = a.metadata.owners := by
  obtain ⟨_, _, _, hheld⟩ := (a.refinalized_heldBy finalizer).kept
  rw [tended, metadata_answered, held, hheld]
  rfl

/-- **A Source is tended in the same way with and without an owner.** -/
theorem tended_withOwner? (a : Source) (owner? : Option OwnerReference) :
    (a.withOwner? owner?).tended f now = (a.tended f now).withOwner? owner? := by
  cases owner? with
  | none => rfl
  | some owner =>
    have howned : (a.tended f now).isOwnedBy owner.uid = a.isOwnedBy owner.uid := by
      unfold isOwnedBy Meta.isOwnedBy
      rw [owners_tended]
    simp only [withOwner?, withOwner_eq, howned, owners_tended]
    split
    · rfl
    · exact a.tended_reowned _

theorem verdict_withOwner? (a : Source) (owner? : Option OwnerReference) :
    (a.withOwner? owner?).verdict f = a.verdict f := by
  cases owner? with
  | none => rfl
  | some owner =>
    rw [withOwner?, withOwner_eq]
    split <;> rfl

/-- Two owners may come in either order. -/
theorem gist_withOwner_comm (a : Source) {x y : OwnerReference} (apart : x.uid ≠ y.uid) :
    ((a.withOwner x).withOwner y).gist = ((a.withOwner y).withOwner x).gist := by
  have hx : (a.withOwner y).isOwnedBy x.uid = a.isOwnedBy x.uid := by
    simp [isOwnedBy_withOwner, apart.symm]
  have hy : (a.withOwner x).isOwnedBy y.uid = a.isOwnedBy y.uid := by
    simp [isOwnedBy_withOwner, apart]
  rw [withOwner_eq (a.withOwner x), withOwner_eq (a.withOwner y), hx, hy, withOwner_eq a x,
    withOwner_eq a y]
  by_cases ownedX : a.isOwnedBy x.uid = true
  · simp only [if_pos ownedX]
  · by_cases ownedY : a.isOwnedBy y.uid = true
    · simp only [if_pos ownedY]
    · simp only [if_neg ownedX, if_neg ownedY]
      refine congrArg (fun owners => { a.gist with owners := some owners }) (Quot.sound ?_)
      change (a.metadata.owners ++ [x] ++ [y]).Perm (a.metadata.owners ++ [y] ++ [x])
      rw [List.append_assoc, List.append_assoc]
      exact (List.Perm.swap y x []).append_left a.metadata.owners

/-- Conditions that differ in their times alone come to the same. -/
theorem gist_withCondition (a : Source) {c d : Condition}
    (same : { c with lastUpdateTime := "" } = { d with lastUpdateTime := "" }) :
    (a.withCondition c).gist = (a.withCondition d).gist := by
  have hput := congrArg
    (Condition.put · (Store.ageConditions "" a.statusOrEmpty.conditions)) same
  rw [← ageConditions_put, ← ageConditions_put] at hput
  exact congrArg (fun conditions => { a.gist with
    status := some { a.statusOrEmpty with conditions := conditions } }) hput

/-- **The time of a pass over a Source does not matter.** -/
theorem gist_tended_time (a : Source) (now now' : String) :
    (a.tended f now).gist = (a.tended f now').gist := by
  unfold tended answered
  split
  · cases f (.create a.held.spec) <;> exact gist_withCondition _ rfl
  · cases f (.update a.held.externalId { a.held.spec with id := a.held.externalId }) <;>
      exact gist_withCondition _ rfl

end Source

/-- **The time of a pass over a HotNews does not matter.** -/
theorem HotNews.gist_worked_time {f : Service} {settings : Settings} (cm? : Option ConfigMap)
    (a : HotNews) (now now' : String) :
    (a.worked f settings cm? now).gist = (a.worked f settings cm? now').gist := by
  unfold worked
  split
  · rfl
  · have hput : ∀ c : String → Condition,
        { c now with lastUpdateTime := "" } = { c now' with lastUpdateTime := "" } →
        Store.ageConditions "" ((c now).put a.held.statusOrEmpty.conditions) =
          Store.ageConditions "" ((c now').put a.held.statusOrEmpty.conditions) := fun c same => by
      rw [ageConditions_put, ageConditions_put, same]
    cases a.finding f settings cm? with
    | error e =>
      exact congrArg (fun conditions => { a.held.gist with
        status := some { a.held.statusOrEmpty with conditions := conditions } })
        (hput (.make a.held.nextKind false · e.1.text e.2.message) rfl)
    | ok found =>
      exact congrArg (fun conditions => { a.held.gist with
        status := some { summarized now a.held.spec a.held.statusOrEmpty.conditions found with
          conditions := conditions } })
        (hput (.make a.held.nextKind true · Condition.Reason.reconciled.text
          (String.ofList (Text.decimal found.articles.length) ++ " articles found")) rfl)

/-! ## Two passes -/

/-- The UID of the HotNews under a key. -/
def Store.uid? (s : Store) (key : ObjectKey) : Option String :=
  (s.hotNews.get? key).bind (·.metadata.uid)

/-- A pass gives the HotNews itself as an owner. -/
theorem Store.uid_newOwner? {s : Store} {settings : Settings} {key k : ObjectKey}
    {owner : OwnerReference} (h : s.newOwner? settings key k = some owner) :
    s.uid? key = some owner.uid := by
  obtain ⟨hotNews, stored, h⟩ := Option.bind_eq_some_iff.mp h
  obtain ⟨ns, -, h⟩ := Option.bind_eq_some_iff.mp h
  obtain ⟨cm, -, h⟩ := Option.bind_eq_some_iff.mp h
  obtain ⟨made, howner, h⟩ := Option.bind_eq_some_iff.mp h
  obtain rfl : made = owner := by
    split at h
    · exact Option.some.inj h
    · cases h
  rw [uid?, stored]
  exact HotNews.uid_of_ownerReference? howner

namespace Subject

/-- Two Sources with different keys, two HotNews with different UIDs, or one of each. -/
def Apart (s : Store) : Subject → Subject → Prop
  | .source key, .source key' => key ≠ key'
  | .hotNews _ key, .hotNews _ key' => s.uid? key ≠ s.uid? key'
  | _, _ => True

variable {f : Service} {s t u v w : Store} {p q : Subject}

theorem Apart.symm (h : Apart s p q) : Apart s q p := by
  cases p <;> cases q <;> first | trivial | exact Ne.symm h

/-- A pass over a Source and one over a HotNews make the same of a Source. -/
theorem gist_onSource_mixed (key : ObjectKey) (settings : Settings) (key' : ObjectKey)
    (n₁ n₂ n₃ n₄ : String) (k : ObjectKey) (a : Source) :
    ((hotNews settings key').onSource f n₂ s k ((source key).onSource f n₁ s k a)).gist =
      ((source key).onSource f n₄ s k ((hotNews settings key').onSource f n₃ s k a)).gist := by
  simp only [onSource]
  split
  · rw [← Source.tended_withOwner?]
    exact Source.gist_tended_time _ n₁ n₄
  · rfl

/-- **What two passes make of a Source has one gist in either order.** -/
theorem gist_onSource_comm (apart : Apart s p q) (n₁ n₂ n₃ n₄ : String) (k : ObjectKey)
    (a : Source) : (q.onSource f n₂ s k (p.onSource f n₁ s k a)).gist =
      (p.onSource f n₄ s k (q.onSource f n₃ s k a)).gist := by
  cases p with
  | source key =>
    cases q with
    | source key' =>
      simp only [onSource]
      by_cases hk : k = key
      · have hk' : k ≠ key' := fun h => apart (hk.symm.trans h)
        rw [if_pos hk, if_pos hk, if_neg hk', if_neg hk']
        exact a.gist_tended_time n₁ n₄
      · rw [if_neg hk, if_neg hk]
        split
        · exact a.gist_tended_time n₂ n₃
        · rfl
    | hotNews settings key' => exact gist_onSource_mixed key settings key' n₁ n₂ n₃ n₄ k a
  | hotNews settings key =>
    cases q with
    | source key' => exact (gist_onSource_mixed key' settings key n₃ n₄ n₁ n₂ k a).symm
    | hotNews settings' key' =>
      simp only [onSource]
      cases hx : s.newOwner? settings key k with
      | none => rfl
      | some x =>
        cases hy : s.newOwner? settings' key' k with
        | none => rfl
        | some y =>
          have huids : some x.uid ≠ some y.uid := by
            rw [← Store.uid_newOwner? hx, ← Store.uid_newOwner? hy]
            exact apart
          exact a.gist_withOwner_comm fun h => huids (congrArg some h)

/-- **So has what they make of a HotNews.** -/
theorem gist_onHotNews_comm (apart : Apart s p q) (n₁ n₂ n₃ n₄ : String) (k : ObjectKey)
    (a : HotNews) : (q.onHotNews f n₂ s k (p.onHotNews f n₁ s k a)).gist =
      (p.onHotNews f n₄ s k (q.onHotNews f n₃ s k a)).gist := by
  cases p with
  | source key =>
    cases q with
    | source key' => rfl
    | hotNews settings key' =>
      simp only [onHotNews, id]
      split
      · exact HotNews.gist_worked_time _ a n₂ n₃
      · rfl
  | hotNews settings key =>
    cases q with
    | source key' =>
      simp only [onHotNews, id]
      split
      · exact HotNews.gist_worked_time _ a n₁ n₄
      · rfl
    | hotNews settings' key' =>
      have hne : key ≠ key' := fun h => apart (congrArg s.uid? h)
      simp only [onHotNews]
      by_cases hk : k = key
      · rw [if_pos hk, if_pos hk, if_neg (hk ▸ hne), if_neg (hk ▸ hne)]
        exact HotNews.gist_worked_time _ a n₁ n₄
      · rw [if_neg hk, if_neg hk]
        split
        · exact HotNews.gist_worked_time _ a n₂ n₃
        · rfl

/-- The result of a pass does not depend on whether another one came first. -/
theorem verdict_after {now : String} {r : Except PassError Action} (apart : Apart s p q)
    (h : p.Effect f now s r u) : q.verdict f u = q.verdict f s := by
  cases q with
  | source key =>
    have told : ∀ x : Store, (source key).verdict f x = Except.mapError .source
        ((x.sources.view key).elim (.ok .awaitChange) (Source.verdict f)) := fun x => by
      unfold Catalog.view
      cases hx : x.sources.get? key with
      | none => simp only [verdict, hx, Option.elim_none, Option.map_none]
      | some a =>
        simp only [verdict, hx, Option.elim_some, Option.map_some]
        rfl
    rw [told, told, h.sources]
    cases p with
    | source key' =>
      rw [onSource, if_neg (Ne.symm apart), Option.map_id]
      rfl
    | hotNews settings key' =>
      cases s.sources.view key with
      | none => rfl
      | some a => exact congrArg _ (Source.verdict_withOwner? a _)
  | hotNews settings key =>
    have config : HotNews.config? settings u = HotNews.config? settings s := by
      unfold HotNews.config?
      rw [h.configMaps]
    rcases h.sameWishes.hotNews_cases key with ⟨ha, hb⟩ | ⟨a, b, ha, hb, wish⟩
    · simp only [verdict, ha, hb, Option.elim_none]
    · simp only [verdict, ha, hb, Option.elim_some, config, HotNews.verdict_congr wish]

end Subject

/-! ## Both -/

namespace Subject

variable {f : Service} {s t u v w : Store} {p q : Subject} {n₁ n₂ n₃ n₄ : String}
variable {r₁ r₂ r₃ r₄ : Except PassError Action}

/-- What two passes in a row make of the objects is told by the store before both. -/
theorem sources_of_effects (hs : s.Sound) (ht : t.Sound) (first : p.Effect f n₁ s r₁ t)
    (second : q.Effect f n₂ t r₂ u) (k : ObjectKey) :
    (u.sources.get? k).map Source.gist = (s.sources.view k).map fun a =>
      (q.onSource f n₂ s k (p.onSource f n₁ s k a)).gist := by
  have hview : (u.sources.get? k).map Source.gist = (u.sources.view k).map Source.gist := by
    rw [Catalog.view, Option.map_map]
    rfl
  rw [hview, second.sources, onSource_congr first.sameWishes hs ht, first.sources, Option.map_map,
    Option.map_map]
  rfl

theorem hotNews_of_effects (first : p.Effect f n₁ s r₁ t) (second : q.Effect f n₂ t r₂ u)
    (k : ObjectKey) : (u.hotNews.get? k).map HotNews.gist = (s.hotNews.view k).map fun a =>
      (q.onHotNews f n₂ s k (p.onHotNews f n₁ s k a)).gist := by
  have hview : (u.hotNews.get? k).map HotNews.gist = (u.hotNews.view k).map HotNews.gist := by
    rw [Catalog.view, Option.map_map]
    rfl
  rw [hview, second.hotNews, onHotNews_congr first.sameWishes, first.hotNews, Option.map_map,
    Option.map_map]
  rfl

/-- **Two passes leave the same in either order.** -/
theorem alike_of_effects (hs : s.Sound) (ht : t.Sound) (hv : v.Sound) (hu : u.Calm) (hw : w.Calm)
    (apart : Apart s p q) (first : p.Effect f n₁ s r₁ t) (second : q.Effect f n₂ t r₂ u)
    (first' : q.Effect f n₃ s r₃ v) (second' : p.Effect f n₄ v r₄ w) : u.Alike w where
  sources k := by
    rw [sources_of_effects hs ht first second, sources_of_effects hs hv first' second']
    simp only [gist_onSource_comm apart n₁ n₂ n₃ n₄]
  hotNews k := by
    rw [hotNews_of_effects first second, hotNews_of_effects first' second']
    simp only [gist_onHotNews_comm apart n₁ n₂ n₃ n₄]
  configMaps := by
    rw [second.configMaps, first.configMaps, second'.configMaps, first'.configMaps]
  sourceConflicts := hu.sourceConflicts.trans hw.sourceConflicts.symm
  failStatusWrites := hu.failStatusWrites.trans hw.failStatusWrites.symm
  failLists := hu.failLists.trans hw.failLists.symm

end Subject

namespace Visit

/-- Two visits in a row: both results, and the store after both. -/
def both (f : Service) (now now' : String) (first second : Visit) (s : Store) :
    Except PassError Action × Except PassError Action × Store :=
  let (r, t) := first.run f now s
  let (r', u) := second.run f now' t
  (r, r', u)

end Visit

/-- **Passes commute.** In a store that comes about, shows no failure and has a finalizer on every
object that is marked for deletion, let two live objects be given: two Sources, two HotNews with
different UIDs, or one of each. With a service whose answer depends on the request alone, a pass
over each has the same result in either order, and both orders leave the same store, but for
versions, the times of conditions and the order of owners. -/
theorem order_independent (f : Service) {first second : Visit} {p q : Subject} {s : Store}
    (built : s.Built) (calm : s.Calm) (stay : s.NoneLeaving) (about : first.subject? = some p)
    (about' : second.subject? = some q) (live : p.IsLive s) (live' : q.IsLive s)
    (apart : p.Apart s q) (n₁ n₂ n₃ n₄ : String) :
    (Visit.both f n₁ n₂ first second s).1 = (Visit.both f n₃ n₄ second first s).2.1 ∧
    (Visit.both f n₁ n₂ first second s).2.1 = (Visit.both f n₃ n₄ second first s).1 ∧
    (Visit.both f n₁ n₂ first second s).2.2.Alike (Visit.both f n₃ n₄ second first s).2.2 := by
  have quiet : s.Quiet := ⟨built.sound, calm, stay⟩
  have quiet₁ := Visit.quiet_run f n₁ quiet about live
  have quiet₃ := Visit.quiet_run f n₃ quiet about' live'
  have leads := Visit.effect f n₁ quiet about live
  have follows := Visit.effect f n₂ quiet₁ about' (leads.live live')
  have leads' := Visit.effect f n₃ quiet about' live'
  have follows' := Visit.effect f n₄ quiet₃ about (leads'.live live)
  refine ⟨?_, ?_, ?_⟩
  · exact leads.result.trans
      ((Subject.verdict_after apart.symm leads').symm.trans follows'.result.symm)
  · exact follows.result.trans ((Subject.verdict_after apart leads).trans leads'.result.symm)
  · exact Subject.alike_of_effects quiet.sound quiet₁.sound quiet₃.sound
      (Visit.quiet_run f n₂ quiet₁ about' (leads.live live')).calm
      (Visit.quiet_run f n₄ quiet₃ about (leads'.live live)).calm
      apart leads follows leads' follows'

/-- The owners of the Source of the newsroom after two passes. -/
def ownersAfter (first second : Visit) : Option (List String) :=
  ((Visit.both unreachable "nine" "ten" first second newsroom).2.2.sources.get?
    ⟨"news", "bbc"⟩).map (·.metadata.owners.map (·.uid))

/-- Two HotNews join the owners of one Source in the order of their passes, which both fail after
that, and all else is the same. -/
theorem newsroom_order_independent :
    ownersAfter worldVisit sportVisit = some ["uid-other", "uid-world", "uid-sport"] ∧
    ownersAfter sportVisit worldVisit = some ["uid-other", "uid-sport", "uid-world"] ∧
    (Visit.both unreachable "nine" "ten" worldVisit sportVisit newsroom).2.2.Alike
      (Visit.both unreachable "nine" "ten" sportVisit worldVisit newsroom).2.2 := by
  have stay : newsroom.NoneLeaving := .of_entries (by decide +kernel) (by decide +kernel)
  have about : worldVisit.subject? = some (.hotNews {} ⟨"news", "world"⟩) := rfl
  have about' : sportVisit.subject? = some (.hotNews {} ⟨"news", "sport"⟩) := rfl
  have apart : newsroom.uid? ⟨"news", "world"⟩ ≠ newsroom.uid? ⟨"news", "sport"⟩ := by
    decide +kernel
  exact ⟨by decide +kernel, by decide +kernel,
    (order_independent unreachable built_newsroom ⟨rfl, rfl, rfl⟩ stay about about'
      ⟨_, rfl, rfl⟩ ⟨_, rfl, rfl⟩ apart "nine" "ten" "nine" "ten").2.2⟩

end FeedOperator
