import FeedOperator.Proofs.Recording
import FeedOperator.Proofs.Reporting
import FeedOperator.Proofs.Resuming
import FeedOperator.Proofs.Retrying

/-!
# What a pass that fails leaves

A pass that fails leaves what its object says of the outside world, and changes one of its
conditions at most. If a step of it failed that is written of, the write decides on the error: it is
that of the step if the write went through, and that of the write if not. All this holds whatever
failures are set while the pass runs. There are two exceptions by design: a summary that could not
be written comes to the status with the write that tells of that, and a pass that finalizes a
HotNews may have unlinked some Sources before it fails.

* `OneApart`: lists that differ in one entry at most.
* `TellsFailure`: conditions that tell of a failure in given words.
* `Source.Reports`, `HotNews.Reports`: calls that end with such a write, and the error after it.
* `HotNews.StepFails`: a step of a pass over a live HotNews that fails, as its calls tell.
* `Source.Contained`, `HotNews.Contained`: all this about a pass over a Source or a HotNews.

Results:
* `Condition.oneApart_enter`: entering a condition changes one entry at most.
* `HotNews.Course.begun_of_lookup`: only a pass over a live HotNews looks up the ConfigMap, and
  it does so once.
* `Source.Course.contained`, `HotNews.Course.contained`: what the courses do of a failure.
* `Visit.failure_contained`: what a visit does of it.
-/

namespace FeedOperator

/-! ## Conditions -/

/-- Lists that differ in one entry at most, which may be a new one at the end. -/
inductive OneApart {α : Type} : List α → List α → Prop
  | same (xs : List α) : OneApart xs xs
  | changed (front back : List α) (x y : α) : OneApart (front ++ x :: back) (front ++ y :: back)
  | added (xs : List α) (y : α) : OneApart xs (xs ++ [y])

theorem OneApart.cons {α : Type} {xs ys : List α} (h : OneApart xs ys) (x : α) :
    OneApart (x :: xs) (x :: ys) := by
  cases h with
  | same => exact .same (x :: xs)
  | changed front back y z => exact .changed (x :: front) back y z
  | added _ y => exact .added (x :: xs) y

namespace Condition

/-- Entering a condition changes one entry at most. -/
theorem oneApart_enter (c : Condition) (cs : List Condition) : OneApart cs (c.enter cs) := by
  induction cs with
  | nil => exact .added [] c
  | cons d rest ih =>
    unfold enter
    split
    · exact .changed [] rest d c
    · exact ih.cons d

end Condition

/-- Conditions among which one tells of a failure in given words. -/
def TellsFailure (cs : List Condition) (message : String) : Prop :=
  ∃ c ∈ cs, c.status = .fails ∧ c.message = message

theorem tellsFailure_put (kind : Condition.Kind) (now reason message : String)
    (cs : List Condition) :
    TellsFailure ((Condition.make kind false now reason message).put cs) message := by
  obtain ⟨d, hd, -, outcome⟩ := Condition.exists_mem_put (.make kind false now reason message) cs
  obtain ⟨hstatus, -, hmessage⟩ := Condition.sameOutcome_iff.mp outcome
  exact ⟨d, hd, hstatus, hmessage⟩

/-- What a failed pass leaves of the status of its object. -/
theorem Recording.of_error {es : List Event} {e : PassError} {a b : Resource}
    (h : Recording es (.error e) a b) :
    (b.observed = a.observed ∨ Belated es (.error e) a b.observed) ∧
      OneApart a.conditions b.conditions := by
  cases h with
  | silent _ conditions observed => exact ⟨.inl observed, conditions ▸ .same _⟩
  | told c _ _ _ conditions failed => exact ⟨failed e rfl, conditions ▸ c.oneApart_enter _⟩

/-! ## Sources -/

namespace Source

/-- Calls that end with a write of the status which tells of an error of the service. The pass fails
with that error if the write went through, and with the error of the write if not. -/
def Reports (key : ObjectKey) (e : ServiceError) (es : List Event)
    (r : Except PassError Action) : Prop :=
  ∃ front new answer, es = front ++ [.ofStore (.replaceSourceStatus new) answer] ∧
    new.key = key ∧ TellsFailure new.statusOrEmpty.conditions e.message ∧
    r = .error (.source (match answer with
      | .ok _ => .service e
      | .error e' => .store e'))

/-- What a pass over a Source does of a failure. -/
structure Contained (key : ObjectKey) (s : Store) (es : List Event) (r : Except PassError Action)
    (u : Store) : Prop where
  /-- If it fails the id is as before, and one condition differs at most. -/
  intact : ∀ e, r = .error e → ∃ a b, s.sources.get? key = some a ∧ u.sources.get? key = some b ∧
    b.statusOrEmpty.id = a.statusOrEmpty.id ∧
    OneApart a.statusOrEmpty.conditions b.statusOrEmpty.conditions
  /-- It writes of a failed request to register or update, and fails. -/
  own : ∀ c e, .ofService c (.error e) ∈ es → c.method ≠ .delete → Reports key e es r

variable {w : Climate} {now ns name : String} {s t u : Store} {es holds : List Event}
variable {source mine : Source}

theorem reports_of_outcome {α : Type} {c : ServiceCall} {answer : c.Answer} {e : ServiceError}
    {new : Source} {key : ObjectKey} (hkey : new.key = key)
    (tells : TellsFailure new.statusOrEmpty.conditions e.message) :
    Reports key e (firstRead s ns name :: (holds ++ [.ofService c answer,
      .ofStore (.replaceSourceStatus new) (t.replaceSourceStatus new).1]))
      (((outcome (α := α) (.error e) (t.replaceSourceStatus new).1).map
        fun _ => Action.awaitChange).mapError .source) := by
  refine ⟨firstRead s ns name :: (holds ++ [.ofService c answer]), new,
    (t.replaceSourceStatus new).1, by simp, hkey, tells, ?_⟩
  cases (t.replaceSourceStatus new).1 <;> rfl

theorem Course.contained {r : Except SourceError Action} (hs : s.Sound)
    (h : Course w now ns name s es r u) :
    Contained ⟨ns, name⟩ s es (r.mapError .source) u := by
  constructor
  · intro e he
    have hstored : ∃ b, u.sources.get? ⟨ns, name⟩ = some b := by
      rcases h.ok_or_stored with ⟨action, rfl⟩ | ⟨a, stored, live | same⟩
      · cases he
      · have hev := (h.tended hs).sources.evolves ⟨ns, name⟩
        rw [stored] at hev
        obtain ⟨b, hb, -⟩ := hev.still (by simp [Object.IsMarked, live])
        exact ⟨b, hb⟩
      · exact ⟨a, same ▸ stored⟩
    obtain ⟨b, hb⟩ := hstored
    obtain ⟨a, ha, recording⟩ := h.recording hs hb
    rw [he] at recording
    obtain ⟨observed | belated, conditions⟩ := recording.of_error
    · exact ⟨a, b, ha, hb, by simpa [Resource.observed] using observed, conditions⟩
    · cases belated
  · intro c e failed other
    have hkey : ∀ {source mine front t v}, w.Meets s t →
        s.sources.get? ⟨ns, name⟩ = some source → source.metadata.isDeleted = false →
        Held w t source front (.ok mine) v → mine.key = ⟨ns, name⟩ := by
      intro source mine front t v meets stored live holds
      obtain ⟨hkey, found⟩ := w.source_stands meets hs stored
      exact (holds.holding found live).key_eq.trans hkey
    cases h with
    | absent => exact absurd failed (WithoutRequests.cons_store .nil c _)
    | unheld _ _ _ holds =>
      exact absurd failed (WithoutRequests.cons_store holds.withoutRequests c _)
    | finalized _ _ _ ends =>
      exact absurd (ends.unchanged (Event.mem_of_mem_cons_store failed)).1 other
    | registered answer meets stored live holds =>
      cases WithoutRequests.eq_of_mem (.cons_store holds.withoutRequests) (.cons_store .nil) failed
      exact reports_of_outcome ((key_registered ..).trans (hkey meets stored live holds))
        (tellsFailure_put ..)
    | updated answer meets stored live holds =>
      cases WithoutRequests.eq_of_mem (.cons_store holds.withoutRequests) (.cons_store .nil) failed
      exact reports_of_outcome ((key_updated ..).trans (hkey meets stored live holds))
        (tellsFailure_put ..)

end Source

/-! ## HotNews -/

/-- Whether a call looks up a ConfigMap. -/
def Call.LooksUp : Call → Prop
  | .store (.getConfigMap _ _) => True
  | _ => False

namespace HotNews

/-- Calls that end with a write of the status which tells of an error. The pass fails with that
error if the write went through, and with the error of the write if not. -/
def Reports (key : ObjectKey) (e : HotNewsError) (es : List Event)
    (r : Except PassError Action) : Prop :=
  ∃ front new answer, es = front ++ [.ofStore (.replaceHotNewsStatus new) answer] ∧
    new.key = key ∧ TellsFailure new.statusOrEmpty.conditions e.message ∧
    r = .error (.hotNews (reported e answer))

/-- A step of a pass over a live HotNews that fails, as the calls of the pass tell: the lookup of
the ConfigMap, the linking of the Sources, or the search. -/
inductive StepFails (settings : Settings) (key : ObjectKey) (s : Store) (es : List Event) :
    HotNewsError → Prop
  | lookup
    (absent : .ofStore (.getConfigMap settings.feedGroup.ns settings.feedGroup.name) (.ok none) ∈
      es) : StepFails settings key s es (.configMapNotFound settings.feedGroup)
  | linking {a : HotNews} {cm : ConfigMap} {front links back : List Event} {e : StoreError}
    (stored : s.hotNews.get? key = some a)
    (calls : es = front ++
      .ofStore (.getConfigMap settings.feedGroup.ns settings.feedGroup.name) (.ok (some cm)) ::
        (links ++ back))
    (failed : (linkSources key.ns a (a.effective cm)).run.Answered links (.error e)) :
    StepFails settings key s es (.ownerReference e)
  | search {query : ArticleQuery} {e : ServiceError}
    (failed : .ofService (.fetch query) (.error e) ∈ es) :
    StepFails settings key s es (.fetchArticles e)

/-- A HotNews that is marked for deletion, and of which some Sources lost the reference. -/
def PartlyFreed (key : ObjectKey) (s u : Store) : Prop :=
  ∃ a uid, s.hotNews.get? key = some a ∧ a.metadata.isDeleted = true ∧
    a.metadata.uid = some uid ∧
    s.sources.Changes (Source.Relinked uid []) Object.IsLeaving (·.ns = key.ns) u.sources

/-- What a pass over a HotNews does of a failure. -/
structure Contained (settings : Settings) (key : ObjectKey) (s : Store) (es : List Event)
    (r : Except PassError Action) (u : Store) : Prop where
  /-- If it fails what was found is as before, unless it came belatedly, and one condition differs
  at most. -/
  intact : ∀ e, r = .error e → ∃ a b, s.hotNews.get? key = some a ∧ u.hotNews.get? key = some b ∧
    (b.statusOrEmpty.articlesCount = a.statusOrEmpty.articlesCount ∧
        b.statusOrEmpty.newsLink = a.statusOrEmpty.newsLink ∧
        b.statusOrEmpty.articlesTitles = a.statusOrEmpty.articlesTitles ∨
      Belated es r (.hotNews a) (Resource.observed (.hotNews b))) ∧
    OneApart a.statusOrEmpty.conditions b.statusOrEmpty.conditions
  /-- If it fails and the ConfigMap is not there, it searched nothing, and left all Sources alone
  unless it was to finalize the HotNews. -/
  unconfigured : ∀ e, r = .error e → config? settings s = none →
    WithoutRequests es ∧ (u.sources = s.sources ∨ PartlyFreed key s u)
  /-- If linking fails it searches nothing. -/
  unlinked : ∀ e, StepFails settings key s es (.ownerReference e) → WithoutRequests es
  /-- It writes of a step that fails, and fails. -/
  own : ∀ e, StepFails settings key s es e → Reports key e es r

variable {w : Climate} {settings : Settings} {now ns name : String} {s t u v : Store}
variable {es holds front rest back links : List Event} {a mine : HotNews}

/-! ### The lookup -/

theorem not_looksUp_of_edits (h : ∀ e ∈ es, e.call.EditsSources) : ∀ e ∈ es, ¬ e.call.LooksUp := by
  rintro ⟨c | c, answer⟩ hmem looks
  · cases c with
    | getConfigMap => exact h _ hmem
    | _ => exact looks
  · exact looks

theorem Held.not_looksUp {r : Except HotNewsError HotNews} (h : Held w s a es r u) :
    ∀ e ∈ es, ¬ e.call.LooksUp := by
  cases h with
  | already => simp
  | written => simp [Call.LooksUp]

theorem Failed.not_looksUp {kind : Condition.Kind} {reason : Condition.Reason}
    {error : HotNewsError} {r : Except HotNewsError Unit}
    (h : Failed w now s mine kind reason error es r u) : ∀ e ∈ es, ¬ e.call.LooksUp := by
  cases h with
  | reported => simp [Call.LooksUp]

theorem Finalized.not_looksUp {r : Except HotNewsError Action} (h : Finalized w s a es r u) :
    ∀ e ∈ es, ¬ e.call.LooksUp := by
  cases h with
  | unheld | unplaced => simp
  | stuck _ _ _ unlinking =>
    exact not_looksUp_of_edits (unlinking.within (within_unlinkSources _ _))
  | released _ _ frees =>
    refine List.forall_mem_append.mpr ⟨?_, by simp [Call.LooksUp]⟩
    cases frees with
    | unidentified => simp
    | unlinked _ unlinking =>
      exact not_looksUp_of_edits (unlinking.within (within_unlinkSources _ _))

/-- Refreshing looks up the ConfigMap once, at its start. -/
theorem Refreshed.looksUp_once {r : Except HotNewsError Unit}
    (goes : Refreshed w settings now t mine es r u) (placed : mine.metadata.ns ≠ none) :
    ∃ rest, es = lookup settings t :: rest ∧ ∀ e ∈ rest, ¬ e.call.LooksUp := by
  have links : ∀ {ns names front t v} {linked : Except StoreError (List String)},
      (linkSources ns mine names).run.LeadsIn w t front linked v →
      ∀ e ∈ front, ¬ e.call.LooksUp :=
    fun h => not_looksUp_of_edits (h.within (within_linkSources _ _ _))
  cases goes with
  | unplaced nowhere => exact absurd nowhere placed
  | unconfigured _ _ _ fails => exact ⟨_, rfl, fails.not_looksUp⟩
  | unlinked _ _ _ linking fails =>
    exact ⟨_, rfl, List.forall_mem_append.mpr ⟨links linking, fails.not_looksUp⟩⟩
  | unfetched _ _ _ linking fails =>
    refine ⟨_, rfl, List.forall_mem_append.mpr ⟨links linking, ?_⟩⟩
    exact List.forall_mem_cons.mpr ⟨id, fails.not_looksUp⟩
  | unwritten _ _ _ linking _ _ fails =>
    refine ⟨_, rfl, List.forall_mem_append.mpr ⟨links linking, ?_⟩⟩
    exact List.forall_mem_cons.mpr ⟨id, List.forall_mem_cons.mpr ⟨id, fails.not_looksUp⟩⟩
  | summarized _ _ _ linking =>
    refine ⟨_, rfl, List.forall_mem_append.mpr ⟨links linking, ?_⟩⟩
    simp [Call.LooksUp]

/-- A pass over a live HotNews that came to look up the ConfigMap, with the calls before that and
after it, none of which is a lookup. -/
structure Begun (w : Climate) (settings : Settings) (now : String) (key : ObjectKey) (s : Store)
    (front : List Event) (a mine : HotNews) (v : Store) (rest : List Event)
    (r : Except HotNewsError Unit) (u : Store) : Prop where
  stored : s.hotNews.get? key = some a
  kept : a.Kept mine
  placed : mine.metadata.ns = some key.ns
  key_eq : mine.key = key
  before : ∀ e ∈ front, ¬ e.call.LooksUp
  after : ∀ e ∈ rest, ¬ e.call.LooksUp
  silent : WithoutRequests front
  goes : Refreshed w settings now v mine (lookup settings v :: rest) r u

/-- A pass that looks up a ConfigMap is over a live HotNews, and it does so once. -/
theorem Course.begun_of_lookup {r : Except HotNewsError Action} (hs : s.Sound)
    (h : Course w settings now ns name s es r u) {e : Event} (hmem : e ∈ es)
    (looks : e.call.LooksUp) :
    ∃ front a mine v rest r', Begun w settings now ⟨ns, name⟩ s front a mine v rest r' u ∧
      es = front ++ lookup settings v :: rest ∧ r = r'.map fun _ => .requeue settings.resync := by
  cases h with
  | absent =>
    obtain rfl := List.mem_singleton.mp hmem
    exact looks.elim
  | finalized _ _ _ ends =>
    exact absurd looks (List.forall_mem_cons.mpr ⟨id, ends.not_looksUp⟩ e hmem)
  | unheld _ _ _ held =>
    exact absurd looks (List.forall_mem_cons.mpr ⟨id, held.not_looksUp⟩ e hmem)
  | @refreshed a mine holds es t v _ _ meets stored live held goes =>
    have before : ∀ e ∈ firstRead s ns name :: holds, ¬ e.call.LooksUp :=
      List.forall_mem_cons.mpr ⟨id, held.not_looksUp⟩
    obtain ⟨hkey, found⟩ := w.hotNews_stands meets hs stored
    have holding := held.holding found live
    have kept := holding.refinalized.kept
    have placed : mine.metadata.ns = some ns := by
      cases hns : mine.metadata.ns with
      | none =>
        cases goes with
        | unplaced =>
          rw [List.append_nil] at hmem
          exact absurd looks (before e hmem)
        | unconfigured placed | unlinked placed | unfetched placed | unwritten placed
        | summarized placed => cases hns.symm.trans placed
      | some ns' =>
        have := congrArg ObjectKey.ns (kept.key_eq.trans hkey)
        simp only [Object.key, ObjectKey.ofMeta, hns, Option.getD_some] at this
        rw [this]
    obtain ⟨rest, rfl, after⟩ := goes.looksUp_once (by simp [placed])
    exact ⟨_, a, mine, v, rest, _, ⟨stored, kept, placed, kept.key_eq.trans hkey, before, after,
      .cons_store held.withoutRequests, goes⟩, rfl, rfl⟩

/-! ### Steps that fail -/

theorem Failed.reportsTo {kind : Condition.Kind} {reason : Condition.Reason} {error : HotNewsError}
    {action : Action} {r : Except HotNewsError Unit}
    (h : Failed w now t mine kind reason error rest r u) (front : List Event) :
    Reports mine.key error (front ++ rest) ((r.map fun _ => action).mapError .hotNews) := by
  cases h with
  | reported =>
    exact ⟨front, mine.failed now kind reason error, _, rfl, rfl, tellsFailure_put .., rfl⟩

/-- A lookup that fails is written of. -/
theorem Refreshed.unconfigured_of {r : Except HotNewsError Unit}
    (absent : config? settings t = none)
    (goes : Refreshed w settings now t mine (lookup settings t :: rest) r u) :
    ∃ v, Failed w now v mine mine.nextKind .configMapNotFound
      (.configMapNotFound settings.feedGroup) rest r u := by
  cases goes with
  | unconfigured _ _ _ fails => exact ⟨_, fails⟩
  | unlinked _ _ found | unfetched _ _ found | unwritten _ _ found | summarized _ _ found =>
    cases absent.symm.trans found

/-- Linking that fails is written of. -/
theorem Refreshed.unlinked_of {r : Except HotNewsError Unit} {cm : ConfigMap} {e : StoreError}
    (placed : mine.metadata.ns = some ns) (found : config? settings t = some cm)
    (failed : (linkSources ns mine (mine.effective cm)).run.Answered links (.error e))
    (goes : Refreshed w settings now t mine (lookup settings t :: (links ++ back)) r u) :
    WithoutRequests links ∧ ∃ v, Failed w now v mine mine.nextKind .ownerReferenceFailed
      (.ownerReference e) back r u := by
  -- The answers settle where linking ends and that it fails.
  have once : ∀ {ns' cm' links' back' r' v v'}, mine.metadata.ns = some ns' →
      t.configMaps.get? ⟨settings.feedGroup.ns, settings.feedGroup.name⟩ = some cm' →
      (linkSources ns' mine (mine.effective cm')).run.LeadsIn w v links' r' v' →
      links ++ back = links' ++ back' → links' = links ∧ r' = .error e ∧ back' = back := by
    intro ns' cm' links' back' r' v v' placed' found' run' same
    obtain rfl := Option.some.inj (placed.symm.trans placed')
    obtain rfl := Option.some.inj (found.symm.trans found')
    exact failed.unique run'.answered same
  generalize hes : lookup settings t :: (links ++ back) = es at goes
  cases goes with
  | unplaced nowhere => cases nowhere.symm.trans placed
  | unconfigured _ _ absent => cases absent.symm.trans found
  | unlinked placed' _ found' run fails =>
    obtain ⟨rfl, he, rfl⟩ := once placed' found' run (List.cons.inj hes).2
    obtain rfl := Except.error.inj he
    exact ⟨withoutRequests_of_linking run, _, fails⟩
  | unfetched placed' _ found' run | unwritten placed' _ found' run
  | summarized placed' _ found' run =>
    obtain ⟨-, hr, -⟩ := once placed' found' run (List.cons.inj hes).2
    cases hr

/-- A search that fails is written of. -/
theorem Refreshed.unfetched_of {r : Except HotNewsError Unit} {query : ArticleQuery}
    {e : ServiceError} (failed : .ofService (.fetch query) (.error e) ∈ es)
    (goes : Refreshed w settings now t mine es r u) :
    ∃ front rest v, es = front ++ rest ∧ Failed w now v mine mine.nextKind .fetchArticlesFailed
      (.fetchArticles e) rest r u := by
  cases goes with
  | unplaced => cases failed
  | unconfigured _ _ _ fails =>
    exact absurd failed (WithoutRequests.cons_store fails.withoutRequests _ _)
  | unlinked _ _ _ linking fails =>
    exact absurd failed
      (WithoutRequests.cons_store ((withoutRequests_of_linking linking).append fails.withoutRequests) _ _)
  | @unfetched _ cm front _ _ _ _ _ _ _ _ _ _ linking fails =>
    cases (WithoutRequests.cons_store (withoutRequests_of_linking linking)).eq_of_mem fails.withoutRequests failed
    exact ⟨lookup settings t :: (front ++ [.ofService (.fetch (mine.query cm)) (.error e)]), _, _,
      by simp, fails⟩
  | unwritten _ _ _ linking _ _ fails =>
    cases (WithoutRequests.cons_store (withoutRequests_of_linking linking)).eq_of_mem
      (.cons_store fails.withoutRequests) failed
  | summarized _ _ _ linking =>
    cases (WithoutRequests.cons_store (withoutRequests_of_linking linking)).eq_of_mem (.cons_store .nil) failed

/-- Linking depends on the owner that a HotNews makes, and that stays. -/
theorem linkSources_of_kept (kept : a.Kept mine) (cm : ConfigMap) :
    linkSources ns mine (mine.effective cm) = linkSources ns a (a.effective cm) := by
  unfold linkSources ownerReference? effective
  rw [kept.name_eq, kept.uid_eq, kept.spec_eq]

/-- Linking that fails is written of, and nothing is searched. -/
theorem Course.unlinked {r : Except HotNewsError Action} {e : StoreError} (hs : s.Sound)
    (h : Course w settings now ns name s es r u)
    (fails : StepFails settings ⟨ns, name⟩ s es (.ownerReference e)) :
    WithoutRequests es ∧ Reports ⟨ns, name⟩ (.ownerReference e) es (r.mapError .hotNews) := by
  cases fails with
  | @linking a cm front links back e stored calls failed =>
    have looked : .ofStore (.getConfigMap settings.feedGroup.ns settings.feedGroup.name)
        (.ok (some cm)) ∈ es := by
      rw [calls]
      exact List.mem_append_right front List.mem_cons_self
    obtain ⟨front, a, mine, v, rest, r', begun, hes, rfl⟩ := h.begun_of_lookup hs looked trivial
    obtain rfl := Option.some.inj (stored.symm.trans begun.stored)
    -- There is one lookup, so what follows it is the same.
    have before : .ofStore (.getConfigMap settings.feedGroup.ns settings.feedGroup.name)
        (.ok (some cm)) ∉ front := fun hmem => begun.before _ hmem trivial
    have after : .ofStore (.getConfigMap settings.feedGroup.ns settings.feedGroup.name)
        (.ok (some cm)) ∉ rest := fun hmem => begun.after _ hmem trivial
    obtain ⟨rfl, hlookup, rfl⟩ :=
      (List.append_cons_inj_of_notMem before after).mp (hes.symm.trans calls)
    have found : config? settings v = some cm := Except.ok.inj (eq_of_heq (Event.mk.inj hlookup).2)
    rw [← linkSources_of_kept begun.kept] at failed
    obtain ⟨quiet, _, fails⟩ := begun.goes.unlinked_of begun.placed found failed
    rw [hes]
    refine ⟨begun.silent.append (.cons_store (quiet.append fails.withoutRequests)), ?_⟩
    rw [← begun.key_eq]
    simpa using fails.reportsTo (front ++ lookup settings v :: _)

/-- A step that fails is written of, and decides on the error. -/
theorem Course.reports {r : Except HotNewsError Action} {e : HotNewsError} (hs : s.Sound)
    (h : Course w settings now ns name s es r u) (fails : StepFails settings ⟨ns, name⟩ s es e) :
    Reports ⟨ns, name⟩ e es (r.mapError .hotNews) := by
  cases fails with
  | lookup absent =>
    obtain ⟨front, a, mine, v, rest, r', begun, rfl, rfl⟩ := h.begun_of_lookup hs absent trivial
    have hlookup : .ofStore (.getConfigMap settings.feedGroup.ns settings.feedGroup.name)
        (.ok none) = lookup settings v := by
      rcases List.mem_append.mp absent with hmem | hmem
      · exact absurd trivial (begun.before _ hmem)
      · rcases List.mem_cons.mp hmem with heq | hmem
        · exact heq
        · exact absurd trivial (begun.after _ hmem)
    have missing := Except.ok.inj (eq_of_heq (Event.mk.inj hlookup).2)
    obtain ⟨_, failed⟩ := begun.goes.unconfigured_of missing.symm
    rw [← begun.key_eq]
    simpa using failed.reportsTo (front ++ [lookup settings v])
  | linking stored calls failed => exact (h.unlinked hs (.linking stored calls failed)).2
  | search hmem =>
    cases h with
    | absent => exact absurd hmem (WithoutRequests.cons_store .nil _ _)
    | finalized _ _ _ ends =>
      exact absurd hmem (WithoutRequests.cons_store ends.withoutRequests _ _)
    | unheld _ _ _ held => exact absurd hmem (WithoutRequests.cons_store held.withoutRequests _ _)
    | @refreshed _ mine holds back _ v _ _ meets stored live held goes =>
      obtain ⟨hkey, found⟩ := w.hotNews_stands meets hs stored
      rw [← (held.holding found live).key_eq.trans hkey]
      rcases List.mem_append.mp (Event.mem_of_mem_cons_store hmem) with hheld | hmem
      · exact absurd hheld (held.withoutRequests _ _)
      · obtain ⟨front, rest, _, rfl, failed⟩ := goes.unfetched_of hmem
        simpa using failed.reportsTo (firstRead s ns name :: (holds ++ front))

/-- Where the ConfigMap is not there, a pass that fails searched nothing, and it left all Sources
alone unless it was to finalize the HotNews. -/
theorem Course.untouched_of_unconfigured {e : HotNewsError} (hs : s.Sound)
    (h : Course w settings now ns name s es (.error e) u) (absent : config? settings s = none) :
    WithoutRequests es ∧ (u.sources = s.sources ∨ PartlyFreed ⟨ns, name⟩ s u) := by
  generalize hr : (Except.error e : Except HotNewsError Action) = r at h
  cases h with
  | absent => cases hr
  | unheld meets _ _ held =>
    exact ⟨.cons_store held.withoutRequests,
      .inl (held.sources_eq.trans (w.sameObjects meets).sources)⟩
  | @finalized hotNews _ _ t _ meets stored deleted ends =>
    refine ⟨.cons_store ends.withoutRequests, ?_⟩
    have same := w.sameObjects meets
    have ht := w.sound meets hs
    cases ends with
    | unheld => cases hr
    | unplaced => exact .inl same.sources
    | @stuck ns' uid _ _ _ _ placed identified unlinking =>
      obtain rfl := hs.hotNews_ns stored placed
      refine .inr ⟨hotNews, uid, stored, deleted, identified, ?_⟩
      rw [← same.sources]
      exact ((unlinkSources_leads ht unlinking).1.widen fun _ h => h.1).sources
    | @released _ _ _ v _ _ frees writes =>
      -- The HotNews is as it was when it was read, so the finalizer can be released.
      have current : v.hotNews.get? hotNews.released.key = some hotNews := by
        rw [(w.sameObjects writes).hotNews, frees.hotNews_eq ht, same.hotNews]
        exact (hs.hotNews_key stored).symm ▸ stored
      obtain ⟨_, hok, -⟩ := Store.replaceHotNews_of_current current rfl
      rw [hok] at hr
      cases hr
  | @refreshed hotNews mine holds _ t v _ _ meets stored live held goes =>
    have same := w.sameObjects meets
    have sources := held.sources_eq.trans same.sources
    have maps : config? settings v = none := by
      have found := (w.hotNews_stands meets hs stored).2
      rw [← absent, config?, (held.holding found live).rest.configMaps, same.configMaps]
      rfl
    cases goes with
    | unplaced => exact ⟨.cons_store (held.withoutRequests.append .nil), .inl sources⟩
    | unconfigured _ meets' _ fails =>
      refine ⟨.cons_store (held.withoutRequests.append (.cons_store fails.withoutRequests)),
        .inl ?_⟩
      exact fails.restated.rest.sources.trans ((w.sameObjects meets').sources.trans sources)
    | unlinked _ _ found | unfetched _ _ found | unwritten _ _ found | summarized _ _ found =>
      cases maps.symm.trans found

theorem Course.contained {r : Except HotNewsError Action} (hs : s.Sound)
    (h : Course w settings now ns name s es r u) :
    Contained settings ⟨ns, name⟩ s es (r.mapError .hotNews) u := by
  refine ⟨fun e he => ?_, fun e he absent => ?_, fun e fails => (h.unlinked hs fails).1,
    fun e fails => h.reports hs fails⟩
  · have hstored : ∃ b, u.hotNews.get? ⟨ns, name⟩ = some b := by
      rcases h.ok_or_stored hs with ⟨action, rfl⟩ | ⟨a, stored, live | same⟩
      · cases he
      · have hev := (h.kept hs).evolves ⟨ns, name⟩
        rw [stored] at hev
        obtain ⟨b, hb, -⟩ := hev.still (by simp [Object.IsMarked, live])
        exact ⟨b, hb⟩
      · exact ⟨a, same ▸ stored⟩
    obtain ⟨b, hb⟩ := hstored
    obtain ⟨a, ha, recording⟩ := h.recording hs hb
    rw [he] at recording ⊢
    obtain ⟨observed, conditions⟩ := recording.of_error
    refine ⟨a, b, ha, hb, observed.imp_left fun same => ?_, conditions⟩
    simpa only [Resource.observed, Observation.hotNews.injEq] using same
  · cases r with
    | ok => cases he
    | error e' => exact h.untouched_of_unconfigured hs absent

end HotNews

/-! ## Visits -/

namespace Visit

/-- **A pass that fails leaves what its object says of the outside world**, whatever failures are
set while it runs, unless a summary that could not be written came to the status with the write that
tells of that. At most one condition of the object differs. A pass over a HotNews without the
ConfigMap, or whose linking fails, searches nothing, and without the ConfigMap it leaves all Sources
alone if it fails, unless it was to finalize the HotNews. A step of a pass over a live object that
fails is written of at the end; the error is that of the step if the write went through, and that of
the write if not. -/
theorem failure_contained {now : String} {visit : Visit} {s u : Store} {es : List Event}
    {r : Except PassError Action} (built : s.Built) (run : (visit.pass now).Weathers s es r u) :
    match visit.subject? with
    | none => (∃ e, r = .error e) ∧ u = s
    | some (.source key) => Source.Contained key s es r u
    | some (.hotNews settings key) => HotNews.Contained settings key s es r u := by
  cases about : visit.subject? with
  | none => exact (idle_of_leads about run).2
  | some subject =>
    cases course_of_leads about run with
    | source h => exact h.contained built.sound
    | hotNews h => exact h.contained built.sound

/-- The weather in which the first write of a status in the newsroom is refused, and no other. -/
def gust : Weather :=
  fun i => { failStatusWrites := i == 7 }

/-- A search of the newsroom fails, and that cannot be written: the error is that of the write, and
the status says no more than before. -/
theorem failed_search_contained : newsroom.Built ∧
    ((worldVisit.pass "now").runIn unreachable gust newsroom).1 =
      .error (.hotNews (.updateStatus (Store.failed 500 "status write failed"))) ∧
    HotNews.Reports ⟨"news", "world"⟩ (.fetchArticles (.transport "unreachable"))
      ((worldVisit.pass "now").journalIn unreachable gust newsroom)
      ((worldVisit.pass "now").runIn unreachable gust newsroom).1 ∧
    ∃ a b, newsroom.hotNews.get? ⟨"news", "world"⟩ = some a ∧
      ((worldVisit.pass "now").runIn unreachable gust newsroom).2.hotNews.get?
        ⟨"news", "world"⟩ = some b ∧
      OneApart a.statusOrEmpty.conditions b.statusOrEmpty.conditions := by
  have contained : HotNews.Contained {} ⟨"news", "world"⟩ newsroom _ _ _ :=
    failure_contained built_newsroom
      (Pass.weathers_runIn unreachable (worldVisit.pass "now") gust newsroom)
  have failed : .ofService (.fetch { sources := ["bbc"] }) (.error (.transport "unreachable")) ∈
      (worldVisit.pass "now").journalIn unreachable gust newsroom :=
    List.mem_of_getElem? (i := 6) rfl
  have error : ((worldVisit.pass "now").runIn unreachable gust newsroom).1 =
      .error (.hotNews (.updateStatus (Store.failed 500 "status write failed"))) := by
    decide +kernel
  obtain ⟨a, b, ha, hb, -, conditions⟩ := contained.intact _ error
  exact ⟨built_newsroom, error, contained.own _ (.search failed), a, b, ha, hb, conditions⟩

/-- A visit that finds something, and of whose two writes of the status the first one is refused. -/
def halfRefused : Except PassError Action × Store :=
  (worldVisit.pass "now").runIn agreeable gust newsroom

/-- **Both exceptions are real.** The second write, which tells that the first one failed, leaves
what was found; and a finalization that is interrupted has unlinked a Source, though the ConfigMap
is not there. -/
theorem failures_leave_traces :
    (newsroom.Built ∧ (∃ es, (worldVisit.pass "now").Weathers newsroom es halfRefused.1
        halfRefused.2) ∧
      halfRefused.1 =
        .error (.hotNews (.updateStatus (Store.failed 500 "status write failed"))) ∧
      (newsroom.hotNews.get? ⟨"news", "world"⟩).map (·.statusOrEmpty.newsLink) = some "" ∧
      (halfRefused.2.hotNews.get? ⟨"news", "world"⟩).map (·.statusOrEmpty.newsLink) =
        some "https://example.com/articles") ∧
    closing.Built ∧ (∃ es, (worldVisit.pass "now").Weathers closing es interrupted.1
        interrupted.2) ∧
      interrupted.1 = .error (.hotNews (.store (.conflict "cnn"))) ∧
      HotNews.config? {} closing = none ∧
      ownersOf closing "bbc" = some ["uid-world", "uid-other"] ∧
      ownersOf interrupted.2 "bbc" = some ["uid-other"] :=
  ⟨⟨built_newsroom, ⟨_, Pass.weathers_runIn _ _ _ _⟩, by decide +kernel, by decide +kernel,
      by decide +kernel⟩,
    built_closing, ⟨_, Pass.weathers_runIn _ _ _ _⟩, by decide +kernel, rfl, by decide +kernel,
      by decide +kernel⟩

end Visit

end FeedOperator
