import FeedOperator.Proofs.Effect

/-!
# Passes settle

Passes over one object that all go well, with nobody else at work and a service that does not change
its mind, come to a fixed point: the first one may write the first condition and the id, the second
one writes the first later condition, and from then on a pass says again what is said already.

* `Source.Established`, `HotNews.Established`: an object that a pass has seen before.

Results:
* `Source.tended_tended`, `HotNews.worked_worked`: on such an object a second pass changes nothing.
* `Subject.settles`: of three passes in a row the third one changes nothing.
* `HotNews.Course.replacesNone`: a pass that finds its links replaces no Source.
* `passes_settle`: from the third pass on nothing changes but versions, and from the second one on
  no Source is replaced for a HotNews.
-/

namespace FeedOperator

/-! ## Sources -/

namespace Source

variable {f : Service} {now now' : String} {a : Source}

/-- A Source that a pass has seen before: it has the finalizer and a condition, and if it still has
no id then because the service gives none. -/
structure Established (f : Service) (a : Source) : Prop where
  holds : a.metadata.hasFinalizer finalizer = true
  told : a.statusOrEmpty.conditions ≠ []
  id : a.externalId = 0 → f (.create a.spec) = .ok 0

/-- The condition of a pass that went well over a Source that keeps its id. -/
def success (now : String) (a : Source) : Condition :=
  if a.externalId = 0 then
    .make a.nextKind true now Condition.Reason.successfulCreation.text
      ("Source registered with id " ++ String.ofList (Text.signedDecimal a.externalId.toInt))
  else
    .make a.nextKind true now Condition.Reason.successfulUpdate.text
      "Source synced to aggregation service"

/-- A second condition of the same kind and outcome changes nothing. -/
theorem withCondition_withCondition {c d : Condition} (kind : d.kind = c.kind)
    (outcome : c.sameOutcome d = true) :
    (a.withCondition c).withCondition d = a.withCondition c := by
  have hput := Condition.put_put_of_sameOutcome kind outcome a.statusOrEmpty.conditions
  unfold withCondition statusOrEmpty at *
  simp [hput]

/-- Registration under the id that is there already leaves a condition. -/
theorem registered_externalId (kind : Condition.Kind) :
    a.registered now kind (.ok a.externalId) =
      a.withCondition (.make kind true now Condition.Reason.successfulCreation.text
        ("Source registered with id " ++
          String.ofList (Text.signedDecimal a.externalId.toInt))) :=
  rfl

/-- An answer that goes well and gives no other id leaves a condition. -/
theorem answered_of_success (settled : a.externalId = 0 → f (.create a.spec) = .ok 0)
    (well : a.reply f = .ok ()) : a.answered f now = a.withCondition (a.success now) := by
  unfold answered success
  unfold reply at well
  by_cases hid : a.externalId = 0
  · rw [if_pos hid, if_pos hid, settled hid, ← registered_externalId, hid]
  · rw [if_neg hid] at well
    rw [if_neg hid, if_neg hid, well]
    rfl

theorem Established.tended_eq (now : String) (h : a.Established f) (well : a.reply f = .ok ()) :
    a.tended f now = a.withCondition (a.success now) := by
  rw [tended, held, Object.heldBy_of_hasFinalizer h.holds, answered_of_success h.id well]

/-- What a pass that went well has seen is established. -/
theorem established_tended (now : String) (well : a.reply f = .ok ()) :
    (a.tended f now).Established f := by
  have holds : (a.tended f now).metadata.hasFinalizer finalizer = true := by
    rw [tended, metadata_answered]
    exact a.hasFinalizer_heldBy finalizer
  have spec : (a.tended f now).spec = a.spec := congrArg Wish.spec a.wish_tended
  have fresh : a.held.externalId = a.externalId := rfl
  unfold reply at well
  by_cases hid : a.externalId = 0
  · rw [if_pos hid] at well
    cases hn : f (.create a.spec) with
    | error e =>
      rw [hn] at well
      cases well
    | ok n =>
      have htended : a.tended f now = a.held.registered now a.held.nextKind (.ok n) := by
        rw [tended, answered, if_pos (fresh.trans hid), ← hn]
        rfl
      refine ⟨holds, ?_, fun h => ?_⟩
      · rw [htended]
        exact Condition.put_ne_nil _ _
      · rw [htended] at h
        rw [spec, hn]
        exact congrArg _ h
  · rw [if_neg hid] at well
    have htended : a.tended f now = a.held.updated now a.held.nextKind (.ok ()) := by
      rw [tended, answered, if_neg (fresh ▸ hid), ← well]
      rfl
    refine ⟨holds, ?_, fun h => ?_⟩
    · rw [htended]
      exact Condition.put_ne_nil _ _
    · rw [htended] at h
      exact absurd h hid

theorem kind_success (h : a.statusOrEmpty.conditions ≠ []) :
    (a.success now).kind = .updated := by
  unfold success
  split
  · exact Condition.Kind.next_of_ne_nil h
  · exact Condition.Kind.next_of_ne_nil h

theorem sameOutcome_success {b : Source} (h : b.externalId = a.externalId) :
    (a.success now).sameOutcome (b.success now') = true := by
  unfold success
  rw [h]
  split
  · simp [Condition.sameOutcome, Condition.make]
  · simp [Condition.sameOutcome, Condition.make]

/-- **On an established Source a second pass changes nothing**, although the clock advances. -/
theorem tended_tended (h : a.Established f) (well : a.reply f = .ok ()) :
    (a.tended f now).tended f now' = a.tended f now := by
  have established := established_tended now well
  have htended := h.tended_eq now well
  have hid : (a.tended f now).externalId = a.externalId := by rw [htended]; rfl
  have hspec : (a.tended f now).spec = a.spec := by rw [htended]; rfl
  have well' : (a.tended f now).reply f = .ok () := by
    unfold reply at *
    rw [hid, hspec]
    exact well
  have kind : ((a.tended f now).success now').kind = (a.success now).kind := by
    rw [kind_success established.told, kind_success h.told]
  calc (a.tended f now).tended f now'
      = (a.tended f now).withCondition ((a.tended f now).success now') :=
        established.tended_eq now' well'
    _ = (a.withCondition (a.success now)).withCondition ((a.tended f now).success now') := by
        rw [← htended]
    _ = a.withCondition (a.success now) :=
        withCondition_withCondition kind (sameOutcome_success hid)
    _ = a.tended f now := htended.symm

end Source

/-! ## HotNews -/

namespace HotNews

variable {f : Service} {settings : Settings} {cm? : Option ConfigMap} {now now' : String}
variable {a : HotNews}

/-- A HotNews that a pass has seen before: it has the finalizer and a condition. -/
structure Established (a : HotNews) : Prop where
  holds : a.metadata.hasFinalizer finalizer = true
  told : a.statusOrEmpty.conditions ≠ []

/-- A pass that goes well finds articles and reports them. -/
theorem worked_of_ok {action : Action} (now : String)
    (well : a.verdict f settings cm? = .ok action) :
    ∃ found, a.finding f settings cm? = .ok found ∧
      a.worked f settings cm? now = a.held.searched now found := by
  unfold verdict at well
  split at well
  · cases well
  · next placed =>
    cases hfound : a.finding f settings cm? with
    | error e =>
      rw [hfound] at well
      cases well
    | ok found =>
      refine ⟨found, rfl, ?_⟩
      rw [worked, if_neg placed, hfound]
      rfl

/-- What a pass that went well has seen is established. -/
theorem established_worked {action : Action} (now : String)
    (well : a.verdict f settings cm? = .ok action) :
    (a.worked f settings cm? now).Established := by
  obtain ⟨found, -, hworked⟩ := worked_of_ok now well
  rw [hworked]
  exact ⟨a.hasFinalizer_heldBy finalizer, Condition.put_ne_nil _ _⟩

/-- The condition of a search that went well. -/
def success (now : String) (kind : Condition.Kind) (found : ArticleSummary) : Condition :=
  .make kind true now Condition.Reason.reconciled.text
    (String.ofList (Text.decimal found.articles.length) ++ " articles found")

/-- A summary of given articles is settled by its conditions. -/
theorem summarized_eq {spec : HotNewsSpec} {cs cs' : List Condition} {found : ArticleSummary}
    (h : (success now' (.next cs') found).put cs' = (success now (.next cs) found).put cs) :
    summarized now' spec cs' found = summarized now spec cs found := by
  exact congrArg (fun conditions : List Condition => ({
    articlesCount := found.articles.length
    newsLink := found.requestUrl
    articlesTitles := (found.articles.take spec.titlesCount).map (·.title)
    conditions := conditions } : HotNewsStatus)) h

/-- A second summary of the same articles changes nothing. -/
theorem searched_searched (told : a.statusOrEmpty.conditions ≠ []) (found : ArticleSummary) :
    (a.searched now found).searched now' found = a.searched now found := by
  have kind : Condition.Kind.next a.statusOrEmpty.conditions = .updated :=
    Condition.Kind.next_of_ne_nil told
  have kind' : Condition.Kind.next (a.searched now found).statusOrEmpty.conditions = .updated :=
    Condition.Kind.next_of_ne_nil (Condition.put_ne_nil _ _)
  have conditions : (a.searched now found).statusOrEmpty.conditions =
      (success now (.next a.statusOrEmpty.conditions) found).put a.statusOrEmpty.conditions := rfl
  have again : summarized now' a.spec (a.searched now found).statusOrEmpty.conditions found =
      summarized now a.spec a.statusOrEmpty.conditions found := by
    refine summarized_eq ?_
    rw [kind', conditions, kind]
    have kinds : (success now' .updated found).kind = (success now .updated found).kind := rfl
    have outcomes : (success now .updated found).sameOutcome (success now' .updated found) = true :=
      Condition.sameOutcome_iff.mpr ⟨rfl, rfl, rfl⟩
    exact Condition.put_put_of_sameOutcome kinds outcomes _
  exact congrArg (fun status => { a with status := some status }) again

/-- **On an established HotNews a second pass changes nothing**, although the clock advances. -/
theorem worked_worked {action : Action} (h : a.Established)
    (well : a.verdict f settings cm? = .ok action) :
    (a.worked f settings cm? now).worked f settings cm? now' = a.worked f settings cm? now := by
  obtain ⟨found, hfound, hworked⟩ := worked_of_ok now well
  have wish : (a.worked f settings cm? now).wish = a.wish := a.wish_worked cm?
  obtain ⟨found', hfound', hworked'⟩ := worked_of_ok now' ((verdict_congr wish).trans well)
  obtain rfl : found = found' := by
    rw [finding_congr wish, hfound] at hfound'
    exact Except.ok.inj hfound'
  have held : a.held = a := Object.heldBy_of_hasFinalizer h.holds
  rw [hworked', HotNews.held, Object.heldBy_of_hasFinalizer (established_worked now well).holds,
    hworked, held, searched_searched h.told]

end HotNews

/-! ## Calls -/

/-- Whether a call is a replace of a Source. -/
def Event.replacesSource : Event → Bool
  | ⟨.store (.replaceSource _), _⟩ => true
  | _ => false

namespace HotNews

variable {settings : Settings} {now ns name : String} {s t u : Store} {es : List Event}
variable {hotNews mine : HotNews}

theorem Held.replacesNone {r : Except HotNewsError HotNews} (h : Held .settled s hotNews es r t) :
    ∀ e ∈ es, e.replacesSource = false := by
  cases h with
  | already => simp
  | written => simp [Event.replacesSource]

theorem Failed.replacesNone {kind : Condition.Kind} {reason : Condition.Reason}
    {error : HotNewsError} {r : Except HotNewsError Unit}
    (h : Failed .settled now t mine kind reason error es r u) :
    ∀ e ∈ es, e.replacesSource = false := by
  cases h with
  | reported => simp [Event.replacesSource]

/-- A pass that finds its links replaces no Source. -/
theorem Refreshed.replacesNone {r : Except HotNewsError Unit} (quiet : t.Quiet)
    (owned : ∀ k owner a, mine.newOwner? settings t k = some owner →
      t.sources.get? k = some a → a.isOwnedBy owner.uid = true)
    (h : Refreshed .settled settings now t mine es r u) : ∀ e ∈ es, e.replacesSource = false := by
  have links : ∀ {ns cm front t' v} {r : Except StoreError (List String)},
      mine.metadata.ns = some ns → Climate.settled.Meets t t' → config? settings t = some cm →
      (linkSources ns mine (mine.effective cm)).run.Leads t' front r v →
      ∀ e ∈ front, e.replacesSource = false := by
    intro ns cm front t' v r placed meets config linking e he
    obtain rfl := Climate.settled_eq meets
    have := linkSources_settled quiet (fun owner howner k a hfound ha => by
      refine owned k owner a ?_ ha
      simp [newOwner?, placed, config, howner, hfound]) linking e he
    rw [this]
    rfl
  have front : (lookup settings t).replacesSource = false := rfl
  cases h with
  | unplaced => simp
  | unconfigured _ _ _ fails =>
    rw [List.forall_mem_cons]
    exact ⟨front, fails.replacesNone⟩
  | unlinked placed meets config linking fails =>
    rw [List.forall_mem_cons, List.forall_mem_append]
    exact ⟨front, links placed meets config linking, fails.replacesNone⟩
  | unfetched placed meets config linking fails =>
    rw [List.forall_mem_cons, List.forall_mem_append, List.forall_mem_cons]
    exact ⟨front, links placed meets config linking, rfl, fails.replacesNone⟩
  | unwritten placed meets config linking _ _ fails =>
    rw [List.forall_mem_cons, List.forall_mem_append, List.forall_mem_cons, List.forall_mem_cons]
    exact ⟨front, links placed meets config linking, rfl, rfl, fails.replacesNone⟩
  | summarized placed meets config linking =>
    rw [List.forall_mem_cons, List.forall_mem_append]
    refine ⟨front, links placed meets config linking, ?_⟩
    simp [Event.replacesSource]

/-- **A pass over a live HotNews that finds its links replaces no Source.** -/
theorem Course.replacesNone {r : Except HotNewsError Action} (quiet : s.Quiet)
    (stored : s.hotNews.get? ⟨ns, name⟩ = some hotNews) (live : hotNews.metadata.isDeleted = false)
    (owned : ∀ k owner a, hotNews.newOwner? settings s k = some owner →
      s.sources.get? k = some a → a.isOwnedBy owner.uid = true)
    (h : Course .settled settings now ns name s es r u) : ∀ e ∈ es, e.replacesSource = false := by
  have hkey : hotNews.key = ⟨ns, name⟩ := quiet.sound.hotNews_key stored
  have stored' : s.hotNews.get? hotNews.key = some hotNews := hkey ▸ stored
  have front : (firstRead s ns name).replacesSource = false := rfl
  cases h with
  | absent =>
    rw [List.forall_mem_cons]
    exact ⟨front, by simp⟩
  | finalized _ there deleted =>
    obtain rfl := Option.some.inj (there.symm.trans stored)
    rw [live] at deleted
    cases deleted
  | unheld _ there _ holds =>
    rw [List.forall_mem_cons]
    exact ⟨front, holds.replacesNone⟩
  | @refreshed a mine holds es t _ r _ meets there _ held goes =>
    obtain rfl := Climate.settled_eq meets
    obtain rfl : a = hotNews := Option.some.inj (there.symm.trans stored)
    have ready := held.ready quiet stored' live
    rw [List.forall_mem_cons, List.forall_mem_append]
    refine ⟨front, held.replacesNone, goes.replacesNone ready.quiet fun k owner b hnew hb => ?_⟩
    exact owned k owner b (ready.newOwner?_eq k ▸ hnew) (ready.rest.sources ▸ hb)

end HotNews

/-! ## Stores -/

namespace Subject

variable {f : Service} {now₀ now₁ now₂ : String} {s t u v : Store} {key k : ObjectKey}
variable {r : Except PassError Action} {action action' : Action}

/-- A pass over a Source that goes well had a request that went well. -/
theorem reply_of_ok {a : Source} (stored : s.sources.get? key = some a)
    (h : .ok action = (source key).verdict f s) : a.reply f = .ok () := by
  rw [verdict, stored, Option.elim_some, Source.verdict] at h
  cases hr : a.reply f with
  | error e =>
    rw [hr] at h
    cases h
  | ok => rfl

/-- A pass over a HotNews goes well if it has that result. -/
theorem verdict_of_ok {settings : Settings} {a : HotNews} (stored : s.hotNews.get? key = some a)
    (h : .ok action = (hotNews settings key).verdict f s) :
    ∃ well, a.verdict f settings (HotNews.config? settings s) = .ok well := by
  rw [verdict, stored, Option.elim_some] at h
  cases hr : a.verdict f settings (HotNews.config? settings s) with
  | error e =>
    rw [hr] at h
    cases h
  | ok well => exact ⟨well, rfl⟩

/-- Of three passes in a row the third one leaves the Sources alone, if the first two go well. -/
theorem sources_settle (hs : s.Sound) (ht : t.Sound) (hu : u.Sound)
    {subject : Subject} (first : subject.Effect f now₀ s (.ok action) t)
    (second : subject.Effect f now₁ t (.ok action') u) (third : subject.Effect f now₂ u r v)
    (k : ObjectKey) : v.sources.view k = u.sources.view k := by
  have same := first.sameWishes
  rw [third.sources, onSource_congr second.sameWishes ht hu, second.sources, first.sources,
    onSource_congr same hs ht, onSource_congr same hs ht, Option.map_map, Option.map_map]
  cases hview : s.sources.view k with
  | none => rfl
  | some x =>
    obtain ⟨a, stored, rfl⟩ := Catalog.get?_of_view hview
    refine congrArg some ?_
    cases subject with
    | source key =>
      by_cases hk : k = key
      · subst hk
        obtain ⟨b, stored', heq⟩ := first.source_after stored
        simp only [onSource, if_pos, Function.comp_apply] at heq ⊢
        have well := reply_of_ok stored first.result
        have well' := reply_of_ok stored' second.result
        rw [← Source.reply_unversioned] at well well'
        exact Source.tended_tended (Source.established_tended now₀ well) (heq ▸ well')
      · simp only [onSource, if_neg hk, Function.comp_apply, id]
    | hotNews settings key => exact Source.withOwner?_withOwner? _ _

/-- Nor does it change a HotNews. -/
theorem hotNews_settle {subject : Subject} (first : subject.Effect f now₀ s (.ok action) t)
    (second : subject.Effect f now₁ t (.ok action') u) (third : subject.Effect f now₂ u r v)
    (k : ObjectKey) : v.hotNews.view k = u.hotNews.view k := by
  have same := first.sameWishes
  rw [third.hotNews, onHotNews_congr second.sameWishes, second.hotNews, first.hotNews,
    onHotNews_congr same, onHotNews_congr same, Option.map_map, Option.map_map]
  cases hview : s.hotNews.view k with
  | none => rfl
  | some x =>
    obtain ⟨a, stored, rfl⟩ := Catalog.get?_of_view hview
    refine congrArg some ?_
    cases subject with
    | source key => rfl
    | hotNews settings key =>
      by_cases hk : k = key
      · subst hk
        simp only [onHotNews, if_pos, Function.comp_apply]
        obtain ⟨_, well⟩ := verdict_of_ok stored first.result
        rw [← HotNews.verdict_unversioned] at well
        exact HotNews.worked_worked (HotNews.established_worked now₀ well)
          ((HotNews.verdict_congr (HotNews.wish_worked _ _)).trans well)
      · simp only [onHotNews, if_neg hk, Function.comp_apply, id]

/-- **Of three passes in a row the third one changes nothing but versions**, if the first two go
well. -/
theorem settles (hs : s.Sound) (ht : t.Sound) (hu : u.Sound) {subject : Subject}
    (first : subject.Effect f now₀ s (.ok action) t)
    (second : subject.Effect f now₁ t (.ok action') u) (third : subject.Effect f now₂ u r v) :
    u.SameButVersions v :=
  ⟨sources_settle hs ht hu first second third, hotNews_settle first second third,
    third.configMaps⟩

/-- After a pass over a HotNews the Sources that it gives owners to have them. -/
theorem owned_of_effect {settings : Settings} (hs : s.Sound) (hu : u.Sound)
    (h : (hotNews settings key).Effect f now₀ s r u) (k : ObjectKey) (owner : OwnerReference)
    (a : Source) (given : u.newOwner? settings key k = some owner)
    (stored : u.sources.get? k = some a) : a.isOwnedBy owner.uid = true := by
  obtain ⟨b, -, heq⟩ := h.source_before stored
  rw [h.sameWishes.newOwner?_eq hs hu] at given
  rw [onSource, given] at heq
  change Source.isOwnedBy a.unversioned owner.uid = true
  rw [heq]
  exact (Source.isOwnedBy_withOwner _ owner owner.uid).trans (by simp)

end Subject

/-- A visit to a live HotNews that finds its links replaces no Source. -/
theorem Visit.replacesNone (f : Service) (now : String) {visit : Visit} {settings : Settings}
    {key : ObjectKey} {s : Store} {hotNews : HotNews} (quiet : s.Quiet)
    (about : visit.subject? = some (.hotNews settings key))
    (stored : s.hotNews.get? key = some hotNews) (live : hotNews.metadata.isDeleted = false)
    (owned : ∀ k owner a, s.newOwner? settings key k = some owner →
      s.sources.get? k = some a → a.isOwnedBy owner.uid = true) :
    ∀ e ∈ visit.journal f now s, e.replacesSource = false := by
  have course := course_of_leads about (visit.leads_run f now s)
  generalize (visit.run f now s).1 = r at course
  cases course with
  | hotNews course =>
    refine course.replacesNone quiet stored live fun k owner a hnew ha => owned k owner a ?_ ha
    rw [Store.newOwner?, stored]
    exact hnew

section Passes

variable {f : Service} {subject : Subject} {visits : Nat → Visit} {now : Nat → String}
variable {states : Nat → Store} {k : Nat}

/-- Passes `0` to `k` over one object that follow one another and all go well. -/
def GoWell (f : Service) (subject : Subject) (visits : Nat → Visit) (now : Nat → String)
    (states : Nat → Store) (k : Nat) : Prop :=
  ∀ i ≤ k, (visits i).subject? = some subject ∧
    ∃ action, (visits i).run f (now i) (states i) = (.ok action, states (i + 1))

/-- A pass that goes well has its effect, and leaves the store quiet and the object live. -/
theorem GoWell.step (passes : GoWell f subject visits now states k) {i : Nat} (hi : i ≤ k)
    (quiet : (states i).Quiet) (live : subject.IsLive (states i)) :
    (∃ action, subject.Effect f (now i) (states i) (.ok action) (states (i + 1))) ∧
      (states (i + 1)).Quiet ∧ subject.IsLive (states (i + 1)) := by
  obtain ⟨about, action, hrun⟩ := passes i hi
  have effect := Visit.effect f (now i) quiet about live
  have quiet := Visit.quiet_run f (now i) quiet about live
  rw [hrun] at effect quiet
  exact ⟨⟨action, effect⟩, quiet, effect.live live⟩

/-- All along the passes the store is quiet and the object is live. -/
theorem GoWell.quiet (passes : GoWell f subject visits now states k) (quiet : (states 0).Quiet)
    (live : subject.IsLive (states 0)) (i : Nat) (hi : i ≤ k + 1) :
    (states i).Quiet ∧ subject.IsLive (states i) := by
  induction i with
  | zero => exact ⟨quiet, live⟩
  | succ i ih =>
    obtain ⟨quiet, live⟩ := ih (Nat.le_of_succ_le hi)
    exact (passes.step (Nat.le_of_succ_le_succ hi) quiet live).2

/-- **Passes settle.** From a store that comes about, shows no failure and has a finalizer on every
object that is marked for deletion: let passes `0` to `k` over one live object follow one another
and all go well, with a service whose answer depends on the request alone, and let `k` be two or
more. Then the last one changes nothing but versions, whatever the clock says; and if the object is
a HotNews, no pass but the first replaces a Source. -/
theorem passes_settle (built : (states 0).Built) (calm : (states 0).Calm)
    (stay : (states 0).NoneLeaving) (live : subject.IsLive (states 0)) (two : 2 ≤ k)
    (passes : GoWell f subject visits now states k) :
    (states k).SameButVersions (states (k + 1)) ∧
    ∀ settings key, subject = .hotNews settings key → ∀ i, 1 ≤ i → i ≤ k → ∀ source answer,
      .ofStore (.replaceSource source) answer ∉ (visits i).journal f (now i) (states i) := by
  have along := passes.quiet ⟨built.sound, calm, stay⟩ live
  have effect : ∀ i ≤ k,
      ∃ action, subject.Effect f (now i) (states i) (.ok action) (states (i + 1)) := fun i hi =>
    (passes.step hi (along i (Nat.le_succ_of_le hi)).1 (along i (Nat.le_succ_of_le hi)).2).1
  refine ⟨?_, ?_⟩
  · obtain ⟨j, rfl⟩ := Nat.exists_eq_add_of_le' two
    obtain ⟨_, first⟩ := effect j (by omega)
    obtain ⟨_, second⟩ := effect (j + 1) (by omega)
    obtain ⟨_, third⟩ := effect (j + 2) le_rfl
    exact Subject.settles (along j (by omega)).1.sound (along (j + 1) (by omega)).1.sound
      (along (j + 2) (by omega)).1.sound first second third
  · rintro settings key rfl i one hi source answer hmem
    obtain ⟨j, rfl⟩ := Nat.exists_eq_add_of_le' one
    obtain ⟨quiet, hotNews, stored, live⟩ := along (j + 1) (by omega)
    obtain ⟨_, before⟩ := effect j (by omega)
    have owned := Subject.owned_of_effect (along j (by omega)).1.sound quiet.sound before
    have none := Visit.replacesNone f (now (j + 1)) quiet (passes (j + 1) hi).1 stored live owned
    cases none _ hmem

end Passes

/-- The newsroom after a number of passes over a HotNews. -/
def settling : Nat → Store
  | 0 => newsroom
  | i + 1 => (worldVisit.run agreeable (Store.versionText i) (settling i)).2

/-- Over the HotNews of the newsroom the third pass changes nothing but versions: the conditions
still have the times of the first two. -/
theorem settling_settles :
    (((settling 3).hotNews.get? ⟨"news", "world"⟩).bind (·.status)).map
        (·.conditions.map (·.lastUpdateTime)) = some ["0", "1"] ∧
      (settling 2).SameButVersions (settling 3) := by
  have stay : newsroom.NoneLeaving := .of_entries (by decide +kernel) (by decide +kernel)
  have results : ∀ i < 3, (worldVisit.run agreeable (Store.versionText i) (settling i)).1 =
      .ok (.requeue 300) := by decide +kernel
  have passes : GoWell agreeable (.hotNews {} ⟨"news", "world"⟩) (fun _ => worldVisit)
      Store.versionText settling 2 := fun i hi =>
    ⟨rfl, .requeue 300, Prod.ext (results i (Nat.lt_succ_of_le hi)) rfl⟩
  have live : Subject.IsLive newsroom (.hotNews {} ⟨"news", "world"⟩) := ⟨_, rfl, rfl⟩
  exact ⟨by decide +kernel,
    (passes_settle built_newsroom ⟨rfl, rfl, rfl⟩ stay live le_rfl passes).1⟩

end FeedOperator
