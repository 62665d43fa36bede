import FeedOperator.Proofs.Store.Place
import FeedOperator.Proofs.Visit

/-!
# What a pass records

A pass writes the status of its object to tell what it came to, with a condition of the kind that
the conditions call for which were read at the start of the pass. Where a pass over a HotNews cannot
write what it found, it writes of that, and if this write goes through the status has what was found
although the pass fails.

* `Finding`: what a condition tells, kind and time apart.
* `Condition.enter`: the condition at the place of the first one of its kind, or at the end.
* `Event.records`: whether a call has written a status.
* `outcome?`: what a pass came to, as its calls and its result tell.
* `Resource.observed`: what an object says of the outside world.
* `Belated`: what was found came to the status with the second write.
* `Recording`: what a pass leaves of the status of its object.

Results:
* `put_eq_enter`, `put_put_eq_enter`: one write enters a condition, and so do two with different
  findings.
* `Source.Course.recording`, `HotNews.Course.recording`: what the courses leave of the status.
* `Visit.recording`: a pass leaves the status as it was, or enters one condition that tells what the
  pass came to; a pass that fails changes nothing else of it, unless what it found came belatedly.
* `Visit.conditions_elsewhere`: no pass touches the conditions of another object.
-/

namespace FeedOperator

/-! ## What is told -/

/-- What a condition tells, kind and time apart. -/
structure Finding where
  status : Condition.Status
  reason : String
  message : String
  deriving DecidableEq

/-- What a condition tells. -/
def Condition.finding (c : Condition) : Finding :=
  ⟨c.status, c.reason, c.message⟩

theorem Condition.sameOutcome_iff_finding {a b : Condition} :
    a.sameOutcome b = true ↔ a.finding = b.finding := by
  rw [sameOutcome_iff, finding, finding, Finding.mk.injEq]

namespace Condition

/-- The condition at the place of the first one of its kind, or at the end. -/
def enter (c : Condition) : List Condition → List Condition
  | [] => [c]
  | d :: rest => if d.kind = c.kind then c :: rest else d :: enter c rest

/-- To put a condition is to enter one of its kind that tells the same: itself, or the one that is
there. -/
theorem put_eq_enter (c : Condition) (cs : List Condition) :
    ∃ d : Condition, d.kind = c.kind ∧ d.finding = c.finding ∧ c.put cs = d.enter cs := by
  induction cs with
  | nil => exact ⟨c, rfl, rfl, rfl⟩
  | cons e rest ih =>
    by_cases hk : e.kind = c.kind
    · by_cases same : e.sameOutcome c = true
      · exact ⟨e, hk, sameOutcome_iff_finding.mp same, by simp [put, enter, hk, same]⟩
      · exact ⟨c, rfl, rfl, by simp [put, enter, hk, same]⟩
    · obtain ⟨d, hd, finding, hput⟩ := ih
      exact ⟨d, hd, finding, by simp [put, enter, hk, hd, hput]⟩

/-- Of two conditions of one kind in a row that tell different things the second one is entered. -/
theorem put_put_eq_enter {c d : Condition} (kind : d.kind = c.kind) (other : c.finding ≠ d.finding)
    (cs : List Condition) : d.put (c.put cs) = d.enter cs := by
  have apart : c.sameOutcome d = false :=
    Bool.eq_false_iff.mpr fun same => other (sameOutcome_iff_finding.mp same)
  induction cs with
  | nil => simp [put, enter, kind, apart]
  | cons e rest ih =>
    by_cases hk : e.kind = c.kind
    · by_cases same : e.sameOutcome c = true
      · have : e.sameOutcome d = false := Bool.eq_false_iff.mpr fun h =>
          other ((sameOutcome_iff_finding.mp same).symm.trans (sameOutcome_iff_finding.mp h))
        simp [put, enter, hk, kind, same, this]
      · simp [put, enter, hk, kind, same, apart]
    · simp [put, enter, hk, kind, ih]

end Condition

/-- The condition that a status gets when a step of a pass over a HotNews fails. -/
def HotNewsError.reason? : HotNewsError → Option Condition.Reason
  | .configMapNotFound _ | .store _ => some .configMapNotFound
  | .ownerReference _ => some .ownerReferenceFailed
  | .fetchArticles _ => some .fetchArticlesFailed
  | .updateStatus _ => some .updateStatusFailed
  | .missingField _ => none

namespace Event

/-- Whether a call has written a status. -/
def records : Event → Bool
  | ⟨.store c, answer⟩ => c.writesStatus && answer.isOk
  | ⟨.service _, _⟩ => false

/-- What an answer of the service makes known of a Source, or of a search that went well. -/
def finding? : Event → Option Finding
  | ⟨.service (.create _), .ok id⟩ =>
    some ⟨.holds, "SuccessfulCreation",
      "Source registered with id " ++ String.ofList (Text.signedDecimal (Int64.toInt id))⟩
  | ⟨.service (.create _), .error e⟩ => some ⟨.fails, "FailedCreation", e.message⟩
  | ⟨.service (.update _ _), .ok ()⟩ =>
    some ⟨.holds, "SuccessfulUpdate", "Source synced to aggregation service"⟩
  | ⟨.service (.update _ _), .error e⟩ => some ⟨.fails, "FailedUpdate", e.message⟩
  | ⟨.service (.fetch _), .ok found⟩ =>
    some ⟨.holds, "Reconciled",
      String.ofList (Text.decimal (ArticleSummary.articles found).length) ++ " articles found"⟩
  | _ => none

end Event

/-- What a pass came to: the error of a HotNews in its words, or else what the service made
known. -/
def outcome? (es : List Event) : Except PassError Action → Option Finding
  | .error (.hotNews e) => e.reason?.map fun reason => ⟨.fails, reason.text, e.message⟩
  | _ => es.findSome? Event.finding?

/-- What an object says of the outside world. -/
inductive Observation where
  | source (id : Int64)
  | hotNews (articlesCount : Nat) (newsLink : String) (articlesTitles : List String)
  | nothing

namespace Resource

/-- The conditions of an object. -/
def conditions : Resource → List Condition
  | .source o => o.statusOrEmpty.conditions
  | .hotNews o => o.statusOrEmpty.conditions
  | .configMap _ => []

/-- What an object says of the outside world; an object without a status says what an empty one
says. -/
def observed : Resource → Observation
  | .source o => .source o.statusOrEmpty.id
  | .hotNews o =>
    .hotNews o.statusOrEmpty.articlesCount o.statusOrEmpty.newsLink o.statusOrEmpty.articlesTitles
  | .configMap _ => .nothing

end Resource

/-- What was found came to the status with the second write: the summary was refused, and the write
that tells of that went through. -/
inductive Belated :
    List Event → Except PassError Action → (before : Resource) → (after : Observation) → Prop
  | found {a : HotNews} {front : List Event} {query : ArticleQuery} {found : ArticleSummary}
    {summary report written : HotNews} {e : StoreError} :
    Belated
      (front ++ [.ofService (.fetch query) (.ok found),
        .ofStore (.replaceHotNewsStatus summary) (.error e),
        .ofStore (.replaceHotNewsStatus report) (.ok written)])
      (.error (.hotNews (.updateStatus e))) (.hotNews a)
      (.hotNews found.articles.length found.requestUrl
        ((found.articles.take a.spec.titlesCount).map (·.title)))

/-- What a pass leaves of the status of its object. -/
inductive Recording (es : List Event) (r : Except PassError Action) (a b : Resource) : Prop
  | silent (unwritten : es.any Event.records = false) (conditions : b.conditions = a.conditions)
    (observed : b.observed = a.observed) : Recording es r a b
  | told (c : Condition) (written : es.any Event.records = true)
    (kind : c.kind = .next a.conditions) (outcome : outcome? es r = some c.finding)
    (conditions : b.conditions = c.enter a.conditions)
    (failed : ∀ e, r = .error e → b.observed = a.observed ∨ Belated es r a b.observed) :
    Recording es r a b

theorem WithoutRequests.findSome?_eq_none {es : List Event} (h : WithoutRequests es) :
    es.findSome? Event.finding? = none := by
  rw [List.findSome?_eq_none_iff]
  rintro ⟨c | c, answer⟩ hmem
  · rfl
  · exact absurd hmem (h c answer)

/-- The first request tells what the service made known. -/
theorem WithoutRequests.findSome?_request {front back : List Event} {c : ServiceCall}
    {answer : c.Answer} {x : Finding} (h : WithoutRequests front)
    (told : Event.finding? (.ofService c answer) = some x) :
    (front ++ .ofService c answer :: back).findSome? Event.finding? = some x := by
  rw [List.findSome?_append, h.findSome?_eq_none, List.findSome?_cons, told]
  rfl

/-- Calls that edit Sources write no status. -/
theorem unrecorded_of_edits {es : List Event} (h : ∀ e ∈ es, e.call.EditsSources) :
    es.any Event.records = false := by
  rw [List.any_eq_false]
  intro e hmem
  have hedits := h e hmem
  obtain ⟨c | c, answer⟩ := e
  · cases c with
    | getSource | listSources | replaceSource => simp [Event.records, StoreCall.writesStatus]
    | replaceSourceStatus | getHotNews | listHotNews | replaceHotNews | replaceHotNewsStatus
    | getConfigMap => exact hedits.elim
  · exact hedits.elim

/-! ## Sources -/

namespace Source

variable {w : Climate} {s t u v x : Store} {es : List Event} {source mine a b : Source}
variable {now ns name : String}

theorem Held.unrecorded {r : Except SourceError Source} (h : Held w s source es r t) :
    es.any Event.records = false := by
  cases h with
  | already => rfl
  | written => rfl

theorem Finalized.unrecorded {r : Except SourceError Action} (h : Finalized w s source es r u) :
    es.any Event.records = false := by
  cases h with
  | unheld | undeleted => rfl
  | released => split <;> rfl

theorem status_of_replace {new : Source} (stored : s.sources.get? new.key = some a)
    (hb : (s.replaceSource new).2.sources.get? new.key = some b) : b.status = a.status := by
  rcases s.replaceSource_cases new with ⟨_, _, hsame⟩ | ⟨old, _, _, hreplaced, -⟩
  · rw [hsame.sources, stored] at hb
    exact congrArg Object.status (Option.some.inj hb).symm
  · obtain rfl := hreplaced.stored_eq stored
    exact hreplaced.status_eq hb

theorem Held.status_eq {r : Except SourceError Source} (h : Held w s source es r u)
    (stored : s.sources.get? source.key = some source)
    (hb : u.sources.get? source.key = some b) : b.status = source.status := by
  cases h with
  | already => exact congrArg Object.status (Option.some.inj (hb.symm.trans stored))
  | written meets =>
    have hkey : source.held.key = source.key := (source.refinalized_heldBy finalizer).kept.key_eq
    rw [← (w.sameObjects meets).sources] at stored
    exact status_of_replace (hkey ▸ stored) (hkey ▸ hb)

theorem Finalized.status_eq {r : Except SourceError Action} (h : Finalized w s source es r u)
    (stored : s.sources.get? source.key = some source)
    (hb : u.sources.get? source.key = some b) : b.status = source.status := by
  cases h with
  | unheld | undeleted => exact congrArg Object.status (Option.some.inj (hb.symm.trans stored))
  | @released t meets =>
    have found : t.sources.get? source.released.key = some source :=
      (w.sameObjects meets).sources ▸ stored
    exact status_of_replace found hb

theorem recording_of_status_eq {r : Except PassError Action}
    (unwritten : es.any Event.records = false) (same : b.status = a.status) :
    Recording es r (.source a) (.source b) := by
  have heq : b.statusOrEmpty = a.statusOrEmpty := congrArg (·.getD {}) same
  refine .silent unwritten ?_ ?_
  · simp only [Resource.conditions, heq]
  · simp only [Resource.observed, heq]

/-- What is written after a request to register a Source tells of the answer. -/
theorem told_registered (now : String) (mine : Source) (kind : Condition.Kind)
    (answer : Except ServiceError Int64) : ∃ c : Condition, c.kind = kind ∧
      Event.finding? (.ofService (.create mine.spec) answer) = some c.finding ∧
      (mine.registered now kind answer).statusOrEmpty.conditions =
        c.put mine.statusOrEmpty.conditions ∧
      ∀ e, answer = .error e → (mine.registered now kind answer).statusOrEmpty.id =
        mine.statusOrEmpty.id := by
  cases answer with
  | ok id => exact ⟨_, rfl, rfl, rfl, nofun⟩
  | error e => exact ⟨_, rfl, rfl, rfl, fun _ _ => rfl⟩

/-- What is written after a request to update a Source tells of the answer. -/
theorem told_updated (now : String) (mine : Source) (kind : Condition.Kind)
    (answer : Except ServiceError Unit) : ∃ c : Condition, c.kind = kind ∧
      Event.finding? (.ofService (.update mine.externalId
        { mine.spec with id := mine.externalId }) answer) = some c.finding ∧
      (mine.updated now kind answer).statusOrEmpty.conditions =
        c.put mine.statusOrEmpty.conditions ∧
      (mine.updated now kind answer).statusOrEmpty.id = mine.statusOrEmpty.id := by
  cases answer with
  | ok => exact ⟨_, rfl, rfl, rfl, rfl⟩
  | error e => exact ⟨_, rfl, rfl, rfl, rfl⟩

/-- A request that failed is the reason why a pass fails whose write went through. -/
theorem answer_of_outcome {α : Type} {answer : Except ServiceError α}
    {write : Except StoreError Source} {written : Source} {e : PassError}
    (hok : write = .ok written)
    (hr : ((outcome answer write).map fun _ => Action.awaitChange).mapError PassError.source =
      .error e) : ∃ e', answer = .error e' := by
  subst hok
  cases answer with
  | ok => cases hr
  | error e' => exact ⟨e', rfl⟩

theorem outcome?_mapError (r : Except SourceError Action) :
    outcome? es (r.mapError .source) = es.findSome? Event.finding? := by
  cases r <;> rfl

/-- A request about a Source that is held, and the write that tells of its answer. -/
theorem recording_of_report {r : Except SourceError Action} {new : Source} {c : Condition}
    {call : ServiceCall} {answer : call.Answer} (hs : s.Sound) (meets : w.Meets s t)
    (stored : s.sources.get? ⟨ns, name⟩ = some source) (live : source.metadata.isDeleted = false)
    (holds : Held w t source es (.ok mine) v) (writes : w.Meets v x)
    (known : new.metadata = mine.metadata) (kind : c.kind = mine.nextKind)
    (told : Event.finding? (.ofService call answer) = some c.finding)
    (conditions : new.statusOrEmpty.conditions = c.put mine.statusOrEmpty.conditions)
    (failed : ∀ written e, (x.replaceSourceStatus new).1 = .ok written →
      r.mapError PassError.source = .error e → new.statusOrEmpty.id = mine.statusOrEmpty.id)
    (hb : (x.replaceSourceStatus new).2.sources.get? ⟨ns, name⟩ = some b) :
    Recording (firstRead s ns name :: (es ++ [.ofService call answer,
      .ofStore (.replaceSourceStatus new) (x.replaceSourceStatus new).1]))
      (r.mapError .source) (.source source) (.source b) := by
  obtain ⟨hkey, stored⟩ := w.source_stands meets hs stored
  have holding := (holds.holding stored live).meets writes
  have same : mine.status = source.status := holding.refinalized.status_eq
  have heq : source.statusOrEmpty = mine.statusOrEmpty := congrArg (·.getD {}) same.symm
  have unwritten := holds.unrecorded
  rw [← holding.key_eq.trans hkey] at hb
  rcases writeStatus_cases holding.stands known with ⟨e, he, hsame⟩ | ⟨version, hok, -, hget⟩
  · rw [hsame.sources] at hb
    obtain rfl := Option.some.inj (holding.stands.symm.trans hb)
    refine recording_of_status_eq ?_ same
    simp [he, unwritten, firstRead, Event.records, StoreCall.writesStatus, Except.isOk,
      Except.toBool]
  · rw [hget, if_pos rfl] at hb
    obtain rfl := Option.some.inj hb
    obtain ⟨d, hkind, hfinding, hput⟩ := c.put_eq_enter mine.statusOrEmpty.conditions
    refine .told d ?_ ?_ ?_ ?_ fun e hr => .inl ?_
    · simp [hok, Event.records, StoreCall.writesStatus, Except.isOk, Except.toBool]
    · rw [hkind, kind, nextKind, Resource.conditions, heq]
    · rw [outcome?_mapError, hfinding]
      exact (WithoutRequests.cons_store holds.withoutRequests).findSome?_request told
    · rw [Resource.conditions, Resource.conditions, heq]
      exact conditions.trans hput
    · rw [Resource.observed, Resource.observed, heq]
      exact congrArg Observation.source (failed _ e hok hr)

/-- **What a pass over a Source leaves of its status.** -/
theorem Course.recording {r : Except SourceError Action} (hs : s.Sound)
    (h : Course w now ns name s es r u) (hb : u.sources.get? ⟨ns, name⟩ = some b) :
    ∃ a, s.sources.get? ⟨ns, name⟩ = some a ∧
      Recording es (r.mapError .source) (.source a) (.source b) := by
  cases h with
  | absent meets gone => rw [(w.sameObjects meets).sources, gone] at hb; cases hb
  | @finalized source es _ _ _ meets stored deleted ends =>
    obtain ⟨hkey, found⟩ := w.source_stands meets hs stored
    exact ⟨source, stored, recording_of_status_eq ends.unrecorded
      (ends.status_eq found (hkey.symm ▸ hb))⟩
  | @unheld source es e _ _ meets stored live holds =>
    obtain ⟨hkey, found⟩ := w.source_stands meets hs stored
    exact ⟨source, stored, recording_of_status_eq holds.unrecorded
      (holds.status_eq found (hkey.symm ▸ hb))⟩
  | @registered source mine es _ _ _ answer meets stored live holds fresh writes =>
    obtain ⟨c, kind, told, conditions, id⟩ := told_registered now mine mine.nextKind answer
    refine ⟨source, stored, recording_of_report hs meets stored live holds writes
      (metadata_registered ..) kind told conditions (fun written e hok hr => ?_) hb⟩
    obtain ⟨e', rfl⟩ := answer_of_outcome hok hr
    exact id e' rfl
  | @updated source mine es _ _ _ answer meets stored live holds known writes =>
    obtain ⟨c, kind, told, conditions, id⟩ := told_updated now mine mine.nextKind answer
    exact ⟨source, stored, recording_of_report hs meets stored live holds writes
      (metadata_updated ..) kind told conditions (fun _ _ _ _ => id) hb⟩

end Source

/-! ## HotNews -/

namespace HotNews

variable {w : Climate} {settings : Settings} {s t u v x : Store} {es front : List Event}
variable {hotNews mine a b : HotNews} {now ns name : String}

theorem Held.unrecorded {r : Except HotNewsError HotNews} (h : Held w s hotNews es r t) :
    es.any Event.records = false := by
  cases h with
  | already => rfl
  | written => rfl

theorem unrecorded_of_unlinking {uid : String} {r : Except StoreError Nat}
    (h : (unlinkSources ns uid).run.LeadsIn w s es r t) : es.any Event.records = false :=
  unrecorded_of_edits (h.within (within_unlinkSources ns uid))

theorem unrecorded_of_linking {names : List String} {r : Except StoreError (List String)}
    (h : (linkSources ns mine names).run.LeadsIn w s es r t) : es.any Event.records = false :=
  unrecorded_of_edits (h.within (within_linkSources ns mine names))

theorem Finalized.unrecorded {r : Except HotNewsError Action} (h : Finalized w s hotNews es r u) :
    es.any Event.records = false := by
  cases h with
  | unheld | unplaced => rfl
  | stuck _ _ _ unlinking => exact unrecorded_of_unlinking unlinking
  | released _ _ frees =>
    rw [List.any_append]
    cases frees with
    | unidentified => rfl
    | unlinked _ unlinking =>
      rw [unrecorded_of_unlinking unlinking]
      rfl

theorem status_of_replace {new : HotNews} (stored : s.hotNews.get? new.key = some a)
    (hb : (s.replaceHotNews new).2.hotNews.get? new.key = some b) : b.status = a.status := by
  rcases s.replaceHotNews_cases new with ⟨_, _, hsame⟩ | ⟨old, _, _, hreplaced, -⟩
  · rw [hsame.hotNews, stored] at hb
    exact congrArg Object.status (Option.some.inj hb).symm
  · obtain rfl := hreplaced.stored_eq stored
    exact hreplaced.status_eq hb

theorem Held.status_eq {r : Except HotNewsError HotNews} (h : Held w s hotNews es r u)
    (stored : s.hotNews.get? hotNews.key = some hotNews)
    (hb : u.hotNews.get? hotNews.key = some b) : b.status = hotNews.status := by
  cases h with
  | already => exact congrArg Object.status (Option.some.inj (hb.symm.trans stored))
  | written meets =>
    have hkey : hotNews.held.key = hotNews.key :=
      (hotNews.refinalized_heldBy finalizer).kept.key_eq
    rw [← (w.sameObjects meets).hotNews] at stored
    exact status_of_replace (hkey ▸ stored) (hkey ▸ hb)

theorem Finalized.status_eq {r : Except HotNewsError Action} (hs : s.Sound)
    (h : Finalized w s hotNews es r u) (stored : s.hotNews.get? hotNews.key = some hotNews)
    (hb : u.hotNews.get? hotNews.key = some b) : b.status = hotNews.status := by
  have same : u.hotNews = s.hotNews → b.status = hotNews.status := by
    intro heq
    rw [heq, stored] at hb
    exact congrArg Object.status (Option.some.inj hb).symm
  cases h with
  | unheld | unplaced => exact same rfl
  | stuck _ _ _ unlinking => exact same (unlinkSources_leads hs unlinking).1.rest.hotNews
  | @released _ _ _ v _ _ frees writes =>
    have found : v.hotNews.get? hotNews.released.key = some hotNews := by
      rw [(w.sameObjects writes).hotNews, frees.hotNews_eq hs]
      exact stored
    exact status_of_replace found hb

theorem recording_of_status_eq {r : Except PassError Action}
    (unwritten : es.any Event.records = false) (same : b.status = a.status) :
    Recording es r (.hotNews a) (.hotNews b) := by
  have heq : b.statusOrEmpty = a.statusOrEmpty := congrArg (·.getD {}) same
  refine .silent unwritten ?_ ?_
  · simp only [Resource.conditions, heq]
  · simp only [Resource.observed, heq]

/-- A write of the status, after calls that wrote none. -/
theorem recording_of_write {r : Except PassError Action} {new : HotNews} {c : Condition}
    (stored : t.hotNews.get? mine.key = some mine) (known : new.metadata = mine.metadata)
    (same : mine.status = a.status) (unwritten : front.any Event.records = false)
    (kind : c.kind = mine.nextKind)
    (conditions : new.statusOrEmpty.conditions = c.enter mine.statusOrEmpty.conditions)
    (outcome : ∀ written, (t.replaceHotNewsStatus new).1 = .ok written →
      outcome? (front ++ [.ofStore (.replaceHotNewsStatus new) (t.replaceHotNewsStatus new).1]) r =
        some c.finding)
    (failed : ∀ written e, (t.replaceHotNewsStatus new).1 = .ok written → r = .error e →
      Resource.observed (.hotNews new) = Resource.observed (.hotNews mine) ∨
        Belated (front ++ [.ofStore (.replaceHotNewsStatus new) (t.replaceHotNewsStatus new).1]) r
          (.hotNews a) (Resource.observed (.hotNews new)))
    (hb : (t.replaceHotNewsStatus new).2.hotNews.get? mine.key = some b) :
    Recording (front ++ [.ofStore (.replaceHotNewsStatus new) (t.replaceHotNewsStatus new).1]) r
      (.hotNews a) (.hotNews b) := by
  have heq : a.statusOrEmpty = mine.statusOrEmpty := congrArg (·.getD {}) same.symm
  rcases writeStatus_cases stored known with ⟨e, he, hsame⟩ | ⟨version, hok, -, hget⟩
  · rw [hsame.hotNews] at hb
    obtain rfl := Option.some.inj (stored.symm.trans hb)
    refine recording_of_status_eq ?_ same
    simp [he, unwritten, Event.records, Except.isOk, Except.toBool]
  · rw [hget, if_pos rfl] at hb
    obtain rfl := Option.some.inj hb
    refine .told c ?_ ?_ (outcome _ hok) ?_ fun e hr => ?_
    · simp [hok, Event.records, StoreCall.writesStatus, Except.isOk, Except.toBool]
    · rw [kind, nextKind, Resource.conditions, heq]
    · rw [Resource.conditions, Resource.conditions, heq]
      exact conditions
    · rw [show Resource.observed (.hotNews a) = Resource.observed (.hotNews mine) by
        simp only [Resource.observed, heq]]
      exact failed _ e hok hr

/-- What a failure comes to that was written of. -/
theorem outcome?_reported {calls : List Event} {reason : Condition.Reason} {error : HotNewsError}
    {action : Action} {kind : Condition.Kind} {write : Except StoreError HotNews}
    {written : HotNews} (told : error.reason? = some reason) (hok : write = .ok written) :
    outcome? calls (((Except.error (reported error write) : Except HotNewsError Unit).map
      fun _ => action).mapError .hotNews) =
        some (Condition.make kind false now reason.text error.message).finding := by
  rw [hok]
  simp [reported, Except.map, Except.mapError, outcome?, told, Condition.finding, Condition.make]

/-- The report of a failure, after calls that wrote no status. -/
theorem Failed.recording {reason : Condition.Reason} {error : HotNewsError} {action : Action}
    {r : Except HotNewsError Unit} (h : Failed w now t mine mine.nextKind reason error es r u)
    (stored : t.hotNews.get? mine.key = some mine) (same : mine.status = a.status)
    (unwritten : front.any Event.records = false) (told : error.reason? = some reason)
    (hb : u.hotNews.get? mine.key = some b) :
    Recording (front ++ es) ((r.map fun _ => action).mapError .hotNews) (.hotNews a)
      (.hotNews b) := by
  cases h with
  | reported meets =>
    rw [← (w.sameObjects meets).hotNews] at stored
    obtain ⟨d, hkind, hfinding, hput⟩ :=
      (Condition.make mine.nextKind false now reason.text error.message).put_eq_enter
        mine.statusOrEmpty.conditions
    refine recording_of_write stored rfl same unwritten hkind hput (fun written hok => ?_)
      (fun _ _ _ _ => .inl rfl) hb
    rw [hfinding]
    exact outcome?_reported told hok

/-- The report of a summary that was refused, after calls that wrote no status. -/
theorem Failed.recording_belated {cm : ConfigMap} {found : ArticleSummary} {e : StoreError}
    {action : Action} {r : Except HotNewsError Unit}
    (h : Failed w now t (mine.searched now found) mine.nextKind .updateStatusFailed
      (.updateStatus e) es r u)
    (stored : t.hotNews.get? mine.key = some mine) (same : mine.status = a.status)
    (spec : mine.spec = a.spec) (unwritten : front.any Event.records = false)
    (hb : u.hotNews.get? mine.key = some b) :
    Recording (front ++ .ofService (.fetch (mine.query cm)) (.ok found) ::
        .ofStore (.replaceHotNewsStatus (mine.searched now found)) (.error e) :: es)
      ((r.map fun _ => action).mapError .hotNews) (.hotNews a) (.hotNews b) := by
  cases h with
  | @reported x meets =>
    rw [← (w.sameObjects meets).hotNews] at stored
    have known : ((mine.searched now found).failed now mine.nextKind .updateStatusFailed
        (.updateStatus e)).metadata = mine.metadata := rfl
    -- That all went well was put already, and the report tells another thing.
    have conditions : ((mine.searched now found).failed now mine.nextKind .updateStatusFailed
        (.updateStatus e)).statusOrEmpty.conditions =
          (Condition.make mine.nextKind false now Condition.Reason.updateStatusFailed.text
            (HotNewsError.updateStatus e).message).enter mine.statusOrEmpty.conditions := by
      let found := Condition.make mine.nextKind true now Condition.Reason.reconciled.text
        (String.ofList (Text.decimal found.articles.length) ++ " articles found")
      let reported := Condition.make mine.nextKind false now
        Condition.Reason.updateStatusFailed.text (HotNewsError.updateStatus e).message
      have kind : reported.kind = found.kind := rfl
      have apart : found.finding ≠ reported.finding := fun heq => by
        cases congrArg Finding.status heq
      exact Condition.put_put_eq_enter kind apart mine.statusOrEmpty.conditions
    rw [show ∀ write : Event, front ++ .ofService (.fetch (mine.query cm)) (.ok found) ::
        .ofStore (.replaceHotNewsStatus (mine.searched now found)) (.error e) :: [write] =
        (front ++ [.ofService (.fetch (mine.query cm)) (.ok found),
          .ofStore (.replaceHotNewsStatus (mine.searched now found)) (.error e)]) ++ [write] from
      fun write => by simp]
    refine recording_of_write stored known same ?_ rfl conditions
      (fun written hok => outcome?_reported rfl hok) (fun written _ hok _ => .inr ?_) hb
    · rw [List.any_append, unwritten]
      rfl
    · rw [hok, List.append_assoc]
      change Belated (front ++ [_, _, _]) _ (.hotNews a) (.hotNews found.articles.length
        found.requestUrl ((found.articles.take mine.spec.titlesCount).map (·.title)))
      rw [spec]
      exact .found

/-- **What refreshing leaves of the status**, after calls that wrote none. -/
theorem Refreshed.recording {action : Action} {r : Except HotNewsError Unit} (hs : s.Sound)
    (h : Refreshed w settings now s mine es r u) (stored : s.hotNews.get? mine.key = some mine)
    (same : mine.status = a.status) (spec : mine.spec = a.spec)
    (unwritten : front.any Event.records = false) (silent : WithoutRequests front)
    (hb : u.hotNews.get? mine.key = some b) :
    Recording (front ++ es) ((r.map fun _ => action).mapError .hotNews) (.hotNews a)
      (.hotNews b) := by
  have looked : ∀ {links}, links.any Event.records = false →
      (front ++ lookup settings s :: links).any Event.records = false := by
    intro links hlinks
    have hlookup : (lookup settings s).records = false := rfl
    rw [List.any_append, List.any_cons, unwritten, hlookup, hlinks]
    rfl
  have linked : ∀ {ns names links r t v}, w.Meets s t → mine.metadata.ns = some ns →
      (linkSources ns mine names).run.LeadsIn w t links r v →
      v.hotNews.get? mine.key = some mine := by
    intro ns names links r t v meets placed linking
    rw [(linked_of_leads (w.sound meets hs) placed linking).hotNews_eq,
      (w.sameObjects meets).hotNews, stored]
  cases h with
  | unplaced =>
    obtain rfl := Option.some.inj (stored.symm.trans hb)
    refine recording_of_status_eq ?_ same
    rw [List.append_nil, unwritten]
  | @unconfigured _ es _ _ _ _ meets _ fails =>
    rw [show front ++ lookup settings s :: es = (front ++ [lookup settings s]) ++ es by simp]
    exact fails.recording ((w.sameObjects meets).hotNews ▸ stored) same (looked rfl) rfl hb
  | @unlinked _ _ links es _ _ _ _ _ placed meets _ linking fails =>
    rw [show front ++ lookup settings s :: (links ++ es) =
      (front ++ lookup settings s :: links) ++ es by simp]
    exact fails.recording (linked meets placed linking) same
      (looked (unrecorded_of_linking linking)) rfl hb
  | @unfetched _ cm links es _ _ _ e _ _ placed meets _ linking fails =>
    rw [show front ++ lookup settings s ::
        (links ++ .ofService (.fetch (mine.query cm)) (.error e) :: es) =
      (front ++ lookup settings s ::
        (links ++ [.ofService (.fetch (mine.query cm)) (.error e)])) ++ es by simp]
    refine fails.recording (linked meets placed linking) same (looked ?_) rfl hb
    rw [List.any_append, unrecorded_of_linking linking]
    rfl
  | @unwritten _ cm links es _ _ _ x found e _ _ placed meets _ linking writes refused fails =>
    rw [show front ++ lookup settings s :: (links ++
        .ofService (.fetch (mine.query cm)) (.ok found) ::
          .ofStore (.replaceHotNewsStatus (mine.searched now found)) (.error e) :: es) =
      (front ++ lookup settings s :: links) ++ .ofService (.fetch (mine.query cm)) (.ok found) ::
        .ofStore (.replaceHotNewsStatus (mine.searched now found)) (.error e) :: es by simp]
    have stored := linked meets placed linking
    rw [← (w.sameObjects writes).hotNews] at stored
    have known : (mine.searched now found).metadata = mine.metadata := rfl
    rcases writeStatus_cases stored known with ⟨_, _, hsame⟩ | ⟨_, hok, _, _⟩
    · exact fails.recording_belated (hsame.hotNews ▸ stored) same spec
        (looked (unrecorded_of_linking linking)) hb
    · cases refused.symm.trans hok
  | @summarized _ cm links _ _ _ x found written placed meets _ linking writes write =>
    rw [show front ++ lookup settings s :: (links ++ [.ofService (.fetch (mine.query cm))
        (.ok found), .ofStore (.replaceHotNewsStatus (mine.searched now found)) (.ok written)]) =
      (front ++ lookup settings s :: (links ++ [.ofService (.fetch (mine.query cm))
        (.ok found)])) ++ [.ofStore (.replaceHotNewsStatus (mine.searched now found))
          (.ok written)] by simp]
    have stored := linked meets placed linking
    rw [← (w.sameObjects writes).hotNews] at stored
    have known : (mine.searched now found).metadata = mine.metadata := rfl
    have quiet : WithoutRequests (front ++ lookup settings s :: links) :=
      silent.append (.cons_store (withoutRequests_of_linking linking))
    have fetched : (links ++ [Event.ofService (.fetch (mine.query cm)) (.ok found)]).any
        Event.records = false := by
      rw [List.any_append, unrecorded_of_linking linking]
      rfl
    obtain ⟨d, hkind, hfinding, hput⟩ :=
      (Condition.make mine.nextKind true now "Reconciled"
        (String.ofList (Text.decimal found.articles.length) ++ " articles found")).put_eq_enter
          mine.statusOrEmpty.conditions
    rw [← write]
    refine recording_of_write stored known same (looked fetched) hkind hput (fun _ _ => ?_)
      (fun _ _ _ hr => by cases hr) hb
    have told : Event.finding? (.ofService (.fetch (mine.query cm)) (.ok found)) = some
        ⟨.holds, "Reconciled",
          String.ofList (Text.decimal found.articles.length) ++ " articles found"⟩ := rfl
    change List.findSome? Event.finding? _ = _
    rw [hfinding, List.findSome?_append, ← List.cons_append, ← List.append_assoc,
      quiet.findSome?_request told]
    rfl

/-- **What a pass over a HotNews leaves of its status.** -/
theorem Course.recording {r : Except HotNewsError Action} (hs : s.Sound)
    (h : Course w settings now ns name s es r u) (hb : u.hotNews.get? ⟨ns, name⟩ = some b) :
    ∃ a, s.hotNews.get? ⟨ns, name⟩ = some a ∧
      Recording es (r.mapError .hotNews) (.hotNews a) (.hotNews b) := by
  cases h with
  | absent meets gone => rw [(w.sameObjects meets).hotNews, gone] at hb; cases hb
  | @finalized hotNews _ _ _ _ meets stored deleted ends =>
    obtain ⟨hkey, found⟩ := w.hotNews_stands meets hs stored
    exact ⟨hotNews, stored, recording_of_status_eq ends.unrecorded
      (ends.status_eq (w.sound meets hs) found (hkey.symm ▸ hb))⟩
  | @unheld hotNews _ _ _ _ meets stored live holds =>
    obtain ⟨hkey, found⟩ := w.hotNews_stands meets hs stored
    exact ⟨hotNews, stored, recording_of_status_eq holds.unrecorded
      (holds.status_eq found (hkey.symm ▸ hb))⟩
  | @refreshed hotNews mine holds es t v _ _ meets stored live held goes =>
    obtain ⟨hkey, found⟩ := w.hotNews_stands meets hs stored
    have holding := held.holding found live
    rw [← holding.key_eq.trans hkey] at hb
    refine ⟨hotNews, stored, goes.recording (held.sound (w.sound meets hs)) holding.stands
      holding.refinalized.status_eq holding.refinalized.kept.spec_eq ?_
      held.withoutRequests.cons_store hb⟩
    exact held.unrecorded

end HotNews

/-! ## Visits -/

/-- Where the object is stored that a pass is about. -/
def Subject.place : Subject → Place
  | .source key => .source key
  | .hotNews _ key => .hotNews key

namespace Visit

variable {w : Climate} {now : String} {visit : Visit} {subject : Subject} {s u : Store}
variable {es : List Event} {r : Except PassError Action} {p : Place} {b : Resource}

/-- **A pass leaves the status of its object, or enters one condition.** The condition tells what
the pass came to. -/
theorem recording (hs : s.Sound) (about : visit.subject? = some subject)
    (run : (visit.pass now).LeadsIn w s es r u) (hb : u.at? subject.place = some b) :
    ∃ a, s.at? subject.place = some a ∧ Recording es r a b := by
  cases course_of_leads about run with
  | source h =>
    obtain ⟨b, stored, rfl⟩ := Option.map_eq_some_iff.mp hb
    obtain ⟨a, ha, recording⟩ := h.recording hs stored
    exact ⟨_, congrArg (Option.map _) ha, recording⟩
  | hotNews h =>
    obtain ⟨b, stored, rfl⟩ := Option.map_eq_some_iff.mp hb
    obtain ⟨a, ha, recording⟩ := h.recording hs stored
    exact ⟨_, congrArg (Option.map _) ha, recording⟩

/-- No pass touches the conditions of another object. -/
theorem conditions_elsewhere (hs : s.Sound) (run : (visit.pass now).LeadsIn w s es r u)
    (other : ∀ subject, visit.subject? = some subject → subject.place ≠ p)
    (hb : u.at? p = some b) : ∃ a, s.at? p = some a ∧ b.conditions = a.conditions := by
  cases about : visit.subject? with
  | none =>
    rw [(idle_of_leads about run).2.2] at hb
    exact ⟨b, hb, rfl⟩
  | some subject =>
    have elsewhere := other subject about
    cases course_of_leads about run with
    | @source key _ _ _ h =>
      have tended := h.tended hs
      refine ⟨b, (tended.rest.at?_eq fun k hk => ?_).symm.trans hb, rfl⟩
      refine tended.sources.elsewhere k fun heq => elsewhere ?_
      rw [hk, heq]
      rfl
    | @hotNews settings key _ _ _ h =>
      cases p with
      | source k =>
        obtain ⟨b, stored, rfl⟩ := Option.map_eq_some_iff.mp hb
        obtain ⟨uid, new, relinked⟩ := h.relinked hs
        obtain ⟨a, ha, hab⟩ := (stored ▸ relinked.evolves k).before
        refine ⟨.source a, congrArg (Option.map _) ha, ?_⟩
        exact congrArg (fun status => (status.getD {}).conditions) hab.status_eq
      | hotNews k =>
        refine ⟨b, (congrArg (Option.map _) ?_).trans hb, rfl⟩
        refine ((h.kept hs).elsewhere k fun heq => elsewhere ?_).symm
        rw [heq]
        rfl
      | configMap k => exact ⟨b, by rw [← hb, Store.at?, Store.at?, run.configMaps_eq], rfl⟩

end Visit

end FeedOperator
