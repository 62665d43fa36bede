import FeedOperator.Proofs.Reconcile.HotNews
import FeedOperator.Proofs.Reconcile.Source

/-!
# Visits

A visit is a pass of either controller, with its result. Of the object that is handed to it, it
reads namespace and name, and nothing else: those name its subject.

* `Subject`: what a pass is about.
* `Visit`, `Visit.pass`: a pass over a Source or over a HotNews.
* `Subject.Course`: all that a pass over a subject can do.
* `Service`: a service whose answer depends on the request alone.
* `Visit.run`, `Visit.journal`: what comes of a visit with such a service, and its calls.

Results:
* `course_of_leads`: a visit takes one of the courses of its subject.
* `idle_of_leads`, `unchanged_of_leads`: one without a subject fails at once, and does nothing.
* `leads_run`, `answers_journal`: what is computed is a run of the pass, and all its requests are
  answered by the service.
-/

namespace FeedOperator

/-- Why a pass of either controller came to nothing. -/
inductive PassError where
  | source (e : SourceError)
  | hotNews (e : HotNewsError)
  deriving DecidableEq

/-- What a pass is about. -/
inductive Subject where
  | source (key : ObjectKey)
  | hotNews (settings : Settings) (key : ObjectKey)

/-- A pass of either controller, with the object that is handed to it. -/
inductive Visit where
  | source (given : Source)
  | hotNews (settings : Settings) (given : HotNews)

namespace Subject

/-- The key of the object that a pass is about. -/
def key : Subject → ObjectKey
  | .source key => key
  | .hotNews _ key => key

/-- Whether the object is stored and its deletion was not requested. -/
def IsLive (s : Store) : Subject → Prop
  | .source key => ∃ a, s.sources.get? key = some a ∧ a.metadata.isDeleted = false
  | .hotNews _ key => ∃ a, s.hotNews.get? key = some a ∧ a.metadata.isDeleted = false

/-- All that a pass over a subject can do. -/
inductive Course (w : Climate) (now : String) (s : Store) :
    Subject → List Event → Except PassError Action → Store → Prop
  | source {key : ObjectKey} {es : List Event} {r : Except SourceError Action} {u : Store}
    (h : Source.Course w now key.ns key.name s es r u) :
    Course w now s (.source key) es (r.mapError .source) u
  | hotNews {settings : Settings} {key : ObjectKey} {es : List Event}
    {r : Except HotNewsError Action} {u : Store}
    (h : HotNews.Course w settings now key.ns key.name s es r u) :
    Course w now s (.hotNews settings key) es (r.mapError .hotNews) u

end Subject

namespace Visit

/-- What the visit is about, if the object that is handed to it says where it is stored. -/
def subject? : Visit → Option Subject
  | .source given => (ObjectKey.ofMeta? given.metadata).map .source
  | .hotNews settings given => (ObjectKey.ofMeta? given.metadata).map (.hotNews settings)

/-- The pass; `now` is the time that a condition gets. -/
def pass (now : String) : Visit → Pass (Except PassError Action)
  | .source given => Except.mapError .source <$> (Source.reconcile now given).pass
  | .hotNews settings given =>
    Except.mapError .hotNews <$> (HotNews.reconcile settings now given).pass

variable {w : Climate} {now : String} {visit : Visit} {subject : Subject} {s u : Store}
variable {es : List Event} {r : Except PassError Action}

/-- **A visit takes one of the courses of its subject.** -/
theorem course_of_leads (about : visit.subject? = some subject)
    (h : (visit.pass now).LeadsIn w s es r u) : subject.Course w now s es r u := by
  cases visit with
  | source given =>
    obtain ⟨key, hkey, rfl⟩ := Option.map_eq_some_iff.mp about
    obtain ⟨hns, hname⟩ := ObjectKey.ofMeta?_eq_some_iff.mp hkey
    obtain ⟨r, hrun, rfl⟩ := Pass.leads_map_iff.mp h
    exact .source (Source.course_of_leads hns hname hrun)
  | hotNews settings given =>
    obtain ⟨key, hkey, rfl⟩ := Option.map_eq_some_iff.mp about
    obtain ⟨hns, hname⟩ := ObjectKey.ofMeta?_eq_some_iff.mp hkey
    obtain ⟨r, hrun, rfl⟩ := Pass.leads_map_iff.mp h
    exact .hotNews (HotNews.course_of_leads hns hname hrun)

/-- A visit without a subject fails at once. -/
theorem idle_of_leads (about : visit.subject? = none) (h : (visit.pass now).LeadsIn w s es r u) :
    es = [] ∧ (∃ e, r = .error e) ∧ u = s := by
  cases visit with
  | source given =>
    obtain ⟨r, hrun, rfl⟩ := Pass.leads_map_iff.mp h
    rcases Source.reconcile_leads hrun with ⟨_, rfl, rfl, rfl⟩ | ⟨ns, name, hns, hname, -⟩
    · exact ⟨rfl, ⟨_, rfl⟩, rfl⟩
    · simp [subject?, ObjectKey.ofMeta?, hns, hname] at about
  | hotNews settings given =>
    obtain ⟨r, hrun, rfl⟩ := Pass.leads_map_iff.mp h
    rcases HotNews.reconcile_leads hrun with ⟨_, rfl, rfl, rfl⟩ | ⟨ns, name, hns, hname, -⟩
    · exact ⟨rfl, ⟨_, rfl⟩, rfl⟩
    · simp [subject?, ObjectKey.ofMeta?, hns, hname] at about

theorem unchanged_of_leads (about : visit.subject? = none)
    (h : (visit.pass now).LeadsIn w s es r u) : u = s :=
  (idle_of_leads about h).2.2

end Visit

/-! ## What is computed -/

/-- A service whose answer depends on the request alone. -/
abbrev Service := (c : ServiceCall) → c.Answer

namespace Service

/-- The service as one that answers from a state, of which it has none. -/
def reply (f : Service) (c : ServiceCall) (t : Unit) : c.Answer × Unit :=
  (f c, t)

/-- Whether all requests among some calls are answered by the service. -/
def Answers (f : Service) (es : List Event) : Prop :=
  ∀ c answer, .ofService c answer ∈ es → answer = f c

theorem answers_journal {α : Type} (f : Service) (p : Pass α) (state : Store × Unit) :
    f.Answers (p.journal f.reply state) := by
  induction p generalizing state with
  | done => exact fun _ _ h => absurd h List.not_mem_nil
  | ask c next ih =>
    intro c' answer h
    rcases List.mem_cons.mp h with heq | h
    · cases c with
      | store => cases heq
      | service => cases heq; rfl
    · exact ih _ _ _ _ h

end Service

namespace Visit

/-- The result of a visit and the store after it, with a service whose answer depends on the request
alone. -/
def run (f : Service) (now : String) (visit : Visit) (s : Store) :
    Except PassError Action × Store :=
  let done := (visit.pass now).run (Pass.environment f.reply) (s, ())
  (done.1, done.2.1)

/-- The calls of a visit with their answers. -/
def journal (f : Service) (now : String) (visit : Visit) (s : Store) : List Event :=
  (visit.pass now).journal f.reply (s, ())

theorem leads_run (f : Service) (now : String) (visit : Visit) (s : Store) :
    (visit.pass now).Leads s (visit.journal f now s) (visit.run f now s).1
      (visit.run f now s).2 :=
  Pass.leads_journal f.reply _ (s, ())

end Visit

/-! ## A newsroom -/

/-- A Source that somebody else owns, and two HotNews that search it. -/
def newsroom : Store :=
  let groups : ConfigMap := { metadata := { name := some "feed-group-source" } }
  let owner : OwnerReference :=
    { apiVersion := "v1", kind := "Owner", name := "other", uid := "uid-other" }
  let bbc : Source := {
    metadata := { name := some "bbc", ns := some "news", ownerReferences := some [owner] }
    spec := { shortName := "bbc" } }
  let search := fun name : String => ({
    metadata := { name := some name, ns := some "news" }
    spec := { sources := ["bbc"] } } : HotNews)
  ((((Store.insert {} (.configMap groups)).insert (.source bbc)).insert
    (.hotNews (search "world"))).insert (.hotNews (search "sport")))

theorem built_newsroom : newsroom.Built := by
  unfold newsroom
  exact (((Store.Built.empty.insert _).insert _).insert _).insert _

/-- A pass over one HotNews of the newsroom. -/
def worldVisit : Visit :=
  .hotNews {} { metadata := { name := some "world", ns := some "news" }, spec := {} }

/-- A pass over the other one. -/
def sportVisit : Visit :=
  .hotNews {} { metadata := { name := some "sport", ns := some "news" }, spec := {} }

/-- A service that is not there. -/
def unreachable : Service :=
  Rehearsal.reply (fun _ => "") (.failure (.transport "unreachable"))

/-- A service that agrees to everything and finds nothing. -/
def agreeable : Service :=
  Rehearsal.reply (fun _ => "https://example.com/articles") .usual

end FeedOperator
