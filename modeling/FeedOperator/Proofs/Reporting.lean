import FeedOperator.Proofs.Visit

/-!
# What a failed request leaves on the status

A pass that registers or updates a record, or searches articles, writes a condition when its request
fails, and passes the error on after that. A pass that has a record deleted passes the error on at
once, so the status says nothing of it.

* `Condition.TellsOf`: a condition in the words of an error of the service.
* `Subject.conditions`, `Subject.Shows`: what the status of the stored object says.

Results:
* `exists_tellsOf_put`: a condition that is put on a status tells of what it was made from.
* `Source.Course.shows`, `HotNews.Course.shows`: what the courses leave of a failure.
* `Visit.failure_shown_iff`: a failed request shows after the pass, unless it was one to delete.
-/

namespace FeedOperator

/-- A condition that says that something failed, and quotes the error. -/
def Condition.TellsOf (c : Condition) (e : ServiceError) : Prop :=
  c.status = .fails ∧ e.message.toList <:+: c.message.toList

/-- The condition keeps its words if it is put on a list, or one with them stays in its place. -/
theorem Condition.exists_tellsOf_put {c : Condition} {e : ServiceError} (h : c.TellsOf e)
    (cs : List Condition) : ∃ d ∈ c.put cs, d.TellsOf e := by
  obtain ⟨d, hd, -, outcome⟩ := c.exists_mem_put cs
  obtain ⟨hstatus, -, hmessage⟩ := sameOutcome_iff.mp outcome
  exact ⟨d, hd, hstatus.trans h.1, hmessage ▸ h.2⟩

theorem Condition.tellsOf_make (kind : Condition.Kind) (now reason : String) (e : ServiceError) :
    (Condition.make kind false now reason e.message).TellsOf e :=
  ⟨rfl, List.infix_rfl⟩

namespace Subject

/-- The conditions on the stored object; none if it is not there. -/
def conditions (s : Store) : Subject → List Condition
  | .source key => (s.sources.get? key).elim [] (·.statusOrEmpty.conditions)
  | .hotNews _ key => (s.hotNews.get? key).elim [] (·.statusOrEmpty.conditions)

/-- Whether the stored object has a condition that tells of an error. -/
def Shows (subject : Subject) (s : Store) (e : ServiceError) : Prop :=
  ∃ c ∈ subject.conditions s, c.TellsOf e

end Subject

/-! ## Sources -/

namespace Source

variable {w : Climate} {now ns name : String} {s t u : Store} {es : List Event}
variable {source mine : Source} {key : ObjectKey} {c : ServiceCall} {e : ServiceError}

/-- A condition that is written to a stored Source is there afterwards. -/
theorem shows_of_written (stored : t.sources.get? mine.key = some mine) (hkey : mine.key = key)
    (calm : t.failStatusWrites = false) {condition : Condition} (tells : condition.TellsOf e) :
    (Subject.source key).Shows (t.replaceSourceStatus (mine.withCondition condition)).2 e := by
  subst hkey
  have known : (mine.withCondition condition).metadata = mine.metadata := rfl
  obtain ⟨version, -, hu⟩ := writeStatus_of_calm stored known calm
  simp only [Subject.Shows, Subject.conditions, hu]
  exact Condition.exists_tellsOf_put tells mine.statusOrEmpty.conditions

/-- A Source is finalized with one request at most, one to delete its record. If that fails,
nothing is written. -/
theorem Finalized.unchanged {r : Except SourceError Action}
    (h : Finalized w s source es r u) (failed : .ofService c (.error e) ∈ es) :
    c.method = .delete ∧ u = s := by
  cases h with
  | unheld => cases failed
  | undeleted =>
    cases List.mem_singleton.mp failed
    exact ⟨rfl, rfl⟩
  | released =>
    rcases List.mem_append.mp failed with hdelete | hrelease
    · split at hdelete
      · cases hdelete
      · cases List.mem_singleton.mp hdelete
    · cases List.mem_singleton.mp hrelease

/-- **A pass over a Source writes of each request that fails, but for one to delete.** After that
one nothing is written at all. -/
theorem Course.shows {r : Except SourceError Action} (hs : s.Sound)
    (calm : s.failStatusWrites = false) (h : Course .settled now ns name s es r u)
    (failed : .ofService c (.error e) ∈ es) :
    c.method = .delete ∧ u = s ∨
      c.method ≠ .delete ∧ (Subject.source ⟨ns, name⟩).Shows u e := by
  -- What is stored when the request is made, in the two courses that write of it.
  have held : ∀ {source mine front t}, s.sources.get? ⟨ns, name⟩ = some source →
      source.metadata.isDeleted = false → Held .settled s source front (.ok mine) t →
      t.sources.get? mine.key = some mine ∧ mine.key = ⟨ns, name⟩ ∧
        t.failStatusWrites = false := by
    intro source mine front t stored live holds
    have hkey := hs.source_key stored
    have holding := holds.holding (hkey.symm ▸ stored) live
    exact ⟨holding.stands, holding.key_eq.trans hkey, holds.failStatusWrites_eq.trans calm⟩
  cases h with
  | absent => exact absurd failed (WithoutRequests.cons_store .nil c _)
  | finalized meets _ _ ends =>
    obtain rfl := Climate.settled_eq meets
    exact .inl (ends.unchanged (Event.mem_of_mem_cons_store failed))
  | unheld _ _ _ holds => exact absurd failed (WithoutRequests.cons_store holds.withoutRequests c _)
  | registered answer meets stored live holds _ writes =>
    obtain rfl := Climate.settled_eq meets
    obtain rfl := Climate.settled_eq writes
    obtain ⟨ht, hkey, hcalm⟩ := held stored live holds
    cases WithoutRequests.eq_of_mem (.cons_store holds.withoutRequests) (.cons_store .nil) failed
    exact .inr ⟨nofun, shows_of_written ht hkey hcalm (Condition.tellsOf_make _ _ _ e)⟩
  | updated answer meets stored live holds _ writes =>
    obtain rfl := Climate.settled_eq meets
    obtain rfl := Climate.settled_eq writes
    obtain ⟨ht, hkey, hcalm⟩ := held stored live holds
    cases WithoutRequests.eq_of_mem (.cons_store holds.withoutRequests) (.cons_store .nil) failed
    exact .inr ⟨nofun, shows_of_written ht hkey hcalm (Condition.tellsOf_make _ _ _ e)⟩

end Source

/-! ## HotNews -/

namespace HotNews

variable {settings : Settings} {now ns name : String} {s t u : Store} {es : List Event}
variable {hotNews mine : HotNews} {c : ServiceCall} {e : ServiceError}

theorem tellsOf_fetchArticles (kind : Condition.Kind) (now reason : String) (e : ServiceError) :
    (Condition.make kind false now reason (HotNewsError.fetchArticles e).message).TellsOf e := by
  refine ⟨rfl, ?_⟩
  change e.message.toList <:+: ("failed to fetch articles: " ++ e.message).toList
  rw [String.toList_append]
  exact (List.suffix_append _ _).isInfix

/-- A search that fails is written of. -/
theorem Failed.shows {kind : Condition.Kind} {reason : Condition.Reason}
    {r : Except HotNewsError Unit}
    (h : Failed .settled now t mine kind reason (.fetchArticles e) es r u)
    (stored : t.hotNews.get? mine.key = some mine) (calm : t.failStatusWrites = false) :
    (Subject.hotNews settings mine.key).Shows u e := by
  obtain ⟨-, version, hu⟩ := h.written stored calm
  simp only [Subject.Shows, Subject.conditions, hu]
  exact Condition.exists_tellsOf_put (tellsOf_fetchArticles kind now reason.text e)
    mine.statusOrEmpty.conditions

/-- Refreshing makes one request at most, and writes of it if it fails. -/
theorem Refreshed.shows {r : Except HotNewsError Unit} (hs : s.Sound)
    (stored : s.hotNews.get? mine.key = some mine) (calm : s.failStatusWrites = false)
    (h : Refreshed .settled settings now s mine es r u) (failed : .ofService c (.error e) ∈ es) :
    c.method ≠ .delete ∧ (Subject.hotNews settings mine.key).Shows u e := by
  cases h with
  | unplaced => cases failed
  | unconfigured _ _ _ fails =>
    exact absurd failed (WithoutRequests.cons_store fails.withoutRequests _ _)
  | unlinked _ _ _ linking fails =>
    exact absurd failed
      (WithoutRequests.cons_store ((withoutRequests_of_linking linking).append fails.withoutRequests) _ _)
  | unfetched placed meets _ linking fails =>
    obtain rfl := Climate.settled_eq meets
    cases (WithoutRequests.cons_store (withoutRequests_of_linking linking)).eq_of_mem fails.withoutRequests failed
    have stored' := (linked_of_leads hs placed linking).hotNews_eq.symm ▸ stored
    exact ⟨nofun, fails.shows stored' (linking.failStatusWrites_eq.trans calm)⟩
  | unwritten _ _ _ linking _ _ fails =>
    cases (WithoutRequests.cons_store (withoutRequests_of_linking linking)).eq_of_mem
      (.cons_store fails.withoutRequests) failed
  | summarized _ _ _ linking =>
    cases (WithoutRequests.cons_store (withoutRequests_of_linking linking)).eq_of_mem (.cons_store .nil) failed

/-- **A pass over a HotNews writes of each request that fails.** -/
theorem Course.shows {r : Except HotNewsError Action} (hs : s.Sound)
    (calm : s.failStatusWrites = false) (h : Course .settled settings now ns name s es r u)
    (failed : .ofService c (.error e) ∈ es) :
    c.method ≠ .delete ∧ (Subject.hotNews settings ⟨ns, name⟩).Shows u e := by
  cases h with
  | absent => exact absurd failed (WithoutRequests.cons_store .nil c _)
  | finalized _ _ _ ends =>
    exact absurd failed (WithoutRequests.cons_store ends.withoutRequests c _)
  | unheld _ _ _ holds => exact absurd failed (WithoutRequests.cons_store holds.withoutRequests c _)
  | @refreshed _ mine front back _ t _ _ meets stored live holds goes =>
    obtain rfl := Climate.settled_eq meets
    have hkey := hs.hotNews_key stored
    have holding := holds.holding (hkey.symm ▸ stored) live
    have hmem : .ofService c (.error e) ∈ back := by
      rcases List.mem_append.mp (Event.mem_of_mem_cons_store failed) with hheld | hmem
      · exact absurd hheld (holds.withoutRequests c _)
      · exact hmem
    rw [← holding.key_eq.trans hkey]
    exact goes.shows (holds.sound hs) holding.stands (holds.failStatusWrites_eq.trans calm) hmem

end HotNews

/-! ## Visits -/

namespace Visit

/-- **A failed request shows after the pass, unless it was one to delete.** That one leaves the
store as it was. -/
theorem failure_shown_iff {now : String} {visit : Visit} {s u : Store} {es : List Event}
    {r : Except PassError Action} {c : ServiceCall} {e : ServiceError} (built : s.Built)
    (calm : s.failStatusWrites = false) (run : (visit.pass now).Leads s es r u)
    (failed : .ofService c (.error e) ∈ es) :
    ∃ subject, visit.subject? = some subject ∧
      (subject.Shows u e ↔ c.method ≠ .delete ∨ subject.Shows s e) ∧
      (c.method = .delete → u = s) := by
  have shown : ∀ {subject : Subject}, c.method = .delete ∧ u = s ∨
      c.method ≠ .delete ∧ subject.Shows u e →
      (subject.Shows u e ↔ c.method ≠ .delete ∨ subject.Shows s e) ∧
        (c.method = .delete → u = s) := by
    rintro subject (⟨delete, rfl⟩ | ⟨other, shows⟩)
    · exact ⟨⟨.inr, fun h => h.resolve_left (not_not_intro delete)⟩, fun _ => rfl⟩
    · exact ⟨iff_of_true shows (.inl other), fun delete => absurd delete other⟩
  cases about : visit.subject? with
  | none =>
    rw [(idle_of_leads about run).1] at failed
    cases failed
  | some subject =>
    refine ⟨subject, rfl, shown ?_⟩
    cases course_of_leads about run with
    | source h => exact h.shows built.sound calm failed
    | hotNews h => exact .inr (h.shows built.sound calm failed)

/-- A search of the newsroom that fails. -/
theorem failed_search_shown : newsroom.Built ∧ newsroom.failStatusWrites = false ∧
    .ofService (.fetch { sources := ["bbc"] }) (.error (.transport "unreachable")) ∈
      worldVisit.journal unreachable "now" newsroom ∧
    ∃ subject, worldVisit.subject? = some subject ∧
      ¬ subject.Shows newsroom (.transport "unreachable") ∧
      subject.Shows (worldVisit.run unreachable "now" newsroom).2 (.transport "unreachable") := by
  have failed : .ofService (.fetch { sources := ["bbc"] }) (.error (.transport "unreachable")) ∈
      worldVisit.journal unreachable "now" newsroom :=
    List.mem_of_getElem? (i := 6) rfl
  obtain ⟨subject, about, shown, -⟩ :=
    failure_shown_iff built_newsroom rfl (worldVisit.leads_run unreachable "now" newsroom) failed
  refine ⟨built_newsroom, rfl, failed, subject, about, ?_, shown.mpr (.inl nofun)⟩
  cases about
  rintro ⟨c, hc, -⟩
  cases hc

/-! ## A deletion that fails -/

/-- A store with a Source that has a record and its finalizer, and is marked for deletion. -/
def departing : Store :=
  (Store.insert {} (.source {
    metadata := { name := some "bbc", ns := some "news", finalizers := some [Source.finalizer] }
    spec := { shortName := "bbc" }
    status := some { id := 42 } })).deleteSource ⟨"news", "bbc"⟩

/-- A pass over the Source. -/
def bbcVisit : Visit :=
  .source { metadata := { name := some "bbc", ns := some "news" }, spec := {} }

/-- The Source is still there after its record could not be deleted, and says nothing of that. -/
theorem failed_deletion_unseen : departing.Built ∧ departing.failStatusWrites = false ∧
    bbcVisit.subject? = some (.source ⟨"news", "bbc"⟩) ∧
    .ofService (.delete 42) (.error (.transport "unreachable")) ∈
      bbcVisit.journal unreachable "now" departing ∧
    ((bbcVisit.run unreachable "now" departing).2.sources.get? ⟨"news", "bbc"⟩).map
      (fun source => (source.metadata.isDeleted, source.status)) = some (true, some { id := 42 }) ∧
    ¬ (Subject.source ⟨"news", "bbc"⟩).Shows (bbcVisit.run unreachable "now" departing).2
      (.transport "unreachable") := by
  have built : departing.Built := (Store.Built.empty.insert _).after (.deleteSource _)
  have failed : .ofService (.delete 42) (.error (.transport "unreachable")) ∈
      bbcVisit.journal unreachable "now" departing :=
    List.mem_of_getElem? (i := 1) rfl
  refine ⟨built, rfl, rfl, failed, rfl, ?_⟩
  rintro ⟨c, hc, -⟩
  cases hc

end Visit

end FeedOperator
