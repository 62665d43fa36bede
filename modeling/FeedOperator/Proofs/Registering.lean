import FeedOperator.Proofs.Identity
import FeedOperator.Proofs.Reporting

/-!
# What a pass over a live Source leaves when it goes well

The pass makes one request, to register the Source or to update its record, and goes well if the
request did and the status could be written. The id 0 stands for no id, so a Source that the service
registers under it is not known to be registered.

* `SendsOnly`: calls with one request to the service.
* `Source.request`: the request that the id of a Source calls for.
* `Source.Served`: a Source as such a pass leaves it.

Results:
* `Source.Course.served`: a pass that goes well leaves the Source held, and with a condition that
  says so.
* `Source.Course.sendsOnly`: a pass over a Source that is held makes the request that its id calls
  for.
* `Visit.source_served`: the Source has an id after the pass exactly if the service did not answer a
  request to register it with the id 0, and the next pass goes by that.
-/

namespace FeedOperator

/-- Calls with one request to the service. -/
def SendsOnly (c : ServiceCall) (es : List Event) : Prop :=
  ∃ front answer back, es = front ++ .ofService c answer :: back ∧ WithoutRequests front ∧
    WithoutRequests back

namespace Source

/-- The request that the id of a Source calls for. -/
def request (source : Source) : ServiceCall :=
  if source.externalId = 0 then .create source.spec
  else .update source.externalId { source.spec with id := source.externalId }

/-- A Source that is held and live, with a condition of a kind that says that all is well. -/
structure Served (kind : Condition.Kind) (source : Source) : Prop where
  held : source.metadata.hasFinalizer finalizer = true
  live : source.metadata.isDeleted = false
  told : ∃ c ∈ source.statusOrEmpty.conditions, c.kind = kind ∧ c.status = .holds

variable {w : Climate} {now ns name : String} {s t u v x : Store} {es holds : List Event}
variable {source mine : Source}

/-- A report that all is well, written to a Source that is held. -/
theorem served_of_report {new : Source} (condition : Condition) (hs : s.Sound)
    (stored : s.sources.get? ⟨ns, name⟩ = some source) (live : source.metadata.isDeleted = false)
    (meets : w.Meets s t) (held : Held w t source holds (.ok mine) v) (writes : w.Meets v x)
    (known : new.metadata = mine.metadata) (kind : condition.kind = mine.nextKind)
    (well : condition.status = .holds)
    (conditions : new.statusOrEmpty.conditions = condition.put mine.statusOrEmpty.conditions)
    {written : Source} (ok : (x.replaceSourceStatus new).1 = .ok written) :
    ∃ b, (x.replaceSourceStatus new).2.sources.get? ⟨ns, name⟩ = some b ∧
      b.Served source.nextKind ∧ b.externalId = new.externalId := by
  obtain ⟨hkey, stored⟩ := w.source_stands meets hs stored
  have holding := held.holding stored live
  have stands := (w.sameObjects writes).sources ▸ holding.stands
  have same : mine.nextKind = source.nextKind := by
    unfold nextKind statusOrEmpty
    rw [holding.refinalized.status_eq]
  rcases writeStatus_cases stands known with ⟨e, he, -⟩ | ⟨version, -, -, hget⟩
  · cases ok.symm.trans he
  · refine ⟨mine.withStatusOf new version, ?_, ⟨holding.holds, ?_, ?_⟩, rfl⟩
    · rw [hget, if_pos (holding.key_eq.trans hkey).symm]
    · exact holding.refinalized.kept.isDeleted_eq.trans live
    · obtain ⟨d, hd, hkind, outcome⟩ := condition.exists_mem_put mine.statusOrEmpty.conditions
      obtain ⟨hstatus, -, -⟩ := Condition.sameOutcome_iff.mp outcome
      exact ⟨d, conditions ▸ hd, hkind.trans (kind.trans same), hstatus.trans well⟩

theorem ok_of_outcome {α : Type} {answer : Except ServiceError α}
    {write : Except StoreError Source} {action : Action}
    (h : (Except.ok action : Except SourceError Action) =
      (outcome answer write).map fun _ => .awaitChange) :
    (∃ a, answer = .ok a) ∧ ∃ written, write = .ok written := by
  cases write with
  | error => cases h
  | ok written =>
    cases answer with
    | error => cases h
    | ok a => exact ⟨⟨a, rfl⟩, written, rfl⟩

/-- **A pass over a live Source that goes well** leaves it held, with a condition that says so. It
has an id then, unless the service registered it under the id 0. -/
theorem Course.served {action : Action} (hs : s.Sound)
    (h : Course w now ns name s es (.ok action) u)
    (stored : s.sources.get? ⟨ns, name⟩ = some source)
    (live : source.metadata.isDeleted = false) :
    ∃ b, u.sources.get? ⟨ns, name⟩ = some b ∧ b.Served source.nextKind ∧
      (b.externalId ≠ 0 ↔ ∀ spec, .ofService (.create spec) (.ok 0) ∉ es) := by
  have known : ∀ {b : Source}, s.sources.get? ⟨ns, name⟩ = some b → b = source :=
    fun hb => Option.some.inj (hb.symm.trans stored)
  generalize hr : (Except.ok action : Except SourceError Action) = r at h
  cases h with
  | absent _ gone => cases gone.symm.trans stored
  | unheld => cases hr
  | finalized _ stored' deleted =>
    obtain rfl := known stored'
    cases live.symm.trans deleted
  | @registered _ mine _ _ _ _ answer meets stored' _ held _ writes =>
    obtain rfl := known stored'
    obtain ⟨⟨id, rfl⟩, written, ok⟩ := ok_of_outcome hr
    obtain ⟨b, hb, served, hid⟩ := served_of_report (.make mine.nextKind true now _ _) hs stored
      live meets held writes (metadata_registered ..) rfl rfl rfl ok
    refine ⟨b, hb, served, ?_⟩
    have heq : b.externalId = id := hid
    rw [heq]
    constructor
    · intro hne spec hmem
      cases WithoutRequests.eq_of_mem (.cons_store held.withoutRequests) (.cons_store .nil) hmem
      exact hne rfl
    · rintro hnone rfl
      exact hnone mine.spec (by simp)
  | @updated _ mine _ _ _ _ answer meets stored' _ held registered writes =>
    obtain rfl := known stored'
    obtain ⟨⟨⟨⟩, rfl⟩, written, ok⟩ := ok_of_outcome hr
    obtain ⟨b, hb, served, hid⟩ := served_of_report (.make mine.nextKind true now _ _) hs stored
      live meets held writes (metadata_updated ..) rfl rfl rfl ok
    refine ⟨b, hb, served, iff_of_true (fun h0 => registered ?_) fun spec hmem => ?_⟩
    · exact hid.symm.trans h0
    · cases WithoutRequests.eq_of_mem (.cons_store held.withoutRequests) (.cons_store .nil) hmem

/-- A pass over a live Source that is held makes the request that its id calls for. -/
theorem Course.sendsOnly {r : Except SourceError Action}
    (h : Course w now ns name s es r u)
    (stored : s.sources.get? ⟨ns, name⟩ = some source)
    (held : source.metadata.hasFinalizer finalizer = true)
    (live : source.metadata.isDeleted = false) : SendsOnly source.request es := by
  have known : ∀ {b : Source}, s.sources.get? ⟨ns, name⟩ = some b → b = source :=
    fun hb => Option.some.inj (hb.symm.trans stored)
  have already : ∀ {holds r t u}, Held w t source holds r u → r = .ok source :=
    fun h => (h.eq_of_hasFinalizer held).2.1
  cases h with
  | absent _ gone => cases gone.symm.trans stored
  | finalized _ stored' deleted =>
    obtain rfl := known stored'
    cases live.symm.trans deleted
  | unheld _ stored' _ holds =>
    obtain rfl := known stored'
    cases already holds
  | registered answer _ stored' _ holds fresh =>
    obtain rfl := known stored'
    obtain rfl := Except.ok.inj (already holds)
    rw [request, if_pos fresh]
    exact ⟨_, answer, _, rfl, .cons_store holds.withoutRequests, .cons_store .nil⟩
  | updated answer _ stored' _ holds registered =>
    obtain rfl := known stored'
    obtain rfl := Except.ok.inj (already holds)
    rw [request, if_neg registered]
    exact ⟨_, answer, _, rfl, .cons_store holds.withoutRequests, .cons_store .nil⟩

end Source

/-! ## Visits -/

namespace Visit

/-- **A visit to a live Source that goes well leaves it held, with a condition that says so**,
whatever failures are set while it runs. It has an id after the visit exactly if no request to
register it was answered with the id 0. The next visit, over whatever store it finds the Source in
as it was left, makes one request: it updates the record of a Source with an id, and registers one
without an id once more. -/
theorem source_served {visit : Visit} {now : String} {s u : Store} {es : List Event}
    {action : Action} {key : ObjectKey} {a : Source} (built : s.Built)
    (about : visit.subject? = some (.source key)) (stored : s.sources.get? key = some a)
    (live : a.metadata.isDeleted = false) (run : (visit.pass now).Weathers s es (.ok action) u) :
    ∃ b, u.sources.get? key = some b ∧ b.metadata.hasFinalizer Source.finalizer = true ∧
      (∃ c ∈ b.statusOrEmpty.conditions, c.kind = .next a.statusOrEmpty.conditions ∧
        c.status = .holds) ∧
      (b.externalId ≠ 0 ↔ ∀ spec, .ofService (.create spec) (.ok 0) ∉ es) ∧
      ∀ (later : Visit) (now' : String) (v w : Store) (es' : List Event)
        (r : Except PassError Action), later.subject? = some (.source key) →
        v.sources.get? key = some b → (later.pass now').Weathers v es' r w →
        (b.externalId ≠ 0 →
          SendsOnly (.update b.externalId { b.spec with id := b.externalId }) es') ∧
        (b.externalId = 0 → SendsOnly (.create b.spec) es') := by
  have course := course_of_leads about run
  generalize hr : (Except.ok action : Except PassError Action) = r at course
  cases course with
  | @source _ _ r _ course =>
    cases r with
    | error => cases hr
    | ok =>
      obtain ⟨b, hb, served, registered⟩ := course.served built.sound stored live
      refine ⟨b, hb, served.held, served.told, registered, ?_⟩
      intro later now' v w es' r about' stored' run'
      have sends : SendsOnly b.request es' := by
        cases course_of_leads about' run' with
        | source course' => exact course'.sendsOnly stored' served.held served.live
      refine ⟨fun known => ?_, fun unknown => ?_⟩
      · rwa [Source.request, if_neg known] at sends
      · rwa [Source.request, if_pos unknown] at sends

/-- A service that registers every Source under an id. -/
def registrar (id : Int64) : Service :=
  Rehearsal.reply (fun _ => "") (.registered id)

/-- The newcomer after a visit. -/
def received (id : Int64) : Store :=
  (bbcVisit.run (registrar id) "now" newcomer).2

theorem built_newcomer : newcomer.Built :=
  Store.Built.empty.insert _

/-- The newcomer is registered under the id 7, and the next visit updates its record. -/
theorem newcomer_served : newcomer.Built ∧
    ∃ b, (received 7).sources.get? ⟨"news", "bbc"⟩ = some b ∧ b.externalId = 7 ∧
      b.metadata.hasFinalizer Source.finalizer = true ∧
      SendsOnly (.update 7 { b.spec with id := 7 })
        (bbcVisit.journal (registrar 7) "later" (received 7)) := by
  have about : bbcVisit.subject? = some (.source ⟨"news", "bbc"⟩) := rfl
  have run := bbcVisit.leads_run (registrar 7) "now" newcomer
  have ok : (bbcVisit.run (registrar 7) "now" newcomer).1 = .ok .awaitChange := rfl
  rw [ok] at run
  obtain ⟨b, hb, held, -, -, next⟩ := source_served built_newcomer about rfl rfl run.weathers
  have id : b.externalId = 7 := by
    have : ((received 7).sources.get? ⟨"news", "bbc"⟩).map Source.externalId = some 7 := by
      decide +kernel
    exact Option.some.inj ((congrArg _ hb).symm.trans this)
  have sends := (next bbcVisit "later" (received 7) _ _ _ about hb
    (bbcVisit.leads_run (registrar 7) "later" (received 7)).weathers).1
  rw [id] at sends
  exact ⟨built_newcomer, b, hb, id, held, sends (by decide)⟩

/-- If the service gives it the id 0 the visit goes well all the same, the Source says that it is
registered, and the next visit registers it once more. -/
theorem newcomer_without_id : newcomer.Built ∧
    bbcVisit.subject? = some (.source ⟨"news", "bbc"⟩) ∧
    (newcomer.sources.get? ⟨"news", "bbc"⟩).map (·.metadata.isDeleted) = some false ∧
    (bbcVisit.run (registrar 0) "now" newcomer).1 = .ok .awaitChange ∧
    ((received 0).sources.get? ⟨"news", "bbc"⟩).map (fun b =>
      (b.externalId, b.statusOrEmpty.conditions.map fun c => (c.status, c.message))) =
        some (0, [(.holds, "Source registered with id 0")]) ∧
    ((bbcVisit.journal (registrar 0) "later" (received 0)).any
      fun e => e.call matches .service (.create _)) = true := by
  exact ⟨built_newcomer, rfl, rfl, rfl, by decide +kernel, by decide +kernel⟩

end Visit

end FeedOperator
