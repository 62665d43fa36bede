import FeedOperator.Proofs.Turn

/-!
# One id for each Source

The service gives an id to a Source when it is registered. From the moment at which a pass stores
the id, it is the one that counts until the Source is gone.

* `Event.storedId?`: the id that a write of a status has stored.
* `Source.IsSettled`, `Store.Settled`: a Source under an id that no pass will register again.
* `Turn.Respects`: what a turn does to a Source under an id.

Results:
* `settles`: a pass that stores an id settles the Source, which then has its finalizer.
* `settled_turn`: every turn keeps it settled and respects its id.
* `id_is_authoritative`: so does every turn from then on.

The invariant speaks of finalizers, since a Source without any goes with its next replace, and of
the deletion mark, since a pass registers only what is not marked.
-/

namespace FeedOperator

/-- The id that a write of a status has stored. -/
def Event.storedId? : Event → Option Int64
  | ⟨.store (.replaceSourceStatus _), .ok stored⟩ => some (Source.externalId stored)
  | _ => none

/-- A Source under an id that stays: it is held by someone, and no pass will take it for new. -/
structure Source.IsSettled (id : Int64) (source : Source) : Prop where
  id_eq : source.externalId = id
  held : ¬ source.IsUnheld
  known : source.metadata.hasFinalizer finalizer = true ∨ source.IsMarked

/-- Whatever stands under a key is settled. -/
def Store.Settled (key : ObjectKey) (id : Int64) (s : Store) : Prop :=
  ∀ source, s.sources.get? key = some source → source.IsSettled id

/-- What a turn does to the Source under a key that has an id: it does not register the Source, it
sends no other update than that of the stored spec under the id, and it removes the Source only in
a pass over it, after its record was deleted. -/
structure Turn.Respects (turn : Turn) (key : ObjectKey) (id : Int64) (s : Store) (es : List Event)
    (u : Store) : Prop where
  unregistered : (∀ other, turn.IsPassOver other → other = key) → ∀ spec answer,
    .ofService (.create spec) answer ∉ es
  updated : (∀ other, turn.IsPassOver other → other = key) → ∀ id' spec answer,
    .ofService (.update id' spec) answer ∈ es →
      id' = id ∧ ∃ source, s.sources.get? key = some source ∧ spec = { source.spec with id := id }
  removed : ∀ source, s.sources.get? key = some source → u.sources.get? key = none →
    turn.IsPassOver key ∧ ∃ front written,
      es = front ++ [.ofService (.delete id) (.ok ()),
        .ofStore (.replaceSource source.released) (.ok written)]

variable {s t u : Store} {key : ObjectKey} {id : Int64} {es : List Event}

/-! ## Changes that keep a Source settled -/

theorem Source.IsSettled.of_finalizers_eq {a b : Source} (h : a.IsSettled id)
    (hid : b.externalId = a.externalId) (hf : b.metadata.finalizers = a.metadata.finalizers)
    (hm : a.IsMarked → b.IsMarked) : b.IsSettled id := by
  refine ⟨hid.trans h.id_eq, ?_, h.known.imp (fun hk => ?_) hm⟩
  · have := h.held
    unfold Object.IsUnheld at *
    rwa [hf]
  · unfold Meta.hasFinalizer at *
    rwa [hf]

theorem Source.externalId_eq_of_status {a b : Source} (h : b.status = a.status) :
    b.externalId = a.externalId := by
  unfold externalId statusOrEmpty
  rw [h]

theorem Source.IsSettled.of_relinked {a b : Source} {uid : String} {new : List OwnerReference}
    (h : a.IsSettled id) (hab : a.Relinked uid new b) : b.IsSettled id :=
  h.of_finalizers_eq (externalId_eq_of_status hab.status_eq) hab.finalizers_eq fun hm => by
    unfold Object.IsMarked Meta.isDeleted at *
    rwa [hab.deletionTimestamp_eq]

theorem Source.IsSettled.of_mayMark {a b : Source} (h : a.IsSettled id) (hab : a.MayMark b) :
    b.IsSettled id :=
  h.of_finalizers_eq (by rcases hab with rfl | rfl <;> rfl) hab.finalizers_eq fun hm => by
    rcases hab with rfl | rfl
    · exact hm
    · rfl

/-- A change that keeps Sources settled and takes none of them. -/
theorem Store.Settled.of_changes {R : Source → Source → Prop} {out : Source → Prop}
    {touched : ObjectKey → Prop} (h : s.Settled key id)
    (change : s.sources.Changes R out touched u.sources)
    (keeps : ∀ {a b : Source}, a.IsSettled id → R a b → b.IsSettled id)
    (stays : ∀ {a : Source}, a.IsSettled id → ¬ out a) :
    u.Settled key id ∧ ∀ source, s.sources.get? key = some source → u.sources.get? key ≠ none := by
  constructor
  · intro b hb
    have hev := change.evolves key
    rw [hb] at hev
    obtain ⟨a, ha, hab⟩ := hev.before
    exact keeps (h a ha) hab
  · intro a ha
    have hev := change.evolves key
    rw [ha] at hev
    obtain ⟨b, hb, -⟩ := hev.still (stays (h a ha))
    rw [hb]
    exact Option.some_ne_none b

/-! ## A pass over the Source -/

section Pass

variable {w : Climate} {now ns name : String} {source mine : Source}

theorem Source.Held.eq_of_settled {r : Except SourceError Source} (h : Held w s source es r u)
    (settled : source.IsSettled id) (live : source.metadata.isDeleted = false) :
    es = [] ∧ r = .ok source ∧ u = s := by
  have hf : source.metadata.hasFinalizer finalizer = true := by
    rcases settled.known with hf | hm
    · exact hf
    · unfold Object.IsMarked at hm
      rw [live] at hm
      cases hm
  exact h.eq_of_hasFinalizer hf

/-- Finalizing deletes the record under the id, and only then lets the Source go. -/
theorem Source.Finalized.respects {r : Except SourceError Action}
    (h : Finalized w s source es r u) (stored : s.sources.get? source.key = some source)
    (settled : source.IsSettled id) (hid : id ≠ 0) (deleted : source.metadata.isDeleted = true) :
    u.Settled source.key id ∧ (u.sources.get? source.key = none → ∃ front written,
      es = front ++ [.ofService (.delete id) (.ok ()),
        .ofStore (.replaceSource source.released) (.ok written)]) := by
  have same : s.Settled source.key id := by
    intro a ha
    obtain rfl := Option.some.inj (stored.symm.trans ha)
    exact settled
  cases h with
  | unheld | undeleted =>
    refine ⟨same, fun hgone => ?_⟩
    rw [stored] at hgone
    cases hgone
  | released meets =>
    have met := (w.sameObjects meets).sources
    rw [settled.id_eq, if_neg hid]
    rcases release_cases (met ▸ stored) with ⟨e, -, hsame⟩ | ⟨version, hw, -, hget⟩
    · have hsame := hsame.sources.trans met
      refine ⟨fun a ha => same a (hsame ▸ ha), fun hgone => ?_⟩
      rw [hsame, stored] at hgone
      cases hgone
    · refine ⟨fun a ha => ?_, fun _ => ⟨[], _, by rw [hw]; rfl⟩⟩
      rw [hget, if_pos rfl] at ha
      split at ha
      · cases ha
      · next hstays =>
        obtain rfl := Option.some.inj ha
        refine ⟨settled.id_eq, fun hun => ?_, .inr deleted⟩
        exact hstays (Bool.and_eq_true_iff.mpr ⟨deleted, hun⟩)

/-- Finalizing sends no other request than one to delete the record. -/
theorem Source.Finalized.deletes {r : Except SourceError Action} (h : Finalized w s source es r u)
    {c : ServiceCall} {answer : c.Answer} (hmem : .ofService c answer ∈ es) :
    c = .delete source.externalId := by
  cases h with
  | unheld => cases hmem
  | undeleted =>
    rw [List.mem_singleton] at hmem
    cases hmem
    rfl
  | released =>
    rcases List.mem_append.mp hmem with hmem | hmem
    · split at hmem
      · cases hmem
      · rw [List.mem_singleton] at hmem
        cases hmem
        rfl
    · rw [List.mem_singleton] at hmem
      cases hmem

/-- What a pass over a settled Source does. -/
structure Source.Course.Respectful (key : ObjectKey) (id : Int64) (s : Store) (es : List Event)
    (u : Store) : Prop where
  settled : u.Settled key id
  unregistered : ∀ spec answer, .ofService (.create spec) answer ∉ es
  updated : ∀ id' spec answer, .ofService (.update id' spec) answer ∈ es →
    id' = id ∧ ∃ source, s.sources.get? key = some source ∧ spec = { source.spec with id := id }
  removed : ∀ source, s.sources.get? key = some source → u.sources.get? key = none →
    ∃ front written, es = front ++ [.ofService (.delete id) (.ok ()),
      .ofStore (.replaceSource source.released) (.ok written)]

theorem Source.Course.respects {r : Except SourceError Action} (hs : s.Sound)
    (h : Course w now ns name s es r u) (settled : s.Settled ⟨ns, name⟩ id) (hid : id ≠ 0) :
    Respectful ⟨ns, name⟩ id s es u := by
  cases h with
  | absent meets gone =>
    have met := (w.sameObjects meets).sources
    refine ⟨fun a ha => settled a (met ▸ ha), by simp [firstRead], by simp [firstRead],
      fun source stored => ?_⟩
    rw [gone] at stored
    cases stored
  | @finalized source rest _ _ _ meets stored deleted ends =>
    have met := (w.sameObjects meets).sources
    have hkey : source.key = ⟨ns, name⟩ := hs.source_key stored
    obtain ⟨hsettled, hremoved⟩ :=
      ends.respects (hkey.symm ▸ met ▸ stored) (settled _ stored) hid deleted
    rw [hkey] at hsettled hremoved
    refine ⟨hsettled, fun spec answer h => ?_, fun id' spec answer h => ?_, fun a ha hgone => ?_⟩
    · rcases List.mem_cons.mp h with h | h
      · cases h
      · cases ends.deletes h
    · rcases List.mem_cons.mp h with h | h
      · cases h
      · cases ends.deletes h
    · obtain rfl := Option.some.inj (stored.symm.trans ha)
      obtain ⟨front, written, rfl⟩ := hremoved hgone
      exact ⟨_ :: front, written, rfl⟩
  | unheld _ stored live holds =>
    obtain ⟨-, hr, -⟩ := holds.eq_of_settled (settled _ stored) live
    cases hr
  | registered answer _ stored live holds fresh _ =>
    obtain ⟨-, hr, -⟩ := holds.eq_of_settled (settled _ stored) live
    cases hr
    exact absurd ((settled _ stored).id_eq.symm.trans fresh) hid
  | @updated source mine _ t v x answer meets stored live holds _ writes =>
    obtain ⟨rfl, hr, rfl⟩ := holds.eq_of_settled (settled _ stored) live
    cases hr
    have met : x.sources = s.sources :=
      ((w.sameObjects meets).trans (w.sameObjects writes)).sources
    have hkey : source.key = ⟨ns, name⟩ := hs.source_key stored
    have hold := settled _ stored
    rw [hold.id_eq]
    have hwrite := writeStatus_cases (t := x) (hkey.symm ▸ met ▸ stored)
      (metadata_updated now source source.nextKind answer)
    rw [hkey] at hwrite
    refine ⟨fun a ha => ?_, by simp [firstRead], fun id' spec answer' h => ?_, fun a _ hgone => ?_⟩
    · rcases hwrite with ⟨_, -, hsame⟩ | ⟨version, -, -, hget⟩
      · exact settled a (met ▸ hsame.sources ▸ ha)
      · rw [hget, if_pos rfl] at ha
        obtain rfl := Option.some.inj ha
        exact hold.of_finalizers_eq (externalId_updated now source source.nextKind answer) rfl
          fun hm => hm
    · simp only [firstRead, List.nil_append, List.mem_cons, List.not_mem_nil, or_false] at h
      rcases h with h | h | h
      · cases h
      · cases h
        exact ⟨rfl, source, stored, rfl⟩
      · cases h
    · exfalso
      rcases hwrite with ⟨_, -, hsame⟩ | ⟨version, -, -, hget⟩
      · rw [hsame.sources, met, stored] at hgone
        cases hgone
      · rw [hget, if_pos rfl] at hgone
        cases hgone

end Pass

/-! ## All turns -/

/-- Of two keys over which a turn is a pass, there is only one. -/
theorem Turn.IsPassOver.eq {turn : Turn} {k j : ObjectKey} (hk : turn.IsPassOver k)
    (hj : turn.IsPassOver j) : k = j := by
  obtain ⟨_, given, rfl, hns, hname⟩ := hk
  obtain ⟨_, _, heq, hns', hname'⟩ := hj
  cases heq
  cases k; cases j
  rw [hns] at hns'
  rw [hname] at hname'
  cases hns'
  cases hname'
  rfl

/-- A turn that leaves the Source alone or changes it without making it less settled. -/
theorem Turn.Respects.of_stays {turn : Turn}
    (requests : (∀ other, turn.IsPassOver other → other = key) →
      ∀ c answer, .ofService c answer ∈ es → ∃ query, c = .fetch query)
    (stays : ∀ source, s.sources.get? key = some source → u.sources.get? key ≠ none) :
    turn.Respects key id s es u := by
  refine ⟨fun hother spec answer h => ?_, fun hother id' spec answer h => ?_,
    fun source stored hgone => absurd hgone (stays source stored)⟩
  · obtain ⟨_, hc⟩ := requests hother _ _ h
    cases hc
  · obtain ⟨_, hc⟩ := requests hother _ _ h
    cases hc

/-- **Every turn keeps a settled Source settled and respects its id.** -/
theorem Store.settled_turn {turn : Turn} (hs : s.Sound) (hid : id ≠ 0)
    (h : turn.Leads s es u) (settled : s.Settled key id) :
    u.Settled key id ∧ turn.Respects key id s es u := by
  have there : ∀ source, s.sources.get? key = some source → s.sources.get? key ≠ none :=
    fun source stored => by rw [stored]; exact Option.some_ne_none source
  cases h with
  | @source now given _ _ _ _ h =>
    rcases Source.reconcile_leads h with ⟨_, rfl, _, rfl⟩ | ⟨ns, name, hns, hname, hcourse⟩
    · exact ⟨settled, .of_stays (fun _ _ _ h => absurd h List.not_mem_nil) there⟩
    · have hpass : (Turn.source now given).IsPassOver ⟨ns, name⟩ := ⟨now, given, rfl, hns, hname⟩
      by_cases hk : key = ⟨ns, name⟩
      · subst hk
        obtain ⟨hsettled, hcreate, hupdate, hremove⟩ := hcourse.respects hs settled hid
        exact ⟨hsettled, fun _ => hcreate, fun _ => hupdate,
          fun source stored hgone => ⟨hpass, hremove source stored hgone⟩⟩
      · have hsame := (hcourse.tended hs).sources.elsewhere key hk
        refine ⟨fun source hsource => settled source (hsame ▸ hsource), .of_stays
          (fun hother => absurd (hother _ hpass).symm hk) fun source stored => ?_⟩
        rw [hsame]
        exact there source stored
  | hotNews h =>
    rcases HotNews.reconcile_leads h with ⟨_, rfl, _, rfl⟩ | ⟨ns, name, _, _, hcourse⟩
    · exact ⟨settled, .of_stays (fun _ _ _ h => absurd h List.not_mem_nil) there⟩
    · obtain ⟨uid, new, hrel⟩ := hcourse.relinked hs
      obtain ⟨hsettled, hstays⟩ := settled.of_changes hrel (fun h hab => h.of_relinked hab)
        fun h hl => h.held hl.isUnheld
      exact ⟨hsettled, .of_stays (fun _ => hcourse.onlySearches) hstays⟩
  | deleteSource other =>
    obtain ⟨hsettled, hstays⟩ := settled.of_changes (u := s.deleteSource other)
      (markDeleted_changes s.sources other) (fun h hab => h.of_mayMark hab) fun h => h.held
    exact ⟨hsettled, .of_stays (fun _ _ _ h => absurd h List.not_mem_nil) hstays⟩
  | deleteHotNews | faults =>
    exact ⟨settled, .of_stays (fun _ _ _ h => absurd h List.not_mem_nil) there⟩

/-! ## From the moment on at which an id is stored -/

section Settles

variable {w : Climate} {source mine : Source} {ns name now : String} {n : Int64}

/-- A write of the status with an id, by one who has made sure of the finalizer. -/
theorem Source.settled_of_written {new : Source}
    (hold : Source.Holding s source mine t)
    (known : new.metadata = mine.metadata)
    (hn : some n ∈
      [Event.ofStore (.replaceSourceStatus new) (t.replaceSourceStatus new).1].map
        Event.storedId?) :
    ∃ a, (t.replaceSourceStatus new).2.sources.get? source.key = some a ∧ a.externalId = n ∧
      a.metadata.hasFinalizer finalizer = true := by
  have hkey := hold.refinalized.kept.key_eq
  rcases writeStatus_cases hold.stands known with ⟨_, he, -⟩ | ⟨version, hw, -, hget⟩
  · rw [he] at hn
    simp [Event.storedId?] at hn
  · rw [hw] at hn
    have hid : some n = some _ := List.mem_singleton.mp hn
    exact ⟨_, (hget _).trans (if_pos hkey.symm), (Option.some.inj hid).symm, hold.holds⟩

theorem Source.Held.storesNone {r : Except SourceError Source} (h : Held w s source es r u) :
    some n ∉ es.map Event.storedId? := by
  cases h with
  | already => simp
  | written => simp [Event.storedId?]

theorem Source.Finalized.storesNone {r : Except SourceError Action}
    (h : Finalized w s source es r u) : some n ∉ es.map Event.storedId? := by
  cases h with
  | unheld => simp
  | undeleted => simp [Event.storedId?]
  | released =>
    split
    · simp [Event.storedId?]
    · simp [Event.storedId?]

/-- **A pass that stores an id leaves the Source with its finalizer.** -/
theorem Source.Course.settles {r : Except SourceError Action} (hs : s.Sound)
    (h : Course w now ns name s es r u) (hn : some n ∈ es.map Event.storedId?) :
    ∃ a, u.sources.get? ⟨ns, name⟩ = some a ∧ a.externalId = n ∧
      a.metadata.hasFinalizer finalizer = true := by
  have later : ∀ {e : Event} {rest : List Event}, e.storedId? = none →
      some n ∈ (e :: rest).map Event.storedId? → some n ∈ rest.map Event.storedId? := by
    intro e rest he h
    rw [List.map_cons, he] at h
    exact (List.mem_cons.mp h).resolve_left (by simp)
  -- Of the calls of a pass the last one alone writes the status, once the finalizer is there.
  have settled : ∀ {source mine new : Source} {holds : List Event} {t v x : Store}
      {request : Event},
      w.Meets s t → s.sources.get? ⟨ns, name⟩ = some source → source.metadata.isDeleted = false →
      Held w t source holds (.ok mine) v → w.Meets v x → new.metadata = mine.metadata →
      request.storedId? = none → some n ∈ (firstRead s ns name :: (holds ++ [request,
        .ofStore (.replaceSourceStatus new) (x.replaceSourceStatus new).1])).map Event.storedId? →
      ∃ a, (x.replaceSourceStatus new).2.sources.get? ⟨ns, name⟩ = some a ∧ a.externalId = n ∧
        a.metadata.hasFinalizer finalizer = true := by
    intro source mine new _ t v x request meets stored live holds writes known hrequest hn
    obtain ⟨hkey, found⟩ := w.source_stands meets hs stored
    have hold := holds.holding found live
    have hn := later rfl hn
    rw [List.map_append, List.mem_append] at hn
    have := settled_of_written (hold.meets writes) known
      (later hrequest (hn.resolve_left holds.storesNone))
    rwa [hkey] at this
  cases h with
  | absent => exact absurd (later rfl hn) List.not_mem_nil
  | finalized _ _ _ ends => exact absurd (later rfl hn) ends.storesNone
  | unheld _ _ _ holds => exact absurd (later rfl hn) holds.storesNone
  | registered answer meets stored live holds _ writes =>
    exact settled meets stored live holds writes (metadata_registered ..) rfl hn
  | updated answer meets stored live holds _ writes =>
    exact settled meets stored live holds writes (metadata_updated ..) rfl hn

/-- **The id is authoritative.** Once a pass over a Source has stored an id other than zero, the
Source has its finalizer; and from then on, through any number of passes of both controllers,
requests to delete and failures, with any answers of the service: its id stays, and every turn
respects it. -/
theorem id_is_authoritative {first : Turn} {key : ObjectKey} (built : s.Built)
    (pass : first.IsPassOver key) (hfirst : first.Leads s es t)
    (stored : some n ∈ es.map Event.storedId?) (hn : n ≠ 0) :
    (∃ a, t.sources.get? key = some a ∧ a.externalId = n ∧
      a.metadata.hasFinalizer Source.finalizer = true) ∧
    ∀ v, t.Reaches v → (∀ a, v.sources.get? key = some a → a.externalId = n) ∧
      ∀ turn later w, Turn.Leads turn v later w → turn.Respects key n v later w := by
  obtain ⟨now, given, rfl, hns, hname⟩ := pass
  cases hfirst with
  | source h =>
    rcases Source.reconcile_leads h with ⟨_, rfl, _, _⟩ | ⟨ns, name, hns', hname', hcourse⟩
    · exact absurd stored List.not_mem_nil
    · have hkey : (⟨ns, name⟩ : ObjectKey) = key :=
        Turn.IsPassOver.eq ⟨now, given, rfl, hns', hname'⟩ ⟨now, given, rfl, hns, hname⟩
      rw [← hkey]
      obtain ⟨a, ha, hid, hfin⟩ := hcourse.settles built.sound stored
      have settled : t.Settled ⟨ns, name⟩ n := by
        intro b hb
        obtain rfl := Option.some.inj (ha.symm.trans hb)
        refine ⟨hid, fun hun => ?_, .inl hfin⟩
        rw [Object.hasFinalizer_of_isUnheld hun] at hfin
        cases hfin
      refine ⟨⟨a, ha, hid, hfin⟩, fun v hv => ?_⟩
      obtain ⟨hsound, hsettled⟩ := hv.keeps
        (fun hs hturn hI => (Store.settled_turn hs hn hturn hI).1) (h.sound built.sound) settled
      exact ⟨fun b hb => (hsettled b hb).id_eq,
        fun turn later w hturn => (Store.settled_turn hsound hn hturn hsettled).2⟩

/-- A Source before any pass. -/
def newcomer : Store :=
  Store.insert {} (.source {
    metadata := { name := some "bbc", ns := some "news" }
    spec := { name := "BBC", link := "https://bbc.example", shortName := "bbc" } })

/-- A pass over it. -/
def visit : Turn :=
  .source "now" { metadata := { name := some "bbc", ns := some "news" }, spec := {} }

/-- The id of the first pass is there after a second one and a request to delete the Source, and the
next turn respects it. -/
theorem newcomer_keeps_its_id :
    ∃ v, newcomer.Reaches v ∧
      (v.sources.get? ⟨"news", "bbc"⟩).map Source.externalId = some 7 ∧
      ∀ later w, visit.Leads v later w → visit.Respects ⟨"news", "bbc"⟩ 7 v later w := by
  have first := visit.leads_run (Turn.steady (.registered 7)) (newcomer, ())
  have stored : some 7 ∈ (visit.journal (Turn.steady (.registered 7)) (newcomer, ())).map
      Event.storedId? := by
    decide +kernel
  have reached := Store.reaches_run (Turn.steady (.registered 7))
    [visit, .deleteSource ⟨"news", "bbc"⟩] (visit.run (Turn.steady (.registered 7)) (newcomer, ()))
  have pass : visit.IsPassOver ⟨"news", "bbc"⟩ := ⟨_, _, rfl, rfl, rfl⟩
  have built : newcomer.Built := Store.Built.empty.insert _
  obtain ⟨-, later⟩ := id_is_authoritative built pass first stored (by decide)
  exact ⟨_, .head ⟨_, _, first⟩ reached, by decide +kernel, (later _ reached).2 visit⟩

end Settles

end FeedOperator
