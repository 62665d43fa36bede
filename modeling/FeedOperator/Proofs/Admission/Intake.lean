import FeedOperator.Proofs.Admission.Apart
import FeedOperator.Proofs.Turn

/-!
# Sources taken in one by one

Users store Sources one after another, each if its check passes on the store as it is then, with or
without a namespace and a name. Passes, requests to delete an object and failures come in between.

* `SourceSpec.WellFormed`: what the fields of a Source have to be like, spelled out.
* `Store.Good`: all Sources are well formed, and those of one namespace are apart.
* `Store.TakesIn`: one thing that happens.

Results:
* `formatErrors_eq_nil_iff_wellFormed`, `good_iff_tidy`: what admission looks for is what is spelled
  out here.
* `Tidy.takesIn`: whatever happens keeps a store tidy.
* `good_of_takesIn`: from a good store only good ones are reached.

Out of scope: two users whose checks both run before either of them stores. Both may pass.
-/

namespace FeedOperator

/-! ## Well-formed Sources -/

/-- Fields of a Source as they have to be. Lengths are in characters. -/
structure SourceSpec.WellFormed (spec : SourceSpec) : Prop where
  name_ne : spec.name ≠ ""
  name_le : spec.name.length ≤ 20
  shortName_ne : spec.shortName ≠ ""
  shortName_le : spec.shortName.length ≤ 20
  link_ne : spec.link ≠ ""
  link_parses : ∃ url, Url.parse none spec.link = .ok url

namespace Source

variable {field value : String}

theorem nameErrors_eq_nil_iff :
    nameErrors field value = [] ↔ value ≠ "" ∧ value.length ≤ maxNameLength := by
  unfold nameErrors
  by_cases hempty : value = ""
  · simp [hempty]
  · by_cases hlong : maxNameLength < value.length
    · simp [hempty, hlong]
    · simp [hempty, hlong, Nat.le_of_not_lt hlong]

theorem linkErrors_eq_nil_iff :
    linkErrors value = [] ↔ value ≠ "" ∧ ∃ url, Url.parse none value = .ok url := by
  unfold linkErrors
  by_cases hempty : value = ""
  · simp [hempty]
  · cases hparse : Url.parse none value with
    | ok url => simp [hempty]
    | error e => simp [hempty]

/-- **No field of a Source is wrong iff it is well formed.** -/
theorem formatErrors_eq_nil_iff_wellFormed {a : Source} :
    a.formatErrors = [] ↔ a.spec.WellFormed := by
  rw [formatErrors_eq_nil_iff, nameErrors_eq_nil_iff, nameErrors_eq_nil_iff, linkErrors_eq_nil_iff]
  constructor
  · rintro ⟨⟨name_ne, name_le⟩, ⟨shortName_ne, shortName_le⟩, link_ne, link_parses⟩
    exact ⟨name_ne, name_le, shortName_ne, shortName_le, link_ne, link_parses⟩
  · rintro ⟨name_ne, name_le, shortName_ne, shortName_le, link_ne, link_parses⟩
    exact ⟨⟨name_ne, name_le⟩, ⟨shortName_ne, shortName_le⟩, link_ne, link_parses⟩

end Source

namespace Store

variable {s t : Store}

/-- All Sources are well formed, and those under different names of one namespace are apart. -/
structure Good (s : Store) : Prop where
  formed : ∀ k a, s.sources.get? k = some a → a.spec.WellFormed
  apart : ∀ k l a b, s.sources.get? k = some a → s.sources.get? l = some b → k.ns = l.ns →
    k.name ≠ l.name → a.Apart b

theorem good_iff_tidy : s.Good ↔ s.Tidy := by
  constructor
  · rintro ⟨formed, apart⟩
    refine ⟨fun k a ha => Source.formatErrors_eq_nil_iff_wellFormed.mpr (formed k a ha), ?_⟩
    intro k l a b ha hb hns hkl
    exact apart k l a b ha hb hns fun hname => hkl (congrArg₂ ObjectKey.mk hns hname)
  · rintro ⟨formed, apart⟩
    refine ⟨fun k a ha => Source.formatErrors_eq_nil_iff_wellFormed.mp (formed k a ha), ?_⟩
    intro k l a b ha hb hns hname
    exact apart k l a b ha hb hns fun hkl => hname (congrArg ObjectKey.name hkl)

/-! ## What happens to a store -/

/-- One thing that happens to a store. A Source whose check does not pass changes nothing. -/
inductive TakesIn (s : Store) : Store → Prop
  /-- A new Source passes its check and is stored. -/
  | create (a : Source) (accepted : ((Source.rules.create a).outcome s).isOk = true) :
    TakesIn s (s.insertSource a)
  /-- A changed Source passes its check and is stored. -/
  | update (old a : Source) (accepted : ((Source.rules.update old a).outcome s).isOk = true) :
    TakesIn s (s.insertSource a)
  /-- A changed Source passes its check and takes the place of the stored one, if the store accepts
  its version. -/
  | replace (old a : Source) (accepted : ((Source.rules.update old a).outcome s).isOk = true) :
    TakesIn s (s.replaceSource a).2
  /-- An object of another type is stored. -/
  | other (o : Resource) (other : ∀ a, o ≠ .source a) : TakesIn s (s.insert o)
  /-- A pass runs, or an object is to be deleted, or the store is told how to fail. -/
  | turn {turn : Turn} {es : List Event} {t : Store} (h : turn.Leads s es t) : TakesIn s t

theorem TakesIn.sound (h : s.TakesIn t) (hs : s.Sound) : t.Sound := by
  cases h with
  | create a | update old a => exact sound_insert hs (.source a)
  | replace old a => exact sound_replaceSource hs a
  | other o => exact sound_insert hs o
  | turn h => exact sound_turn hs h

/-- A Source that passes its check may be stored. -/
theorem Tidy.insertSource {a : Source} (h : s.Tidy) (hs : s.Sound)
    (accepted : ((Source.validate a).outcome s).isOk = true) : (s.insertSource a).Tidy := by
  have hget := get?_insertSource s a
  refine h.of_accepted hs accepted (fun k hk => (hget k).trans (if_neg hk)) fun b hb => ?_
  obtain rfl := Option.some.inj (((hget _).trans (if_pos rfl)).symm.trans hb)
  rfl

/-- It may take the place of the stored one. -/
theorem Tidy.replaceSource {a : Source} (h : s.Tidy) (hs : s.Sound)
    (accepted : ((Source.validate a).outcome s).isOk = true) : (s.replaceSource a).2.Tidy := by
  rcases s.replaceSource_cases a with ⟨_, _, hsame⟩ | ⟨_, _, _, hreplaced, _⟩
  · exact h.of_keepsSpecs (.of_eq hsame.sources)
  · exact h.of_accepted hs accepted (fun k => hreplaced.elsewhere) fun b => hreplaced.spec_eq

/-- **Whatever happens keeps a store tidy.** -/
theorem Tidy.takesIn (h : s.Tidy) (hs : s.Sound) (step : s.TakesIn t) : t.Tidy := by
  cases step with
  | create a accepted => exact h.insertSource hs accepted
  | update old a accepted => exact h.insertSource hs accepted
  | replace old a accepted => exact h.replaceSource hs accepted
  | other o other =>
    cases o with
    | source a => exact absurd rfl (other a)
    | hotNews a => exact h.of_keepsSpecs (.of_eq rfl)
    | configMap cm => exact h.of_keepsSpecs (.of_eq rfl)
  | turn run => exact h.of_keepsSpecs (keepsSpecs_turn hs run).1

/-- **From a good store only good ones are reached**, whatever is taken in and whatever fails. -/
theorem good_of_takesIn (built : s.Built) (good : s.Good)
    (h : Relation.ReflTransGen TakesIn s t) : t.Good := by
  have reached : t.Sound ∧ t.Tidy := by
    induction h with
    | refl => exact ⟨built.sound, good_iff_tidy.mp good⟩
    | tail _ step ih => exact ⟨step.sound ih.1, ih.2.takesIn ih.1 step⟩
  exact good_iff_tidy.mpr reached.2

/-- A Source that is stored in the default namespace. -/
def unplaced : Source :=
  { metadata := { name := some "bbc" }
    spec := { name := "BBC", link := "feed:bbc", shortName := "bbc" } }

/-- It is taken in, and a pass over it follows. -/
theorem unplaced_is_taken_in : Built {} ∧ Good {} ∧
    ∃ t, Relation.ReflTransGen TakesIn {} t ∧ t.Good ∧
      (t.sources.get? ⟨"default", "bbc"⟩).any (·.metadata.hasFinalizer Source.finalizer) =
        true := by
  have good : Good {} := good_iff_tidy.mpr tidy_empty
  have accepted : ((Source.rules.create unplaced).outcome {}).isOk = true := by decide +kernel
  have pass := Turn.leads_run (Turn.steady .usual)
    (.source "now" { unplaced with metadata := { name := some "bbc", ns := some "default" } })
    (({} : Store).insertSource unplaced, ())
  have path := (Relation.ReflTransGen.single (TakesIn.create unplaced accepted)).tail (.turn pass)
  exact ⟨.empty, good, _, path, good_of_takesIn .empty good path, by decide +kernel⟩

end Store

end FeedOperator
