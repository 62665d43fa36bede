import FeedOperator.Admission.HotNews
import FeedOperator.Proofs.Calendar.Date
import FeedOperator.Proofs.Reconcile.HotNews

/-!
# Which dates of a HotNews are admitted

The error for a date says that it must be in the form YYYY-MM-DD. What is checked is whether a date
can be read, and what is sent to the service is the text as it was set, not the date.

* `Dated`: the text, if there is one, is a spelling of a date that the calendar has.
* `InOrder`: the dates that two texts spell do not stand the wrong way round.

Results:
* `specErrors_eq_nil_iff`: nothing is wrong with keywords and dates exactly if there is a keyword,
  both dates are spellings, and they are in order.
* `dates_as_spelled`: so the dates that are sent are of the documented form only where they are
  written as the calendar writes them.
-/

namespace FeedOperator.HotNews

open Date

/-- The text, if there is one, spells a date that the calendar has. -/
def Dated (value : Option String) : Prop :=
  ∀ text ∈ value, ∃ d : Date, d.Exists ∧ Spells text d

/-- The dates that two texts spell, if both do, are in order. -/
def InOrder (first last : Option String) : Prop :=
  ∀ t ∈ first, ∀ u ∈ last, ∀ d e : Date, d.Exists → Spells t d → e.Exists → Spells u e →
    e.before d = false

theorem dateErrors_eq_nil_iff {field : String} {value : Option String} :
    dateErrors field value = [] ↔ Dated value := by
  unfold dateErrors Dated
  cases value with
  | none => exact ⟨fun _ _ mem => (nomatch mem), fun _ => rfl⟩
  | some text =>
    have read : (Date.parse? text).isSome = true ↔ ∃ d : Date, d.Exists ∧ Spells text d := by
      simp only [Option.isSome_iff_exists, parse?_iff]
    by_cases spelled : (Date.parse? text).isSome = true
    · simpa [spelled] using read.1 spelled
    · simpa [spelled] using mt read.2 spelled

theorem windowErrors_eq_nil_iff {first last : Option String} :
    windowErrors first last = [] ↔ InOrder first last := by
  have read (value : Option String) (d : Date) :
      value.bind Date.parse? = some d ↔ ∃ t ∈ value, d.Exists ∧ Spells t d := by
    simp only [Option.bind_eq_some_iff, parse?_iff]
    rfl
  constructor
  · intro none t inFirst u inLast d e real spells real' spells'
    have fst := (read first d).2 ⟨t, inFirst, real, spells⟩
    have snd := (read last e).2 ⟨u, inLast, real', spells'⟩
    by_contra wrong
    simp [windowErrors, fst, snd, wrong] at none
  · intro order
    unfold windowErrors
    split
    · next d e fst snd =>
      obtain ⟨t, inFirst, real, spells⟩ := (read first d).1 fst
      obtain ⟨u, inLast, real', spells'⟩ := (read last e).1 snd
      rw [order t inFirst u inLast d e real spells real' spells']
      rfl
    · rfl

/-- **When keywords and dates are admitted**: there is a keyword, each date that is set spells one
that the calendar has, and the first does not come after the last. -/
theorem specErrors_eq_nil_iff {spec : HotNewsSpec} :
    specErrors spec = [] ↔ spec.keywords ≠ [] ∧ Dated spec.dateStart ∧ Dated spec.dateEnd ∧
      InOrder spec.dateStart spec.dateEnd := by
  have keywords : (if spec.keywords.isEmpty then
      [FieldError.required "spec.keywords" "at least one keyword must be present"] else []) = [] ↔
        spec.keywords ≠ [] := by
    cases spec.keywords <;> simp
  rw [specErrors, List.append_eq_nil_iff, List.append_eq_nil_iff, List.append_eq_nil_iff, keywords,
    dateErrors_eq_nil_iff, dateErrors_eq_nil_iff, windowErrors_eq_nil_iff, and_assoc, and_assoc]

/-- **Dates are sent as they are spelled.** A HotNews is admitted if the texts that it sends for its
dates are spellings, and such a text is of the documented form only if it is what the calendar
writes, for a year of four digits. -/
theorem dates_as_spelled (hotNews : HotNews) (cm : ConfigMap) :
    (specErrors hotNews.spec = [] ↔ hotNews.spec.keywords ≠ [] ∧
      Dated (query hotNews cm).dateStart ∧ Dated (query hotNews cm).dateEnd ∧
      InOrder (query hotNews cm).dateStart (query hotNews cm).dateEnd) ∧
    ∀ (text : String) (d : Date), d.Exists → Spells text d →
      (Documented text d ↔ text = d.text ∧ 0 ≤ d.year ∧ d.year ≤ 9999) :=
  ⟨specErrors_eq_nil_iff, fun _ _ real _ => documented_iff real⟩

/-- A month of one digit, and blanks and a sign before the numbers. -/
def looselyDated : HotNewsSpec where
  keywords := ["rust"]
  dateStart := some "2023-9-1"
  dateEnd := some " +2023- 09-30"

/-- What was set is sent, and it is not what the calendar writes. -/
theorem loose_dates_sent :
    Dated (query { metadata := {}, spec := looselyDated } {}).dateStart ∧
      Dated (query { metadata := {}, spec := looselyDated } {}).dateEnd ∧
      ¬ Documented "2023-9-1" ⟨2023, 9, 1⟩ := by
  obtain ⟨admitted, form⟩ := dates_as_spelled { metadata := {}, spec := looselyDated } {}
  obtain ⟨-, first, last, -⟩ := admitted.1 (by decide)
  obtain ⟨real, spells⟩ := parse?_iff.1 (show Date.parse? "2023-9-1" = some ⟨2023, 9, 1⟩ by decide)
  exact ⟨first, last, fun form' => absurd ((form _ _ real spells).1 form').1 (by decide)⟩

/-- Nothing is wrong with a spec whose first date is no text of the documented form for any date. -/
theorem undocumented_date_admitted :
    ¬ ∀ spec : HotNewsSpec, specErrors spec = [] →
      ∀ text ∈ spec.dateStart, ∃ d : Date, d.Exists ∧ Documented text d := by
  intro always
  obtain ⟨d, real, form⟩ := always looselyDated (by decide) "2023-9-1" rfl
  obtain ⟨year, month, day, y, eq, -, fixedYear, fixedMonth, fixedDay⟩ := form
  have length := congrArg List.length eq
  simp [fixedYear.length, fixedMonth.length, fixedDay.length] at length

end FeedOperator.HotNews
