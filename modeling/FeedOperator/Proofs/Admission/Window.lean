import FeedOperator.Proofs.Admission.Dates
import Mathlib.Data.String.Basic

/-!
# The window of dates

Dates of the documented form are compared as dates, and it comes to the same to compare them as
texts: the digits of each number are as many as in the other date, and the numbers stand from the
greatest part to the least.

* `Date.OnCalendar`: the months with their days, and the years with a day more.
* `Date.Shaped`, `Date.NamesDay`: a text of the documented form, and one that names a day.
* `HotNews.SpecReported`: what is said of keywords and dates, finding by finding.

Results:
* `exists_iff_onCalendar`: the days that are read are those of the calendar.
* `documented_lt_iff`: of two dates of the documented form the earlier one is the lesser text.
* `specErrors_reported`: of dates of the documented form exactly what is wrong is said, in order.
-/

namespace FeedOperator

open Text

/-! ## Texts of one length -/

/-- Of texts that begin with equally many characters the beginnings decide, unless they are the
same. -/
theorem append_lt_append_iff {a b : List Char} (length : a.length = b.length) (s t : List Char) :
    a ++ s < b ++ t ↔ a < b ∨ a = b ∧ s < t := by
  induction a generalizing b with
  | nil =>
    obtain rfl := List.length_eq_zero_iff.mp length.symm
    simp
  | cons c a ih =>
    cases b with
    | nil => cases length
    | cons d b =>
      rw [List.cons_append, List.cons_append, List.cons_lt_cons_iff, List.cons_lt_cons_iff,
        ih (Nat.succ.inj length), List.cons.injEq]
      tauto

theorem digitChar_lt_iff : ∀ m < 10, ∀ n < 10, m.digitChar < n.digitChar ↔ m < n := by
  decide

namespace Date

section Numerals

variable {w m n : Nat} {s t : List Char}

theorem FixedNumeral.eq_iff (a : FixedNumeral w s m) (b : FixedNumeral w t n) :
    s = t ↔ m = n := by
  refine ⟨fun eq => by rw [← a.value, ← b.value, eq], fun eq => ?_⟩
  cases w with
  | zero => rw [List.length_eq_zero_iff.mp a.length, List.length_eq_zero_iff.mp b.length]
  | succ w => rw [← a.written w.succ_pos, ← b.written w.succ_pos, eq]

/-- The front of a numeral is one that is shorter by a digit. -/
theorem FixedNumeral.of_concat {c : Char} (a : FixedNumeral (w + 1) (s ++ [c]) m) :
    FixedNumeral w s (m / 10) ∧ m % 10 < 10 ∧ c = (m % 10).digitChar := by
  obtain ⟨small, same⟩ := valueOf_spec (a.digits c (by simp))
  have value := a.value
  rw [ofDigits_concat] at value
  have last : m % 10 = valueOf c := by omega
  refine ⟨⟨fun d hd => a.digits d (List.mem_append_left _ hd), by simpa using a.length, by omega⟩,
    by omega, by rw [last, same]⟩

/-- **Of two numerals with equally many digits the lesser text is the lesser number.** -/
theorem FixedNumeral.lt_iff (a : FixedNumeral w s m) (b : FixedNumeral w t n) :
    s < t ↔ m < n := by
  induction w generalizing s t m n with
  | zero =>
    obtain rfl := List.length_eq_zero_iff.mp a.length
    obtain rfl := List.length_eq_zero_iff.mp b.length
    simp [← a.value, ← b.value]
  | succ w ih =>
    obtain rfl | ⟨front, c, rfl⟩ := List.eq_nil_or_concat' s
    · cases a.length
    obtain rfl | ⟨front', d, rfl⟩ := List.eq_nil_or_concat' t
    · cases b.length
    obtain ⟨frontFixed, small, rfl⟩ := a.of_concat
    obtain ⟨frontFixed', small', rfl⟩ := b.of_concat
    rw [append_lt_append_iff (frontFixed.length.trans frontFixed'.length.symm), ih frontFixed
      frontFixed', frontFixed.eq_iff frontFixed', List.cons_lt_cons_iff]
    simp only [List.not_lt_nil, and_false, or_false, digitChar_lt_iff _ small _ small']
    omega

end Numerals

/-! ## Dates -/

section Dates

variable {t u : String} {d e : Date}

/-- The days of a year: long and short months, February, and the day that a fourth year has more,
unless it is a full century that four hundred does not divide. -/
inductive OnCalendar (year : Int) : Nat → Nat → Prop
  | long {month day} (long : month ∈ [1, 3, 5, 7, 8, 10, 12]) (first : 1 ≤ day) (last : day ≤ 31) :
    OnCalendar year month day
  | short {month day} (short : month ∈ [4, 6, 9, 11]) (first : 1 ≤ day) (last : day ≤ 30) :
    OnCalendar year month day
  | february {day} (first : 1 ≤ day) (last : day ≤ 28) : OnCalendar year 2 day
  | leapDay (fourth : 4 ∣ year) (century : 100 ∣ year → 400 ∣ year) : OnCalendar year 2 29

theorem isLeapYear_iff {year : Int} :
    isLeapYear year = true ↔ 4 ∣ year ∧ (100 ∣ year → 400 ∣ year) := by
  simp only [isLeapYear, Bool.and_eq_true, Bool.or_eq_true, beq_iff_eq, bne_iff_ne,
    Int.dvd_iff_emod_eq_zero]
  tauto

theorem onCalendar_iff {year : Int} {month day : Nat} :
    OnCalendar year month day ↔ 1 ≤ day ∧ day ≤ daysInMonth year month := by
  constructor
  · intro on
    cases on with
    | long long first last =>
      simp only [List.mem_cons, List.not_mem_nil, or_false] at long
      rcases long with rfl | rfl | rfl | rfl | rfl | rfl | rfl <;> exact ⟨first, last⟩
    | short short first last =>
      simp only [List.mem_cons, List.not_mem_nil, or_false] at short
      rcases short with rfl | rfl | rfl | rfl <;> exact ⟨first, last⟩
    | february first last =>
      refine ⟨first, ?_⟩
      rw [daysInMonth, if_pos rfl]
      split <;> omega
    | leapDay fourth century =>
      rw [daysInMonth, if_pos rfl, if_pos (isLeapYear_iff.mpr ⟨fourth, century⟩)]
      exact ⟨by decide, Nat.le_refl 29⟩
  · rintro ⟨first, last⟩
    unfold daysInMonth at last
    split_ifs at last with february leap short long
    · obtain ⟨fourth, century⟩ := isLeapYear_iff.mp leap
      rw [february]
      rcases Nat.lt_or_eq_of_le last with less | eq
      · exact .february first (by omega)
      · exact eq ▸ .leapDay fourth century
    · exact february ▸ .february first last
    · exact .short short first last
    · refine .long ?_ first last
      simp only [List.mem_cons, List.not_mem_nil, or_false] at short ⊢
      omega
    · omega

/-- **The days that are read are those of the calendar**, in the years of four digits. -/
theorem exists_iff_onCalendar (least : 0 ≤ d.year) (most : d.year ≤ 9999) :
    d.Exists ↔ OnCalendar d.year d.month d.day := by
  have first : firstYear ≤ d.year := Int.le_trans (by decide) least
  have last : d.year ≤ lastYear := Int.le_trans most (by decide)
  rw [Exists, and_iff_right first, and_iff_right last, onCalendar_iff]

/-- A text is of the documented form for one date only. -/
theorem Documented.unique (form : Documented t d) (form' : Documented t e) : d = e := by
  obtain ⟨year, month, day, y, eq, value, fixedYear, fixedMonth, fixedDay⟩ := form
  obtain ⟨year', month', day', y', eq', value', fixedYear', fixedMonth', fixedDay'⟩ := form'
  obtain ⟨sameYear, rest⟩ := List.append_inj (eq.symm.trans eq')
    (fixedYear.length.trans fixedYear'.length.symm)
  obtain ⟨sameMonth, rest⟩ := List.append_inj (List.cons.inj rest).2
    (fixedMonth.length.trans fixedMonth'.length.symm)
  have sameDay := (List.cons.inj rest).2
  rw [fixedYear.eq_iff fixedYear'] at sameYear
  rw [fixedMonth.eq_iff fixedMonth'] at sameMonth
  rw [fixedDay.eq_iff fixedDay'] at sameDay
  cases d
  cases e
  simp_all

/-- **Of two dates of the documented form the earlier one is the lesser text.** -/
theorem documented_lt_iff (form : Documented t d) (form' : Documented u e) :
    t < u ↔ d.before e = true := by
  obtain ⟨year, month, day, y, eq, value, fixedYear, fixedMonth, fixedDay⟩ := form
  obtain ⟨year', month', day', y', eq', value', fixedYear', fixedMonth', fixedDay'⟩ := form'
  rw [String.lt_iff_toList_lt, eq, eq',
    append_lt_append_iff (fixedYear.length.trans fixedYear'.length.symm), List.cons_lt_cons_self,
    append_lt_append_iff (fixedMonth.length.trans fixedMonth'.length.symm), List.cons_lt_cons_self,
    fixedYear.lt_iff fixedYear', fixedYear.eq_iff fixedYear', fixedMonth.lt_iff fixedMonth',
    fixedMonth.eq_iff fixedMonth', fixedDay.lt_iff fixedDay']
  simp only [before, value, value', Bool.or_eq_true, Bool.and_eq_true, decide_eq_true_eq,
    beq_iff_eq, Int.ofNat_lt, Int.natCast_inj]

/-- A text of the documented form: four digits, two digits and two digits. -/
def Shaped (text : String) : Prop :=
  ∃ d, Documented text d

/-- A text of the documented form that names a day of the calendar. -/
def NamesDay (text : String) : Prop :=
  ∃ d, Documented text d ∧ OnCalendar d.year d.month d.day

theorem Documented.exists_iff_namesDay (form : Documented t d) : d.Exists ↔ NamesDay t := by
  have days : d.Exists ↔ OnCalendar d.year d.month d.day := by
    obtain ⟨year, -, -, y, -, value, fixedYear, -⟩ := form
    have small := ofDigits_lt (by decide) fixedYear.length fixedYear.digits
    rw [fixedYear.value] at small
    exact exists_iff_onCalendar (by omega) (by omega)
  rw [days]
  exact ⟨fun on => ⟨d, form, on⟩, fun ⟨_, form', on⟩ => form.unique form' ▸ on⟩

/-- A text of the documented form is read as its date if that is a day. -/
theorem Documented.parse?_eq (form : Documented t d) :
    parse? t = if d.Exists then some d else none :=
  parse?_of_spells form.spells

end Dates

end Date

/-! ## Findings -/

namespace HotNews

open Date

section Findings

variable {field t u : String} {value first last : Option String} {e : FieldError}

open Classical in
theorem dateErrors_of_shaped (shaped : Shaped t) :
    dateErrors field (some t) = if NamesDay t then [] else
      [.invalid field t "must be a date in YYYY-MM-DD format"] := by
  obtain ⟨d, form⟩ := shaped
  by_cases real : d.Exists
  · simp [dateErrors, form.parse?_eq, real, form.exists_iff_namesDay.mp real]
  · simp [dateErrors, form.parse?_eq, real, mt form.exists_iff_namesDay.mpr real]

open Classical in
/-- The first date is written in the finding as it was set. -/
theorem windowErrors_of_shaped (shaped : Shaped t) (shaped' : Shaped u) :
    windowErrors (some t) (some u) = if NamesDay t ∧ NamesDay u ∧ u < t then
      [.invalid "spec.dateStart" t "dateStart must be before dateEnd"] else [] := by
  obtain ⟨d, form⟩ := shaped
  obtain ⟨e, form'⟩ := shaped'
  simp only [windowErrors, Option.bind_some, form.parse?_eq, form'.parse?_eq]
  simp only [← form.exists_iff_namesDay, ← form'.exists_iff_namesDay,
    documented_lt_iff form' form]
  by_cases real : d.Exists
  · by_cases real' : e.Exists
    · simp only [real, real', if_true, true_and, ((documented_iff real).mp form).1]
    · simp [real']
  · simp [real]

theorem mem_dateErrors (shaped : ∀ text ∈ value, Shaped text) :
    e ∈ dateErrors field value ↔ ∃ text ∈ value, ¬ NamesDay text ∧
      e = .invalid field text "must be a date in YYYY-MM-DD format" := by
  cases value with
  | none => simp [dateErrors]
  | some t =>
    rw [dateErrors_of_shaped (shaped t rfl)]
    by_cases names : NamesDay t <;> simp [names]

theorem mem_windowErrors (shaped : ∀ text ∈ first, Shaped text)
    (shaped' : ∀ text ∈ last, Shaped text) :
    e ∈ windowErrors first last ↔ ∃ t ∈ first, (NamesDay t ∧ ∃ u ∈ last, NamesDay u ∧ u < t) ∧
      e = .invalid "spec.dateStart" t "dateStart must be before dateEnd" := by
  cases first with
  | none => simp [windowErrors]
  | some t =>
    cases last with
    | none => simp [windowErrors]
    | some u =>
      rw [windowErrors_of_shaped (shaped t rfl) (shaped' u rfl)]
      by_cases wrong : NamesDay t ∧ NamesDay u ∧ u < t
      · rw [if_pos wrong]
        simp only [List.mem_singleton, Option.mem_some_iff, exists_eq_left', wrong, true_and,
          and_self]
      · rw [if_neg wrong]
        simp only [List.not_mem_nil, Option.mem_some_iff, exists_eq_left', wrong, false_and]

theorem dateErrors_sublist : (dateErrors field value).Sublist (value.toList.map
    (.invalid field · "must be a date in YYYY-MM-DD format")) := by
  cases value with
  | none => exact .slnil
  | some t =>
    rw [dateErrors]
    split
    · simp
    · exact .refl _

theorem windowErrors_sublist (shaped : ∀ text ∈ first, Shaped text)
    (shaped' : ∀ text ∈ last, Shaped text) : (windowErrors first last).Sublist (first.toList.map
      (.invalid "spec.dateStart" · "dateStart must be before dateEnd")) := by
  cases first with
  | none => simp [windowErrors]
  | some t =>
    cases last with
    | none => simp [windowErrors]
    | some u =>
      rw [windowErrors_of_shaped (shaped t rfl) (shaped' u rfl)]
      split
      · exact .refl _
      · simp

end Findings

/-- All that can be wrong with keywords and dates, in the order in which it is said. -/
def complaints (spec : HotNewsSpec) : List FieldError :=
  [.required "spec.keywords" "at least one keyword must be present"] ++
    spec.dateStart.toList.map
      (.invalid "spec.dateStart" · "must be a date in YYYY-MM-DD format") ++
    spec.dateEnd.toList.map (.invalid "spec.dateEnd" · "must be a date in YYYY-MM-DD format") ++
    spec.dateStart.toList.map (.invalid "spec.dateStart" · "dateStart must be before dateEnd")

/-- What is said of keywords and dates. -/
structure SpecReported (spec : HotNewsSpec) (errors : List FieldError) : Prop where
  /-- Nothing else is said, and all is said in order and once. -/
  ordered : errors.Sublist (complaints spec)
  keywords : .required "spec.keywords" "at least one keyword must be present" ∈ errors ↔
    spec.keywords = []
  dateStart : ∀ t ∈ spec.dateStart,
    (.invalid "spec.dateStart" t "must be a date in YYYY-MM-DD format" ∈ errors ↔ ¬ NamesDay t)
  dateEnd : ∀ t ∈ spec.dateEnd,
    (.invalid "spec.dateEnd" t "must be a date in YYYY-MM-DD format" ∈ errors ↔ ¬ NamesDay t)
  /-- The order of two days is that of their texts, and the first date is shown as it was set. -/
  window : ∀ t ∈ spec.dateStart,
    (.invalid "spec.dateStart" t "dateStart must be before dateEnd" ∈ errors ↔
      NamesDay t ∧ ∃ u ∈ spec.dateEnd, NamesDay u ∧ u < t)

/-- **Of dates of the documented form exactly what is wrong is said.** -/
theorem specErrors_reported {spec : HotNewsSpec} (first : ∀ text ∈ spec.dateStart, Shaped text)
    (last : ∀ text ∈ spec.dateEnd, Shaped text) : SpecReported spec (specErrors spec) := by
  have mem (e : FieldError) : e ∈ specErrors spec ↔
      (spec.keywords = [] ∧
        e = .required "spec.keywords" "at least one keyword must be present") ∨
      e ∈ dateErrors "spec.dateStart" spec.dateStart ∨
      e ∈ dateErrors "spec.dateEnd" spec.dateEnd ∨
      e ∈ windowErrors spec.dateStart spec.dateEnd := by
    unfold specErrors
    cases spec.keywords <;> simp
  simp only [mem_dateErrors first, mem_dateErrors last, mem_windowErrors first last] at mem
  constructor
  · refine ((List.Sublist.append ?_ dateErrors_sublist).append dateErrors_sublist).append
      (windowErrors_sublist first last)
    split
    · exact .refl _
    · simp
  · simp [mem]
  · intro t ht
    simp [mem, Option.mem_def.mp ht]
  · intro t ht
    simp [mem, Option.mem_def.mp ht]
  · intro t ht
    simp [mem, Option.mem_def.mp ht, -String.lt_iff_ltb]

/-- No keyword, and a last day before the first one, which only a leap year has. -/
def backwards : HotNewsSpec where
  dateStart := some "2024-02-29"
  dateEnd := some "2023-12-31"

/-- Neither of two findings hides the other one. -/
theorem backwards_reported :
    (∀ text ∈ backwards.dateStart, Shaped text) ∧ (∀ text ∈ backwards.dateEnd, Shaped text) ∧
      SpecReported backwards (specErrors backwards) ∧
      specErrors backwards =
        [.required "spec.keywords" "at least one keyword must be present",
          .invalid "spec.dateStart" "2024-02-29" "dateStart must be before dateEnd"] := by
  have first : ∀ text ∈ backwards.dateStart, Shaped text := by
    rintro _ ⟨⟩
    exact ⟨⟨2024, 2, 29⟩, (documented_iff (by decide)).mpr ⟨by decide, by decide, by decide⟩⟩
  have last : ∀ text ∈ backwards.dateEnd, Shaped text := by
    rintro _ ⟨⟩
    exact ⟨⟨2023, 12, 31⟩, (documented_iff (by decide)).mpr ⟨by decide, by decide, by decide⟩⟩
  exact ⟨first, last, specErrors_reported first last, by decide⟩

/-- A full century that four hundred does not divide has no day more. -/
example : specErrors { keywords := ["rust"], dateEnd := some "1900-02-29" } =
    [.invalid "spec.dateEnd" "1900-02-29" "must be a date in YYYY-MM-DD format"] := by decide

end HotNews

end FeedOperator
