import Mathlib.Tactic.SplitIfs
import FeedOperator.Calendar.Date
import FeedOperator.Proofs.Text.Numeral

/-!
# Which texts are dates

A date is read from more texts than it is written as. Blanks may stand before each number, a sign
may stand before the year, and zeros in front of a number may be left out or, after a sign, added.
Here the texts that are read are described as texts, without any reading.

* `Numeral`, `YearNumeral`: how the numbers of a date may be written.
* `Spelling`: a way to write a date that is read; `Spells`: being such a text.
* `Documented`: four digits, two digits and two digits with hyphens between them.

Results:
* `parse?_iff`: a date is read from exactly its spellings, and only if the calendar has it.
* `documented_iff`: the texts of the documented form are those that dates are written as.
* `Documented.spells`: such a text is a spelling.
-/

namespace FeedOperator.Date

open Text

/-- Digits that write a number: at least one, and at most so many. -/
structure Numeral (most : Nat) (s : List Char) (n : Nat) : Prop where
  digits : ∀ c ∈ s, isDigit c = true
  some : s ≠ []
  short : s.length ≤ most
  value : ofDigits 10 s = n

/-- How a year may be written: up to four digits, or a sign and any number of digits. -/
inductive YearNumeral : List Char → Int → Prop
  | unsigned {s n} (numeral : Numeral 4 s n) : YearNumeral s n
  | plus {s n} (numeral : Numeral s.length s n) : YearNumeral ('+' :: s) n
  | minus {s n} (numeral : Numeral s.length s n) : YearNumeral ('-' :: s) (-n)

variable {most n : Nat} {year : Int} {s blanks digits rest : List Char}

/-! ## Numbers -/

theorem not_isBlank_of_isDigit {c : Char} (h : isDigit c = true) : isBlank c = false :=
  forall_ascii (P := fun c => isDigit c = true → isBlank c = false) (by decide) (isDigit_ascii h) h

/-- The blanks before something that does not start with one are dropped. -/
theorem dropWhile_blanks (blank : ∀ c ∈ blanks, isBlank c = true)
    (start : ∀ c ∈ s.head?, isBlank c = false) : (blanks ++ s).dropWhile isBlank = s := by
  rw [List.dropWhile_append_of_pos blank]
  cases s with
  | nil => rfl
  | cons c s => exact List.dropWhile_cons_of_neg (by simp [start c rfl])

theorem head_isDigit (numeral : Numeral most digits n) (rest : List Char) :
    ∃ c, (digits ++ rest).head? = some c ∧ isDigit c = true := by
  cases digits with
  | nil => exact absurd rfl numeral.some
  | cons c digits => exact ⟨c, rfl, numeral.digits c List.mem_cons_self⟩

/-- A numeral is read if no digit follows it. -/
theorem number?_append (blank : ∀ c ∈ blanks, isBlank c = true) (numeral : Numeral most digits n)
    (ends : ∀ c ∈ rest.head?, isDigit c = false) :
    number? most (blanks ++ (digits ++ rest)) = some (n, rest) := by
  have start : ∀ c ∈ (digits ++ rest).head?, isBlank c = false := by
    obtain ⟨d, head, digit⟩ := head_isDigit numeral rest
    intro c mem
    rw [head] at mem
    cases mem
    exact not_isBlank_of_isDigit digit
  have stop : (rest.take (most - digits.length)).takeWhile isDigit = [] := by
    cases rest with
    | nil => rw [List.take_nil]; rfl
    | cons c rest =>
      cases most - digits.length with
      | zero => rfl
      | succ k => exact List.takeWhile_cons_of_neg (by simp [ends c rfl])
  have taken : ((digits ++ rest).take most).takeWhile isDigit = digits := by
    rw [List.take_append, List.take_of_length_le numeral.short,
      List.takeWhile_append_of_pos numeral.digits, stop, List.append_nil]
  simp only [number?, dropWhile_blanks blank start, taken]
  simp [numeral.some, numeral.value]

theorem noBlank : ∀ c ∈ ([] : List Char), isBlank c = true :=
  fun _ mem => nomatch mem

/-- A number that is read is a numeral after blanks. -/
theorem number?_eq_some (read : number? most s = some (n, rest)) :
    ∃ blanks digits, s = blanks ++ (digits ++ rest) ∧ (∀ c ∈ blanks, isBlank c = true) ∧
      Numeral most digits n := by
  simp only [number?] at read
  split at read
  · cases read
  next some =>
    obtain ⟨rfl, rfl⟩ := Prod.mk.inj (Option.some.inj read)
    have short := List.takeWhile_prefix isDigit (l := (s.dropWhile isBlank).take most)
    have front := short.trans (List.take_prefix most (s.dropWhile isBlank))
    refine ⟨s.takeWhile isBlank, _, ?_, List.all_eq_true.1 List.all_takeWhile,
      List.all_eq_true.1 List.all_takeWhile, by simpa using some,
      Nat.le_trans short.length_le (List.length_take_le _ _), rfl⟩
    rw [List.prefix_iff_eq_append.1 front, List.takeWhile_append_dropWhile]

theorem yearNumeral_head (numeral : YearNumeral digits year) :
    ∀ c ∈ (digits ++ rest).head?, isBlank c = false := by
  intro c mem
  cases numeral with
  | unsigned numeral =>
    obtain ⟨d, head, digit⟩ := head_isDigit numeral rest
    rw [head] at mem
    cases mem
    exact not_isBlank_of_isDigit digit
  | plus numeral => cases mem; decide
  | minus numeral => cases mem; decide

theorem signed_append (numeral : Numeral digits.length digits n)
    (ends : ∀ c ∈ rest.head?, isDigit c = false) :
    year?.signed (digits ++ rest) = some (n, rest) := by
  obtain ⟨d, head, digit⟩ := head_isDigit numeral rest
  have longer : Numeral (digits ++ rest).length digits n :=
    ⟨numeral.digits, numeral.some, by simp, numeral.value⟩
  rw [year?.signed, head, Option.any_some, if_pos digit]
  exact number?_append noBlank longer ends

/-- A numeral of a year is read if no digit follows it. -/
theorem year?_append (blank : ∀ c ∈ blanks, isBlank c = true) (numeral : YearNumeral digits year)
    (ends : ∀ c ∈ rest.head?, isDigit c = false) :
    year? (blanks ++ (digits ++ rest)) = some (year, rest) := by
  rw [year?, dropWhile_blanks blank (yearNumeral_head numeral)]
  cases numeral with
  | unsigned numeral =>
    obtain ⟨d, head, digit⟩ := head_isDigit numeral rest
    have read := number?_append noBlank numeral ends
    split
    · next eq => rw [eq] at head; cases head; exact absurd digit (by decide)
    · next eq => rw [eq] at head; cases head; exact absurd digit (by decide)
    · rw [List.nil_append] at read
      rw [read]
      rfl
  | plus numeral =>
    change (year?.signed (_ ++ rest)).map _ = _
    rw [signed_append numeral ends]
    rfl
  | minus numeral =>
    change (year?.signed (_ ++ rest)).map _ = _
    rw [signed_append numeral ends]
    rfl

theorem signed_eq_some (read : year?.signed s = some (n, rest)) :
    ∃ digits, s = digits ++ rest ∧ Numeral digits.length digits n := by
  rw [year?.signed] at read
  split at read
  · next starts =>
    obtain ⟨blanks, digits, rfl, blank, numeral⟩ := number?_eq_some read
    cases blanks with
    | nil => exact ⟨digits, rfl, numeral.digits, numeral.some, Nat.le_refl _, numeral.value⟩
    | cons b blanks =>
      exact absurd (blank b List.mem_cons_self) (by simp [not_isBlank_of_isDigit starts])
  · cases read

/-- A year that is read is a numeral of it after blanks. -/
theorem year?_eq_some (read : year? s = some (year, rest)) :
    ∃ blanks digits, s = blanks ++ (digits ++ rest) ∧ (∀ c ∈ blanks, isBlank c = true) ∧
      YearNumeral digits year := by
  have cut : s = s.takeWhile isBlank ++ s.dropWhile isBlank := List.takeWhile_append_dropWhile.symm
  have blank : ∀ c ∈ s.takeWhile isBlank, isBlank c = true := List.all_eq_true.1 List.all_takeWhile
  rw [year?] at read
  split at read
  · next after eq =>
    obtain ⟨⟨n, r⟩, signed, pair⟩ := Option.map_eq_some_iff.1 read
    obtain ⟨rfl, rfl⟩ := Prod.mk.inj pair
    obtain ⟨digits, rfl, numeral⟩ := signed_eq_some signed
    exact ⟨_, '-' :: digits, cut.trans (by rw [eq]; rfl), blank, .minus numeral⟩
  · next after eq =>
    obtain ⟨⟨n, r⟩, signed, pair⟩ := Option.map_eq_some_iff.1 read
    obtain ⟨rfl, rfl⟩ := Prod.mk.inj pair
    obtain ⟨digits, rfl, numeral⟩ := signed_eq_some signed
    exact ⟨_, '+' :: digits, cut.trans (by rw [eq]; rfl), blank, .plus numeral⟩
  · obtain ⟨⟨n, r⟩, number, pair⟩ := Option.map_eq_some_iff.1 read
    obtain ⟨rfl, rfl⟩ := Prod.mk.inj pair
    obtain ⟨more, digits, eq, blank', numeral⟩ := number?_eq_some number
    refine ⟨s.takeWhile isBlank ++ more, digits, ?_, fun c mem => ?_, .unsigned numeral⟩
    · rw [List.append_assoc, ← eq, ← cut]
    · exact (List.mem_append.1 mem).elim (blank c) (blank' c)

/-! ## Dates -/

/-- A way to write a date: year, month and day with hyphens between them and blanks before them. -/
structure Spelling (d : Date) where
  front : List Char
  year : List Char
  middle : List Char
  month : List Char
  back : List Char
  day : List Char
  front_blank : ∀ c ∈ front, isBlank c = true
  middle_blank : ∀ c ∈ middle, isBlank c = true
  back_blank : ∀ c ∈ back, isBlank c = true
  year_numeral : YearNumeral year d.year
  month_numeral : Numeral 2 month d.month
  day_numeral : Numeral 2 day d.day

/-- The characters of a spelling. -/
def Spelling.chars {d : Date} (w : Spelling d) : List Char :=
  w.front ++ (w.year ++ '-' :: (w.middle ++ (w.month ++ '-' :: (w.back ++ (w.day ++ [])))))

/-- Whether a text is a spelling of a date. -/
def Spells (text : String) (d : Date) : Prop :=
  ∃ w : Spelling d, text.toList = w.chars

theorem hyphen?_eq_some (read : hyphen? s = some rest) : s = '-' :: rest := by
  unfold hyphen? at read
  split at read
  · cases read; rfl
  · cases read

theorem read?_eq_some {d : Date} (read : read? hyphen? s = some (d, [])) :
    d.Exists ∧ ∃ w : Spelling d, s = w.chars := by
  simp only [read?, Option.bind_eq_bind, Option.bind_eq_some_iff, Prod.exists] at read
  obtain ⟨year, s₁, readYear, s₂, hyphen, month, s₃, readMonth, s₄, hyphen', day, s₅, readDay,
    final⟩ := read
  split at final
  · next real =>
    cases final
    obtain ⟨front, y, rfl, front_blank, year_numeral⟩ := year?_eq_some readYear
    obtain rfl := hyphen?_eq_some hyphen
    obtain ⟨middle, m, rfl, middle_blank, month_numeral⟩ := number?_eq_some readMonth
    obtain rfl := hyphen?_eq_some hyphen'
    obtain ⟨back, dd, rfl, back_blank, day_numeral⟩ := number?_eq_some readDay
    exact ⟨real, ⟨front, y, middle, m, back, dd, front_blank, middle_blank, back_blank,
      year_numeral, month_numeral, day_numeral⟩, rfl⟩
  · cases final

theorem read?_spelling {d : Date} (w : Spelling d) :
    read? hyphen? w.chars = if d.Exists then some (d, []) else none := by
  have hyphen {t : List Char} : ∀ c ∈ ('-' :: t).head?, isDigit c = false := by
    intro c mem
    cases mem
    decide
  have nothing : ∀ c ∈ ([] : List Char).head?, isDigit c = false := fun c mem => nomatch mem
  simp only [read?, Spelling.chars, Option.bind_eq_bind,
    year?_append w.front_blank w.year_numeral hyphen, Option.bind_some, hyphen?,
    number?_append w.middle_blank w.month_numeral hyphen,
    number?_append w.back_blank w.day_numeral nothing]

/-- A spelling is read if the calendar has the date. -/
theorem parse?_of_spells {text : String} {d : Date} (spells : Spells text d) :
    parse? text = if d.Exists then some d else none := by
  obtain ⟨w, eq⟩ := spells
  unfold parse?
  rw [eq, read?_spelling w]
  by_cases real : d.Exists
  · rw [if_pos real, if_pos real]
  · rw [if_neg real, if_neg real]

/-- **A date is read from exactly its spellings**, and only if the calendar has it. -/
theorem parse?_iff {text : String} {d : Date} :
    parse? text = some d ↔ d.Exists ∧ Spells text d := by
  constructor
  · intro read
    unfold parse? at read
    split at read
    · next date found =>
      cases read
      exact read?_eq_some found
    · cases read
  · rintro ⟨real, spells⟩
    rw [parse?_of_spells spells, if_pos real]

/-! ## The documented form -/

/-- Digits of a fixed width that write a number. -/
structure FixedNumeral (width : Nat) (s : List Char) (n : Nat) : Prop where
  digits : ∀ c ∈ s, isDigit c = true
  length : s.length = width
  value : ofDigits 10 s = n

/-- Whether a text writes a date, perhaps one that the calendar does not have, with four digits, two
digits and two digits. -/
def Documented (text : String) (d : Date) : Prop :=
  ∃ year month day y, text.toList = year ++ '-' :: (month ++ '-' :: day) ∧ d.year = (y : Nat) ∧
    FixedNumeral 4 year y ∧ FixedNumeral 2 month d.month ∧ FixedNumeral 2 day d.day

theorem FixedNumeral.numeral {w : Nat} (fixed : FixedNumeral w s n) (pos : 0 < w) :
    Numeral w s n :=
  have some : s ≠ [] := fun empty =>
    absurd fixed.length (by rw [empty]; exact Nat.ne_of_lt pos)
  ⟨fixed.digits, some, Nat.le_of_eq fixed.length, fixed.value⟩

theorem FixedNumeral.written {w : Nat} (fixed : FixedNumeral w s n) (pos : 0 < w) :
    padded w (decimal n) = s := by
  rw [← fixed.value, padded_ofDigits pos fixed.length fixed.digits]

theorem FixedNumeral.padded {w : Nat} (pos : 0 < w) (small : n < 10 ^ w) :
    FixedNumeral w (padded w (decimal n)) n :=
  have ⟨length, digits, value⟩ := ofDigits_padded pos small
  ⟨digits, length, value⟩

/-- The documented form is a spelling. -/
theorem Documented.spells {text : String} {d : Date} (form : Documented text d) :
    Spells text d := by
  obtain ⟨year, month, day, y, eq, value, fixedYear, fixedMonth, fixedDay⟩ := form
  refine ⟨⟨[], year, [], month, [], day, by simp, by simp, by simp, ?_,
    fixedMonth.numeral (by decide), fixedDay.numeral (by decide)⟩, ?_⟩
  · rw [value]
    exact .unsigned (fixedYear.numeral (by decide))
  · simpa [Spelling.chars] using eq

theorem daysInMonth_le (year : Int) (month : Nat) : daysInMonth year month ≤ 31 := by
  unfold daysInMonth
  split_ifs <;> decide

theorem daysInMonth_pos {year : Int} {month : Nat} (h : 0 < daysInMonth year month) :
    month ≤ 12 := by
  unfold daysInMonth at h
  split_ifs at h with february leap short long
  · omega
  · omega
  · simp only [List.mem_cons, List.not_mem_nil, or_false] at short
    omega
  · exact long.2
  · cases h

/-- **The texts of the documented form are those that dates are written as**, in the years that four
digits write. -/
theorem documented_iff {text : String} {d : Date} (real : d.Exists) :
    Documented text d ↔ text = d.text ∧ 0 ≤ d.year ∧ d.year ≤ 9999 := by
  have write {y : Nat} (value : d.year = y) (small : y ≤ 9999) :
      d.text = String.ofList (padded 4 (decimal y) ++ '-' ::
        (padded 2 (decimal d.month) ++ '-' :: padded 2 (decimal d.day))) := by
    have yearText : yearChars d.year = padded 4 (decimal y) := by
      rw [value, yearChars, if_neg (by omega), if_neg (by omega), Int.natAbs_natCast]
    rw [Date.text, chars, yearText, List.append_assoc, List.cons_append]
  constructor
  · rintro ⟨year, month, day, y, eq, value, fixedYear, fixedMonth, fixedDay⟩
    have small : y < 10 ^ 4 :=
      fixedYear.value ▸ ofDigits_lt (by decide) fixedYear.length fixedYear.digits
    refine ⟨?_, by omega, by omega⟩
    rw [write value (by omega), fixedYear.written (by decide), fixedMonth.written (by decide),
      fixedDay.written (by decide), ← eq, String.ofList_toList]
  · rintro ⟨rfl, positive, small⟩
    obtain ⟨y, value⟩ := Int.eq_ofNat_of_zero_le positive
    rw [write value (by omega)]
    have month := daysInMonth_pos (Nat.lt_of_lt_of_le real.2.2.1 real.2.2.2)
    have day := Nat.le_trans real.2.2.2 (daysInMonth_le d.year d.month)
    exact ⟨_, _, _, y, String.toList_ofList, value, .padded (by decide) (by omega),
      .padded (by decide) (by omega), .padded (by decide) (by omega)⟩

end FeedOperator.Date
