import FeedOperator.Json.Reading
import FeedOperator.Proofs.Double

/-!
# Numbers: what is written is read

A number is written as digits, perhaps with a point and more digits, and perhaps with a power of
ten. What stands behind it is no part of it, so the reading of a number ends where it ends.

* `Numeral.chars`: a number as it is written; `Numeral.Proper`: digits where there have to be some,
  and no zero in front of others.
* `Numeral.ofInt`, `Double.numeral`: how integers and numbers of double precision are written.

Results:
* `number_append`: a proper number is read to its end.
* `ofNumeral_ofInt`: an integer of 64 bits comes back.
* `jsonChars_eq`, `proper_numeral`: a number of double precision is written as a proper number.
-/

namespace FeedOperator

open Text Text.Utf8

/-! ## Numerals -/

namespace Numeral

/-- The power of ten with its letter. -/
def scale (x : Numeral) : List Char :=
  match x.power with
  | none => []
  | some p => 'e' :: signedDecimal p

/-- The digits, the point and the power of ten. -/
def unsigned (x : Numeral) : List Char :=
  x.whole ++ ((if x.places.isEmpty then [] else '.' :: x.places) ++ x.scale)

/-- A number as it is written. -/
def chars (x : Numeral) : List Char :=
  (if x.negative then ['-'] else []) ++ x.unsigned

/-- Digits before the point, none of them a zero in front of others, and digits behind it. -/
structure Proper (x : Numeral) : Prop where
  whole : ∀ c ∈ x.whole, isDigit c = true
  nonempty : x.whole ≠ []
  tight : ∀ rest, x.whole = '0' :: rest → rest = []
  places : ∀ c ∈ x.places, isDigit c = true

/-- An integer. -/
def ofInt (n : Int) : Numeral :=
  ⟨decide (n < 0), decimal n.natAbs, [], none⟩

theorem chars_ofInt (n : Int) : (ofInt n).chars = signedDecimal n := by
  by_cases h : n < 0 <;> simp [ofInt, chars, unsigned, scale, signedDecimal, h]

theorem proper_ofInt (n : Int) : (ofInt n).Proper where
  whole := (decimal_spec _).1
  nonempty := decimal_ne_nil _
  tight _ h := (decimal_of_zero h).1
  places _ h := nomatch h

end Numeral

namespace Reading

variable {x : Numeral} {s : List Char} {rest : List Symbol} {negative : Bool}

/-- Nothing that could be a part of the number before it. -/
def Ends (rest : List Symbol) : Prop :=
  ∀ c, some c ∈ rest.head? → isDigit c = false ∧ c ≠ '.' ∧ c ≠ 'e' ∧ c ≠ 'E'

theorem digits_append (all : ∀ c ∈ s, isDigit c = true)
    (stop : ∀ c, some c ∈ rest.head? → isDigit c = false) :
    digits (s.map some ++ rest) = (s, rest) := by
  have isDig : ∀ y ∈ s.map some, Option.any isDigit y = true := by
    simpa using all
  have stopped : rest.takeWhile (Option.any isDigit) = [] ∧
      rest.dropWhile (Option.any isDigit) = rest := by
    cases rest with
    | nil => exact ⟨rfl, rfl⟩
    | cons y rest =>
      have no : Option.any isDigit y = false := by
        cases y with
        | none => rfl
        | some c => exact stop c rfl
      exact ⟨List.takeWhile_cons_of_neg (by simp [no]), List.dropWhile_cons_of_neg (by simp [no])⟩
  change ((List.takeWhile (Option.any isDigit) _).filterMap id, List.dropWhile _ _) = _
  rw [List.takeWhile_append_of_pos isDig, List.dropWhile_append_of_pos isDig, stopped.1, stopped.2,
    List.append_nil, List.filterMap_map]
  exact congrArg (·, rest) (by simp)

/-- The number that stands behind the letter of a power is read to its end. -/
theorem power?_append (p : Int) (ends : Ends rest) :
    power? ((signedDecimal p).map some ++ rest) = some (p, rest) := by
  obtain ⟨isDig, value⟩ := decimal_spec p.natAbs
  have reads := digits_append isDig fun c hc => (ends c hc).1
  have some_digit : (decimal p.natAbs).isEmpty = false := by
    simpa [List.isEmpty_eq_false_iff] using decimal_ne_nil p.natAbs
  by_cases down : p < 0
  · rw [signedDecimal, if_pos down, List.map_cons, List.cons_append]
    simp only [power?, reads, some_digit, Bool.false_eq_true, if_false, if_true, value]
    exact congrArg (fun n => some (n, rest)) (by omega)
  · obtain ⟨c, cs, eq⟩ := List.exists_cons_of_ne_nil (decimal_ne_nil p.natAbs)
    have head : isDigit c = true := isDig c (eq ▸ List.mem_cons_self)
    have unsigned : c ≠ '-' ∧ c ≠ '+' := by
      constructor <;> rintro rfl <;> revert head <;> decide
    rw [eq] at reads some_digit value
    rw [signedDecimal, if_neg down, eq]
    simp only [List.map_cons, List.cons_append] at reads ⊢
    have plain : power? (some c :: (cs.map some ++ rest)) =
        some ((ofDigits 10 (c :: cs) : Int), rest) := by
      simp [power?, unsigned, reads]
    rw [plain, value, Int.natAbs_of_nonneg (Int.not_lt.mp down)]

/-- The power of ten is no digit and no point. -/
theorem head_scale (x : Numeral) (ends : Ends rest) (c : Char)
    (h : some c ∈ (x.scale.map some ++ rest).head?) : isDigit c = false ∧ c ≠ '.' := by
  unfold Numeral.scale at h
  split at h
  · exact ⟨(ends c h).1, (ends c h).2.1⟩
  · obtain rfl : 'e' = c := by simpa using h
    decide

theorem scaled_append (x : Numeral) (ends : Ends rest) :
    scaled { x with power := none } (x.scale.map some ++ rest) = (ofNumeral x, some rest) := by
  obtain ⟨negative, whole, places, _ | p⟩ := x
  · change scaled _ rest = _
    unfold scaled
    split
    · exact absurd rfl (ends 'e' rfl).2.2.1
    · exact absurd rfl (ends 'E' rfl).2.2.2
    · rfl
  · simp [Numeral.scale, scaled, power?_append p ends]

/-- Digits without a zero in front of others are taken as the whole of a number. -/
theorem whole_tight (proper : x.Proper) :
    (x.whole.isEmpty || (x.whole.head? == some '0' && 1 < x.whole.length)) = false := by
  obtain ⟨c, cs, eq⟩ := List.exists_cons_of_ne_nil proper.nonempty
  have tight := proper.tight cs
  rw [eq] at tight ⊢
  by_cases zero : c = '0'
  · simp [tight (by rw [zero])]
  · simp [zero]

/-- **A proper number is read to its end.** -/
theorem number_append (proper : x.Proper) (ends : Ends rest) :
    number x.negative (x.unsigned.map some ++ rest) = (ofNumeral x, some rest) := by
  have stops := head_scale x ends
  have scaled_eq := scaled_append x ends
  have tight := whole_tight proper
  obtain ⟨isWhole, -, -, isPlaces⟩ := proper
  rcases hplaces : x.places with _ | ⟨d, ds⟩
  · have reads := digits_append isWhole fun c hc => (stops c hc).1
    rw [Numeral.unsigned, hplaces, List.isEmpty_nil, if_pos rfl, List.nil_append, List.map_append,
      List.append_assoc, number, reads]
    simp only [tight, Bool.false_eq_true, if_false]
    split
    · next eq => exact absurd rfl (stops '.' (eq ▸ rfl)).2
    · rw [← hplaces]
      exact scaled_eq
  · rw [hplaces] at isPlaces
    have point : ∀ c, some c ∈
        (some '.' :: ((d :: ds).map some ++ (x.scale.map some ++ rest))).head? →
          isDigit c = false := fun c hc => by
      obtain rfl : '.' = c := by simpa using hc
      decide
    have reads := digits_append isWhole point
    have further := digits_append isPlaces fun c hc => (stops c hc).1
    rw [Numeral.unsigned, hplaces]
    simp only [List.isEmpty_cons, Bool.false_eq_true, if_false, List.map_append, List.append_assoc,
      List.map_cons, List.cons_append] at reads further ⊢
    simp only [number, reads, tight, further, Bool.false_eq_true, if_false, List.isEmpty_cons]
    rw [← hplaces]
    exact scaled_eq

end Reading

/-! ## What numbers are read as -/

/-- **An integer of 64 bits comes back.** -/
theorem Reading.ofNumeral_ofInt {n : Int} (least : -9223372036854775808 ≤ n)
    (most : n ≤ 18446744073709551615) : ofNumeral (.ofInt n) = .int n := by
  have int : (Numeral.ofInt n).int? = some n := by
    have value := (decimal_spec n.natAbs).2
    simp only [Numeral.int?, Numeral.ofInt, value, Option.isSome_none, List.isEmpty_nil,
      Bool.not_true, Bool.or_self, Bool.false_eq_true, if_false, decide_eq_true_eq,
      Numeral.wordBound]
    by_cases neg : n < 0
    · rw [if_pos neg, if_neg (by omega)]
      exact congrArg some (by omega)
    · rw [if_neg neg, if_pos (by omega)]
      exact congrArg some (by omega)
  rw [ofNumeral, Numeral.value, int]

/-- Whatever a number is read as is JSON. -/
theorem Reading.isSound_ofNumeral (x : Numeral) : (ofNumeral x).isSound = true := by
  unfold ofNumeral
  split <;> rfl

/-! ## Numbers of double precision -/

namespace Double

/-- Digits with the point at a place. -/
def placed (negative : Bool) (digits : List Char) (point : Int) : Numeral :=
  if 0 < point ∧ point ≤ 16 then
    if digits.length ≤ point.toNat then
      ⟨negative, digits ++ List.replicate (point.toNat - digits.length) '0', ['0'], none⟩
    else ⟨negative, digits.take point.toNat, digits.drop point.toNat, none⟩
  else if -5 < point ∧ point ≤ 0 then
    ⟨negative, ['0'], List.replicate (-point).toNat '0' ++ digits, none⟩
  else ⟨negative, digits.take 1, digits.drop 1, some (point - 1)⟩

/-- A number of double precision as it is written. -/
def numeral (d : Double) : Numeral :=
  if d.units = 0 then ⟨d.negative, ['0'], ['0'], none⟩
  else placed d.negative d.shortest.1 d.shortest.2

theorem jsonChars_eq (d : Double) : d.jsonChars = d.numeral.chars := by
  unfold jsonChars numeral
  by_cases zero : d.units = 0
  · simp [zero, Numeral.chars, Numeral.unsigned, Numeral.scale]
  obtain ⟨-, c, rest, first, -⟩ := shortest_spec (Nat.pos_of_ne_zero zero)
  rw [if_neg zero, if_neg zero]
  generalize d.shortest = found at *
  obtain ⟨digits, point⟩ := found
  obtain rfl : digits = c :: rest := first
  dsimp only [placed]
  by_cases near : 0 < point ∧ point ≤ 16
  · by_cases short : (c :: rest).length ≤ point.toNat
    · simp only [if_pos near, if_pos short]
      simp [Numeral.chars, Numeral.unsigned, Numeral.scale]
    · have places : (c :: rest).drop point.toNat ≠ [] := by
        rw [ne_eq, List.drop_eq_nil_iff]
        exact short
      simp only [if_pos near, if_neg short]
      simp [Numeral.chars, Numeral.unsigned, Numeral.scale, places]
  · by_cases behind : -5 < point ∧ point ≤ 0
    · simp only [if_neg near, if_pos behind]
      simp [Numeral.chars, Numeral.unsigned, Numeral.scale]
    · simp only [if_neg near, if_neg behind]
      cases rest <;> simp [Numeral.chars, Numeral.unsigned, Numeral.scale]

theorem isDigit_zeros (n : Nat) : ∀ c ∈ List.replicate n '0', isDigit c = true := by
  intro c hc
  rw [List.eq_of_mem_replicate hc]
  decide

theorem proper_placed {digits : List Char} (isDig : ∀ c ∈ digits, isDigit c = true)
    (first : ∃ c rest, digits = c :: rest ∧ c ≠ '0') (negative : Bool) (point : Int) :
    (placed negative digits point).Proper := by
  obtain ⟨c, rest, rfl, first⟩ := first
  unfold placed
  split
  · next near =>
    obtain ⟨n, hn⟩ : ∃ n, point.toNat = n + 1 := ⟨point.toNat - 1, by omega⟩
    split
    · exact ⟨List.forall_mem_append.mpr ⟨isDig, isDigit_zeros _⟩, by simp, by simp [first],
        isDigit_zeros 1⟩
    · rw [hn]
      exact ⟨fun d hd => isDig d (List.mem_of_mem_take hd), by simp, by simp [first],
        fun d hd => isDig d (List.mem_of_mem_drop hd)⟩
  · split
    · exact ⟨isDigit_zeros 1, by simp, by simp,
        List.forall_mem_append.mpr ⟨isDigit_zeros _, isDig⟩⟩
    · exact ⟨fun d hd => isDig d (List.mem_of_mem_take hd), by simp, by simp [first],
        fun d hd => isDig d (List.mem_of_mem_drop hd)⟩

/-- **A number of double precision** is written as a proper number. -/
theorem proper_numeral (d : Double) : d.numeral.Proper := by
  unfold numeral
  split
  · exact ⟨isDigit_zeros 1, by simp, by simp, isDigit_zeros 1⟩
  · next zero =>
    obtain ⟨isDig, first⟩ := shortest_spec (Nat.pos_of_ne_zero zero)
    exact proper_placed isDig first _ _

end Double

end FeedOperator
