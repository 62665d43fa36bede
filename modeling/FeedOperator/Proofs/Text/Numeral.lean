import Mathlib.Algebra.Group.Nat.Defs
import Mathlib.Data.Nat.Init
import FeedOperator.Text.Numeral

/-!
# Numerals: what is written is read again

* `forall_ascii`: what holds of each of the 128 characters of ASCII.
* `isLetter_ascii`, `isDigit_ascii`: letters and digits are among them.
* `hexValue?_hexDigitUpper`: one hexadecimal digit.

Results:
* `padded_ofDigits`: a number is written, with zeros in front up to the old width, with the digits
  that it was read from.
* `ofDigits_padded`: a number is read from the digits that it was written with.
* `decimal_spec`, `decimal_of_zero`: so are all its digits, none of them a zero in front of others.
-/

namespace FeedOperator.Text

/-! ## Characters -/

theorem forall_ascii {P : Char → Prop} (h : ∀ n < 128, P (Char.ofNat n)) {c : Char}
    (ascii : c.toNat < 128) : P c := by
  simpa only [Char.ofNat_toNat] using h c.toNat ascii

theorem isLetter_ascii {c : Char} (h : isLetter c = true) : c.toNat < 128 := by
  simp only [isLetter, Bool.or_eq_true, Bool.and_eq_true, decide_eq_true_eq, Char.le_def,
    UInt32.le_iff_toNat_le] at h
  rw [← Char.toNat_val]
  change (97 ≤ c.val.toNat ∧ c.val.toNat ≤ 122) ∨ (65 ≤ c.val.toNat ∧ c.val.toNat ≤ 90) at h
  omega

theorem isDigit_ascii {c : Char} (h : isDigit c = true) : c.toNat < 128 := by
  simp only [isDigit, digitValue?, Char.le_def, UInt32.le_iff_toNat_le] at h
  rw [← Char.toNat_val]
  split at h
  · next digit =>
    change 48 ≤ c.val.toNat ∧ c.val.toNat ≤ 57 at digit
    omega
  · simp at h

theorem hexValue?_hexDigitUpper : ∀ n < 16, hexValue? (hexDigitUpper n) = some n := by decide

/-! ## Decimal digits -/

/-- The value of a digit, zero for any other character. -/
def valueOf (c : Char) : Nat :=
  (hexValue? c).getD 0

theorem digitChar_spec : ∀ d < 10, isDigit d.digitChar = true ∧ valueOf d.digitChar = d := by
  decide

theorem valueOf_spec {c : Char} (h : isDigit c = true) :
    valueOf c < 10 ∧ (valueOf c).digitChar = c :=
  forall_ascii (P := fun c => isDigit c = true → valueOf c < 10 ∧ (valueOf c).digitChar = c)
    (by decide) (isDigit_ascii h) h

theorem ofDigits_concat (base : Nat) (s : List Char) (c : Char) :
    ofDigits base (s ++ [c]) = ofDigits base s * base + valueOf c := by
  simp [ofDigits, valueOf]

/-- The last digit of a number stands behind those of the number without it. -/
theorem padded_succ {w : Nat} (pos : 0 < w) (n : Nat) :
    padded (w + 1) (decimal n) = padded w (decimal (n / 10)) ++ [(n % 10).digitChar] := by
  by_cases small : n < 10
  · rw [Nat.div_eq_of_lt small, Nat.mod_eq_of_lt small, decimal, decimal,
      Nat.toDigits_of_lt_base small, Nat.toDigits_of_lt_base (by decide)]
    obtain ⟨v, rfl⟩ := Nat.exists_eq_add_of_le' pos
    simp [padded, List.replicate_succ', Nat.digitChar]
  · have split : decimal n = decimal (n / 10) ++ [(n % 10).digitChar] := by
      rw [decimal, decimal, ← Nat.toDigits_of_lt_base (Nat.mod_lt n (by decide : 0 < 10)),
        Nat.toDigits_append_toDigits (by decide) (by omega) (by omega), Nat.div_add_mod]
    rw [split]
    simp [padded]

theorem padded_one {n : Nat} (small : n < 10) : padded 1 (decimal n) = [n.digitChar] := by
  simp [padded, decimal, Nat.toDigits_of_lt_base small]

/-- **Digits that were read are written again**, with zeros up to their width. -/
theorem padded_ofDigits {w : Nat} (pos : 0 < w) {s : List Char} (width : s.length = w)
    (digits : ∀ c ∈ s, isDigit c = true) : padded w (decimal (ofDigits 10 s)) = s := by
  induction w, pos using Nat.le_induction generalizing s with
  | base =>
    obtain ⟨c, rfl⟩ := List.length_eq_one_iff.1 width
    obtain ⟨small, same⟩ := valueOf_spec (digits c List.mem_cons_self)
    have value : ofDigits 10 [c] = valueOf c := by simp [ofDigits, valueOf]
    rw [value, padded_one small, same]
  | succ w pos ih =>
    obtain rfl | ⟨front, c, eq⟩ := s.eq_nil_or_concat
    · cases width
    rw [List.concat_eq_append] at eq
    subst eq
    obtain ⟨small, same⟩ := valueOf_spec (digits c (by simp))
    have front_eq : padded w (decimal (ofDigits 10 front)) = front :=
      ih (by simpa using width) fun d mem => digits d (List.mem_append_left _ mem)
    rw [ofDigits_concat, padded_succ pos,
      show (ofDigits 10 front * 10 + valueOf c) / 10 = ofDigits 10 front by omega,
      show (ofDigits 10 front * 10 + valueOf c) % 10 = valueOf c by omega, front_eq, same]

theorem ofDigits_lt {w : Nat} (pos : 0 < w) {s : List Char} (width : s.length = w)
    (digits : ∀ c ∈ s, isDigit c = true) : ofDigits 10 s < 10 ^ w := by
  induction w, pos using Nat.le_induction generalizing s with
  | base =>
    obtain ⟨c, rfl⟩ := List.length_eq_one_iff.1 width
    simpa [ofDigits, valueOf] using (valueOf_spec (digits c List.mem_cons_self)).1
  | succ w pos ih =>
    obtain rfl | ⟨front, c, eq⟩ := s.eq_nil_or_concat
    · cases width
    rw [List.concat_eq_append] at eq
    subst eq
    have front_lt : ofDigits 10 front < 10 ^ w :=
      ih (by simpa using width) fun d mem => digits d (List.mem_append_left _ mem)
    have small := (valueOf_spec (digits c (by simp))).1
    rw [ofDigits_concat, Nat.pow_succ]
    omega

/-- **A number that was written is read again** from the digits, zeros in front or not. -/
theorem ofDigits_padded {w : Nat} (pos : 0 < w) {n : Nat} (small : n < 10 ^ w) :
    (padded w (decimal n)).length = w ∧ (∀ c ∈ padded w (decimal n), isDigit c = true) ∧
      ofDigits 10 (padded w (decimal n)) = n := by
  induction w, pos using Nat.le_induction generalizing n with
  | base =>
    obtain ⟨digit, value⟩ := digitChar_spec n (by simpa using small)
    rw [padded_one (by simpa using small)]
    refine ⟨rfl, fun c mem => List.mem_singleton.1 mem ▸ digit, ?_⟩
    simpa [ofDigits, valueOf] using value
  | succ w pos ih =>
    obtain ⟨width, digits, read⟩ := @ih (n / 10) (by rw [Nat.pow_succ] at small; omega)
    obtain ⟨digit, value⟩ := digitChar_spec (n % 10) (Nat.mod_lt n (by decide))
    rw [padded_succ pos]
    refine ⟨by simp [width], fun c mem => ?_, ?_⟩
    · obtain front | last := List.mem_append.1 mem
      · exact digits c front
      · exact List.mem_singleton.1 last ▸ digit
    · rw [ofDigits_concat, read, value]
      omega

/-! ## All digits of a number -/

theorem lt_pow_length_decimal (n : Nat) : n < 10 ^ (decimal n).length :=
  (Nat.length_toDigits_le_iff (by decide) Nat.length_toDigits_pos).mp (Nat.le_refl _)

/-- A number other than zero is at least the power of ten of its first digit. -/
theorem pow_length_decimal_le {n : Nat} (pos : 0 < n) : 10 ^ ((decimal n).length - 1) ≤ n := by
  by_cases one : (decimal n).length - 1 = 0
  · rw [one, Nat.pow_zero]
    exact pos
  · refine Nat.le_of_not_lt fun small => ?_
    have short : (decimal n).length ≤ (decimal n).length - 1 :=
      (Nat.length_toDigits_le_iff (by decide) (Nat.pos_of_ne_zero one)).mpr small
    omega

theorem decimal_ne_nil (n : Nat) : decimal n ≠ [] :=
  Nat.toDigits_ne_nil

/-- The digits of a number are read as it. -/
theorem decimal_spec (n : Nat) :
    (∀ c ∈ decimal n, isDigit c = true) ∧ ofDigits 10 (decimal n) = n := by
  have pos : 0 < (decimal n).length := Nat.length_toDigits_pos
  obtain ⟨-, digits, value⟩ := ofDigits_padded pos (lt_pow_length_decimal n)
  rw [padded, Nat.sub_self, List.replicate_zero, List.nil_append] at digits value
  exact ⟨digits, value⟩

/-- Only zero begins with a zero. -/
theorem decimal_of_zero {n : Nat} {rest : List Char} (h : decimal n = '0' :: rest) :
    rest = [] ∧ n = 0 := by
  obtain ⟨digits, value⟩ := decimal_spec n
  rw [h] at digits value
  have back : ofDigits 10 rest = n := by rw [← value]; rfl
  cases rest with
  | nil => exact ⟨rfl, back.symm⟩
  | cons c rest =>
    have small := ofDigits_lt (Nat.succ_pos rest.length) (s := c :: rest) rfl
      fun d hd => digits d (List.mem_cons_of_mem _ hd)
    rw [back] at small
    have short := (Nat.length_toDigits_le_iff (by decide) (Nat.succ_pos rest.length)).mpr small
    change (decimal n).length ≤ _ at short
    rw [h] at short
    exact absurd short (by simp)

end FeedOperator.Text
