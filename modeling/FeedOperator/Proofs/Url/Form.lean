import FeedOperator.Proofs.Text.Numeral
import FeedOperator.Proofs.Text.Utf8
import FeedOperator.Url.Percent

/-!
# Forms: what is written is read again

A value in a query is written octet by octet. Here it is read back, as any reader of forms does it:
plus signs are blanks, percent signs with two digits are octets, and the octets are UTF-8.

* `formDecode`: reads a value.
* `isFormChar`: the characters that a written value is made of.

Results:
* `formDecode_formEncode`: every value comes back.
* `isFormChar_of_mem`: a written value is made of the characters of forms alone, none of which
  separates values.
-/

namespace FeedOperator.Url

open Text

/-- The value behind a form. -/
def formDecode (s : List Char) : String :=
  String.ofList (Utf8.lossy (decode (s.map fun c => if c = '+' then ' ' else c)))

/-- Whether a character stands for itself in a form. -/
def isFormPlain (c : Char) : Bool :=
  isLetter c || isDigit c || c ∈ ['*', '-', '.', '_']

/-- Whether a character stands in a form. -/
def isFormChar (c : Char) : Bool :=
  isFormPlain c || c = '+' || c = '%'

/-! ## Characters -/

theorem isFormPlain_ascii {c : Char} (h : isFormPlain c = true) : c.toNat < 128 := by
  simp only [isFormPlain, Bool.or_eq_true, decide_eq_true_eq, List.mem_cons, List.not_mem_nil,
    or_false] at h
  obtain (letter | digit) | rfl | rfl | rfl | rfl := h
  · exact isLetter_ascii letter
  · exact isDigit_ascii digit
  all_goals decide

theorem isFormChar_ascii {c : Char} (h : isFormChar c = true) : c.toNat < 128 := by
  simp only [isFormChar, Bool.or_eq_true, decide_eq_true_eq] at h
  obtain (plain | rfl) | rfl := h
  · exact isFormPlain_ascii plain
  all_goals decide

/-- An ASCII character is one octet. -/
theorem encode_ascii {c : Char} (ascii : c.toNat < 128) :
    Utf8.encode [c] = [UInt8.ofNat c.toNat] := by
  simp only [Utf8.encode, List.flatMap_cons, List.flatMap_nil, List.append_nil,
    String.utf8EncodeChar, Char.toNat_val, if_pos (Nat.le_of_lt_succ ascii)]

/-! ## Octets -/

theorem isFormPlain_hexDigitUpper : ∀ n < 16, isFormPlain (hexDigitUpper n) = true := by decide

/-- How an octet is written: a blank as a plus sign, some as themselves, the others with a percent
sign. -/
theorem formOctet_cases (b : UInt8) :
    (b = 0x20 ∧ formOctet b = ['+']) ∨
      (∃ c, isFormPlain c = true ∧ Utf8.encode [c] = [b] ∧ formOctet b = [c]) ∨
      formOctet b = percentOctet b := by
  unfold formOctet
  by_cases blank : b.toNat = 0x20
  · exact .inl ⟨UInt8.toNat_inj.1 blank, by simp only [if_pos blank]⟩
  by_cases plain : isFormPlain (Char.ofNat b.toNat) = true
  · refine .inr (.inl ⟨_, plain, ?_, by simp only [if_neg blank]; exact if_pos plain⟩)
    have value : (Char.ofNat b.toNat).toNat = b.toNat := by
      rw [Char.ofNat, dif_pos (.inl (by have := b.toNat_lt; omega))]
      rfl
    rw [encode_ascii (isFormPlain_ascii plain), value, UInt8.ofNat_toNat]
  · exact .inr (.inr (by simp only [if_neg blank]; exact if_neg plain))

/-- A written value is made of characters of forms. -/
theorem isFormChar_of_mem {value : String} {c : Char} (h : c ∈ formEncode value) :
    isFormChar c = true := by
  obtain ⟨b, -, written⟩ := List.mem_flatMap.1 h
  have plain {d : Char} (h : isFormPlain d = true) : isFormChar d = true := by
    simp only [isFormChar, h, Bool.true_or]
  obtain ⟨-, as⟩ | ⟨d, isPlain, -, as⟩ | as := formOctet_cases b <;>
    simp only [as, percentOctet, List.mem_cons, List.not_mem_nil, or_false] at written
  · exact written ▸ rfl
  · exact written ▸ plain isPlain
  · have := b.toNat_lt
    obtain rfl | rfl | rfl := written
    · rfl
    · exact plain (isFormPlain_hexDigitUpper _ (by omega))
    · exact plain (isFormPlain_hexDigitUpper _ (by omega))

/-! ## Reading -/

theorem decode_of_ne {c : Char} (h : c ≠ '%') (rest : List Char) :
    decode (c :: rest) = Utf8.encode [c] ++ decode rest := by
  rw [decode]
  exact fun _ _ _ sign _ => h sign

theorem decode_percentOctet (b : UInt8) (rest : List Char) :
    decode (percentOctet b ++ rest) = b :: decode rest := by
  have := b.toNat_lt
  simp only [percentOctet, List.cons_append, List.nil_append, decode,
    hexValue?_hexDigitUpper _ (show b.toNat / 16 < 16 by omega),
    hexValue?_hexDigitUpper _ (show b.toNat % 16 < 16 by omega),
    show b.toNat / 16 * 16 + b.toNat % 16 = b.toNat by omega, UInt8.ofNat_toNat]

/-- A plain character stands for itself, and for nothing else. -/
theorem ne_of_isFormPlain {c : Char} (h : isFormPlain c = true) : c ≠ '+' ∧ c ≠ '%' :=
  ⟨fun e => absurd (e ▸ h) (by decide), fun e => absurd (e ▸ h) (by decide)⟩

/-- An octet is read as itself, whatever follows. -/
theorem decode_formOctet (b : UInt8) (rest : List Char) :
    decode ((formOctet b).map (fun c => if c = '+' then ' ' else c) ++ rest) =
      b :: decode rest := by
  obtain ⟨rfl, as⟩ | ⟨c, plain, octet, as⟩ | as := formOctet_cases b
  · rw [as]
    exact decode_of_ne (by decide) rest
  · obtain ⟨noPlus, noPercent⟩ := ne_of_isFormPlain plain
    rw [as, List.map_singleton, if_neg noPlus, List.singleton_append, decode_of_ne noPercent, octet,
      List.singleton_append]
  · have := b.toNat_lt
    have high := ne_of_isFormPlain (isFormPlain_hexDigitUpper (b.toNat / 16) (by omega))
    have low := ne_of_isFormPlain (isFormPlain_hexDigitUpper (b.toNat % 16) (by omega))
    have same : (percentOctet b).map (fun c => if c = '+' then ' ' else c) = percentOctet b := by
      simp [percentOctet, high.1, low.1]
    rw [as, same, decode_percentOctet]

/-- **Every value comes back.** -/
theorem formDecode_formEncode (value : String) : formDecode (formEncode value) = value := by
  have octets (bs : List UInt8) :
      decode ((bs.flatMap formOctet).map fun c => if c = '+' then ' ' else c) = bs := by
    induction bs with
    | nil => rfl
    | cons b bs ih =>
      rw [List.flatMap_cons, List.map_append, decode_formOctet, ih]
  rw [formDecode, formEncode, octets, Utf8.lossy_encode, String.ofList_toList]

end FeedOperator.Url
