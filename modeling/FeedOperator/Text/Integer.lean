import FeedOperator.Text.Numeral

/-!
# Integers in bounds

Reading an integer in base ten from all of a text, with perhaps a sign before the digits. Reading
goes from left to right and stops at the first fault.

* `readNatural`: a number without a minus sign.
* `readInteger`: a number of 64 bits with either sign, in narrower bounds.
* `IntegerFault.message`: the fault in words.
-/

namespace FeedOperator.Text

/-- Why a text is not an integer in some bounds. -/
inductive IntegerFault where
  | empty
  | notDigit
  | tooLarge
  | tooSmall
  /-- It is an integer, and not between the bounds. -/
  | outside (n least most : Int)
  deriving DecidableEq

/-- The fault in words. -/
def IntegerFault.message : IntegerFault → String
  | .empty => "cannot parse integer from empty string"
  | .notDigit => "invalid digit found in string"
  | .tooLarge => "number too large to fit in target type"
  | .tooSmall => "number too small to fit in target type"
  | .outside n least most =>
    String.ofList (signedDecimal n) ++ " is not in " ++ String.ofList (signedDecimal least) ++
      "..=" ++ String.ofList (signedDecimal most)

/-- Reads digits behind those read so far, up to a bound. -/
def readDigits (bound : Nat) (beyond : IntegerFault) : Nat → List Char → Except IntegerFault Nat
  | n, [] => .ok n
  | n, c :: rest =>
    match digitValue? c with
    | none => .error .notDigit
    | some d =>
      if n * 10 + d ≤ bound then readDigits bound beyond (n * 10 + d) rest else .error beyond

/-- Reads a number up to a bound, with perhaps a plus sign. -/
def readNatural (most : Nat) : List Char → Except IntegerFault Nat
  | [] => .error .empty
  | '+' :: c :: rest => readDigits most .tooLarge 0 (c :: rest)
  | s => readDigits most .tooLarge 0 s

/-- The greatest number of 64 bits with a sign. -/
def greatest : Nat := 9223372036854775807

/-- Reads a number of 64 bits, with perhaps a sign. -/
def readSigned : List Char → Except IntegerFault Int
  | [] => .error .empty
  | '+' :: c :: rest => Int.ofNat <$> readDigits greatest .tooLarge 0 (c :: rest)
  | '-' :: c :: rest =>
    (fun n => -Int.ofNat n) <$> readDigits (greatest + 1) .tooSmall 0 (c :: rest)
  | s => Int.ofNat <$> readDigits greatest .tooLarge 0 s

/-- Reads a number between two bounds, with perhaps a sign. -/
def readInteger (least most : Int) (s : List Char) : Except IntegerFault Int := do
  let n ← readSigned s
  if least ≤ n ∧ n ≤ most then return n else throw (.outside n least most)

theorem readInteger_mem {least most n : Int} {s : List Char}
    (h : readInteger least most s = .ok n) : least ≤ n ∧ n ≤ most := by
  unfold readInteger at h
  cases hs : readSigned s with
  | error e => rw [hs] at h; cases h
  | ok m =>
    rw [hs] at h
    by_cases hm : least ≤ m ∧ m ≤ most
    · have : n = m := by
        simp only [bind, Except.bind, hm, and_self, if_true, pure, Except.pure] at h
        exact (Except.ok.inj h).symm
      exact this ▸ hm
    · simp only [bind, Except.bind, hm, if_false] at h
      cases h

end FeedOperator.Text
