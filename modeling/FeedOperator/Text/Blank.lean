/-!
# Blank characters

The Unicode property White_Space, and trimming by it.

* `isBlank`: the twenty-five characters of the property. Core's `Char.isWhitespace` knows four of
  them.
* `trim`: drops the blanks at both ends and keeps those inside.

Results:
* `isBlank_of_isWhitespace`: the table contains core's class.
* `trim_eq_self`: a text that neither starts nor ends with a blank is left alone.
-/

namespace FeedOperator.Text

/-- The characters with the Unicode property White_Space. -/
def isBlank (c : Char) : Bool :=
  let n := c.toNat
  (9 ≤ n && n ≤ 13) || n == 0x20 || n == 0x85 || n == 0xA0 || n == 0x1680 ||
    (0x2000 ≤ n && n ≤ 0x200A) || n == 0x2028 || n == 0x2029 || n == 0x202F ||
    n == 0x205F || n == 0x3000

/-- Drops the blanks at the end. -/
def dropBlankEnd (s : List Char) : List Char :=
  (s.reverse.dropWhile isBlank).reverse

/-- Drops the blanks at both ends. -/
def trim (s : List Char) : List Char :=
  dropBlankEnd (s.dropWhile isBlank)

theorem isBlank_of_isWhitespace {c : Char} (h : c.isWhitespace = true) : isBlank c = true := by
  simp only [Char.isWhitespace, Bool.or_eq_true, decide_eq_true_eq] at h
  rcases h with ((h | h) | h) | h <;> subst h <;> decide

theorem dropBlankEnd_eq_self {s : List Char} (h : ∀ c ∈ s.getLast?, isBlank c = false) :
    dropBlankEnd s = s := by
  unfold dropBlankEnd
  rw [← List.head?_reverse] at h
  cases hr : s.reverse with
  | nil => simpa using hr.symm
  | cons c r =>
    have hc : isBlank c = false := h c (by simp [hr])
    rw [List.dropWhile_cons_of_neg (by simp [hc]), ← hr, List.reverse_reverse]

theorem trim_eq_self {s : List Char} (first : ∀ c ∈ s.head?, isBlank c = false)
    (last : ∀ c ∈ s.getLast?, isBlank c = false) : trim s = s := by
  have h : s.dropWhile isBlank = s := by
    cases s with
    | nil => rfl
    | cons c r => exact List.dropWhile_cons_of_neg (by simp [first c rfl])
  rw [trim, h, dropBlankEnd_eq_self last]

end FeedOperator.Text
