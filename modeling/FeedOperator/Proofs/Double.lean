import FeedOperator.Double.Shortest
import FeedOperator.Proofs.Text.Numeral
import Mathlib.Data.List.DropRight

/-!
# The shortest digits of a number of double precision

The digits of a number other than zero are the digits of a count of steps that is not zero, so they
do not begin with a zero.

* `Fits`: a step of a power of ten that is not greater than the number. It is so for the first grid,
  and for every finer one.

Results:
* `shortest_spec`: there is a first digit, which is not a zero.
-/

namespace FeedOperator.Double

open Text

/-- Whether one step of ten to the power `scale` is at most the number. -/
def Fits (units : Nat) (scale : Int) : Prop :=
  one * Nat.pow 10 scale.toNat ≤ units * Nat.pow 10 (-scale).toNat

variable {units : Nat} {scale : Int}

theorem one_pos : 0 < one := by
  decide +kernel

/-- Ten to the power -324 is less than a unit. -/
theorem one_le_pow : one ≤ Nat.pow 10 324 := by
  decide +kernel

/-- A finer step fits too. -/
theorem Fits.finer (h : Fits units scale) : Fits units (scale - 1) := by
  unfold Fits at h ⊢
  by_cases pos : 0 < scale
  · have down : (-(scale - 1)).toNat = (-scale).toNat := by omega
    rw [down]
    refine Nat.le_trans (Nat.mul_le_mul_left one ?_) h
    exact Nat.pow_le_pow_right (by decide) (by omega)
  · have up : (scale - 1).toNat = scale.toNat := by omega
    rw [up]
    refine Nat.le_trans h (Nat.mul_le_mul_left units ?_)
    exact Nat.pow_le_pow_right (by decide) (by omega)

/-- Of powers of ten on the two sides the lesser one may be taken from both. -/
theorem shift_le {unit count places : Nat} (pos : 0 < count)
    (h : Nat.pow 10 (count - 1) * unit ≤ units * Nat.pow 10 places) :
    unit * Nat.pow 10 ((count : Int) - places - 1).toNat ≤
      units * Nat.pow 10 (-((count : Int) - places - 1)).toNat := by
  simp only [Nat.pow_eq] at h ⊢
  by_cases many : places < count
  · have up : ((count : Int) - places - 1).toNat = count - 1 - places := by omega
    have down : (-((count : Int) - places - 1)).toNat = 0 := by omega
    rw [← Nat.sub_add_cancel (show places ≤ count - 1 by omega), Nat.pow_add,
      Nat.mul_right_comm] at h
    rw [up, down, Nat.pow_zero, Nat.mul_one, Nat.mul_comm]
    exact Nat.le_of_mul_le_mul_right h (Nat.pow_pos (by decide))
  · have up : ((count : Int) - places - 1).toNat = 0 := by omega
    have down : (-((count : Int) - places - 1)).toNat = places - (count - 1) := by omega
    rw [← Nat.sub_add_cancel (show count - 1 ≤ places by omega), Nat.pow_add, ← Nat.mul_assoc,
      Nat.mul_comm] at h
    rw [up, down, Nat.pow_zero, Nat.mul_one]
    exact Nat.le_of_mul_le_mul_right h (Nat.pow_pos (by decide))

/-- The step of the first digit fits. -/
theorem fits_leading (pos : 0 < units) : Fits units (leading units - 1) := by
  have first_pos : 0 < units * Nat.pow 10 324 / one :=
    Nat.div_pos (one_le_pow.trans (Nat.le_mul_of_pos_left (Nat.pow 10 324) pos)) one_pos
  have first := (Nat.le_div_iff_mul_le one_pos).mp (pow_length_decimal_le first_pos)
  have step := shift_le Nat.length_toDigits_pos first
  exact step

theorem Fits.quotient_pos (h : Fits units scale) :
    0 < units * Nat.pow 10 (-scale).toNat / (one * Nat.pow 10 scale.toNat) :=
  Nat.div_pos h (Nat.mul_pos one_pos (Nat.pow_pos (by decide)))

theorem div_le_roundDiv (num den : Nat) : num / den ≤ roundDiv num den := by
  unfold roundDiv
  dsimp only
  split <;> omega

theorem onGrid?_pos (h : Fits units scale) {n : Nat} (hit : onGrid? units scale = some n) :
    0 < n := by
  have low := h.quotient_pos
  unfold onGrid? at hit
  dsimp only at hit
  split at hit
  · exact Option.some.inj hit ▸ low.trans_le (div_le_roundDiv _ _)
  · exact Option.some.inj hit ▸ low
  · exact Option.some.inj hit ▸ Nat.succ_pos _
  · cases hit

theorem firstHit_pos (more : Nat) (h : Fits units scale) : 0 < (firstHit units more scale).1 := by
  induction more generalizing scale with
  | zero =>
    simp only [firstHit]
    exact h.quotient_pos.trans_le (div_le_roundDiv _ _)
  | succ more ih =>
    unfold firstHit
    split
    · next hit => exact onGrid?_pos h hit
    · exact ih h.finer

/-- **The shortest digits** begin with one that is not a zero. -/
theorem shortest_spec {d : Double} (pos : 0 < d.units) :
    (∀ c ∈ d.shortest.1, isDigit c = true) ∧
      ∃ c rest, d.shortest.1 = c :: rest ∧ c ≠ '0' := by
  have hit := firstHit_pos 16 (fits_leading pos)
  unfold shortest
  generalize firstHit d.units 16 (leading d.units - 1) = found at hit ⊢
  obtain ⟨n, scale⟩ := found
  obtain ⟨c, cs, eq⟩ := List.exists_cons_of_ne_nil (decimal_ne_nil n)
  have first : c ≠ '0' := by
    rintro rfl
    exact hit.ne' (decimal_of_zero eq).2
  change (∀ c ∈ (decimal n).rdropWhile (· == '0'), _) ∧
    ∃ c rest, (decimal n).rdropWhile (· == '0') = c :: rest ∧ _
  have front := List.rdropWhile_prefix (· == '0') (l := decimal n)
  refine ⟨fun d hd => (decimal_spec n).1 d (front.subset hd), ?_⟩
  cases kept : (decimal n).rdropWhile (· == '0') with
  | nil =>
    have zeros := List.rdropWhile_eq_nil_iff.mp kept c (eq ▸ List.mem_cons_self)
    exact absurd (by simpa using zeros) first
  | cons d rest =>
    rw [kept, eq] at front
    exact ⟨d, rest, rfl, (List.cons_prefix_cons.mp front).1 ▸ first⟩

end FeedOperator.Double
