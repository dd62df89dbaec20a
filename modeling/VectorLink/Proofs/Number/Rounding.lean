import Mathlib.Algebra.Group.Nat.Defs
import VectorLink.Number.Binary64

/-! Rounding to 53 significant bits keeps the order.

Within one power of two everything is rounded to the same unit. From one power of two to the next
nothing is rounded past the border, which is itself a number of few bits.
-/

set_option autoImplicit false

namespace VectorLink.Binary64

variable {one two : Nat}

theorem roundDiv_le (numerator denominator : Nat) :
    roundDiv numerator denominator ≤ numerator / denominator + 1 := by
  unfold roundDiv
  dsimp only
  split
  · omega
  · split <;> omega

theorem le_roundDiv (numerator denominator : Nat) :
    numerator / denominator ≤ roundDiv numerator denominator := by
  unfold roundDiv
  dsimp only
  split
  · omega
  · split <;> omega

theorem roundDiv_mono (less : one ≤ two) (denominator : Nat) :
    roundDiv one denominator ≤ roundDiv two denominator := by
  obtain same | apart := Nat.eq_or_lt_of_le (Nat.div_le_div_right (c := denominator) less)
  · -- one whole part, so the rests decide
    have rest : one % denominator ≤ two % denominator := by
      have first := Nat.div_add_mod one denominator
      have second := Nat.div_add_mod two denominator
      rw [same] at first
      omega
    unfold roundDiv
    grind
  · calc roundDiv one denominator ≤ one / denominator + 1 := roundDiv_le ..
      _ ≤ two / denominator := apart
      _ ≤ roundDiv two denominator := le_roundDiv ..

/-! ### Significands -/

def excess (value : Nat) : Nat := value.log2 - 52

theorem roundSignificand_eq (value : Nat) :
    roundSignificand value = roundDiv value (2 ^ excess value) * 2 ^ excess value := by
  rw [roundSignificand, Nat.shiftLeft_eq, Nat.shiftLeft_eq, Nat.one_mul, excess]

theorem excess_mono (less : one ≤ two) : excess one ≤ excess two := by
  obtain rfl | some := Nat.eq_zero_or_pos one
  · exact Nat.zero_le _
  · have leading : 2 ^ one.log2 ≤ two := Nat.le_trans (Nat.log2_self_le (by omega)) less
    have log : one.log2 ≤ two.log2 := (Nat.le_log2 (by omega)).mpr leading
    exact Nat.sub_le_sub_right log 52

/-- Nothing is rounded past the next power of two. -/
theorem roundSignificand_le (value : Nat) : roundSignificand value ≤ 2 ^ (53 + excess value) := by
  have below : value < 2 ^ 53 * 2 ^ excess value := by
    rw [← Nat.pow_add]
    have : value.log2 + 1 ≤ 53 + excess value := by
      unfold excess
      omega
    exact Nat.lt_of_lt_of_le Nat.lt_log2_self (Nat.pow_le_pow_right (by decide) this)
  have few : value / 2 ^ excess value < 2 ^ 53 :=
    (Nat.div_lt_iff_lt_mul (Nat.two_pow_pos _)).mpr below
  rw [roundSignificand_eq, Nat.pow_add]
  exact Nat.mul_le_mul_right _ (Nat.le_trans (roundDiv_le ..) few)

theorem le_roundSignificand {value : Nat} (long : 0 < excess value) :
    2 ^ (52 + excess value) ≤ roundSignificand value := by
  have leading : value.log2 = 52 + excess value := by
    unfold excess at long ⊢
    omega
  have above : 2 ^ 52 * 2 ^ excess value ≤ value := by
    rw [← Nat.pow_add, ← leading]
    apply Nat.log2_self_le
    rintro rfl
    simp [excess] at long
  have many : 2 ^ 52 ≤ value / 2 ^ excess value :=
    (Nat.le_div_iff_mul_le (Nat.two_pow_pos _)).mpr above
  rw [roundSignificand_eq, Nat.pow_add]
  exact Nat.mul_le_mul_right _ (Nat.le_trans many (le_roundDiv ..))

theorem roundSignificand_mono (less : one ≤ two) : roundSignificand one ≤ roundSignificand two := by
  obtain same | apart := Nat.eq_or_lt_of_le (excess_mono less)
  · rw [roundSignificand_eq, roundSignificand_eq, same]
    exact Nat.mul_le_mul_right _ (roundDiv_mono less _)
  · calc roundSignificand one ≤ 2 ^ (53 + excess one) := roundSignificand_le one
      _ ≤ 2 ^ (52 + excess two) := Nat.pow_le_pow_right (by decide) (by omega)
      _ ≤ roundSignificand two := le_roundSignificand (Nat.zero_lt_of_lt apart)

end VectorLink.Binary64
