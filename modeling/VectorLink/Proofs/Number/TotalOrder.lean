import Mathlib.Data.EReal.Operations
import VectorLink.Number.Binary64

/-! The total order of double-precision numbers.

The standard orders all patterns: numbers by their values and the zero with a minus sign in front of
the one without, NaNs at both ends by their signs, and NaNs of one sign by their payloads. `rank`
places patterns by counting, without looking at values. The two agree, because the numbers of one
sign grow with their patterns: their values are whole multiples of the least one, and each pattern
adds at least one to the multiple.
-/

set_option autoImplicit false

namespace VectorLink.Binary64

noncomputable def Magnitude.extent? : Magnitude → Option EReal
  | .finite significand exponent => some ((significand * 2 ^ exponent : ℝ) : EReal)
  | .infinite => some ⊤
  | .nan => none

noncomputable def value? (number : Binary64) : Option EReal :=
  number.magnitude.extent?.map fun extent => if number.isNegative then -extent else extent

/-- The total order of the standard. -/
def Precedes (left right : Binary64) : Prop :=
  match left.value?, right.value? with
  | some one, some two =>
    one < two ∨ one = two ∧ (left.isNegative = true ∨ right.isNegative = false)
  | some _, none => right.isNegative = false
  | none, some _ => left.isNegative = true
  | none, none =>
    match left.isNegative, right.isNegative with
    | true, true => right.fraction ≤ left.fraction
    | true, false => True
    | false, true => False
    | false, false => left.fraction ≤ right.fraction

/-! ### Patterns without their signs -/

def absolute (number : Binary64) : Nat := number.bits.toNat % 0x8000000000000000

/-- The pattern of an infinite number, without its sign. Those above are no numbers. -/
def limit : Nat := 2047 * hiddenBit

def units (absolute : Nat) : Nat :=
  if absolute / hiddenBit = 0 then absolute % hiddenBit
  else (absolute % hiddenBit + hiddenBit) * 2 ^ (absolute / hiddenBit - 1)

noncomputable def extent? (absolute : Nat) : Option EReal :=
  if absolute < limit then some ((units absolute * 2 ^ (-1074 : ℤ) : ℝ) : EReal)
  else if absolute = limit then some ⊤
  else none

theorem absolute_eq (number : Binary64) :
    number.absolute = number.exponentField * hiddenBit + number.fraction := by
  have := number.bits.toNat_lt
  simp only [absolute, exponentField, fraction, hiddenBit]
  omega

theorem rank_eq (number : Binary64) :
    number.rank = if number.isNegative then 0x7fffffffffffffff - number.absolute
      else number.absolute + 0x8000000000000000 := by
  have := number.bits.toNat_lt
  simp only [rank, absolute, isNegative, decide_eq_true_eq]
  split <;> omega

theorem units_lt_succ (absolute : Nat) : units absolute < units (absolute + 1) := by
  obtain within | carries : absolute % hiddenBit + 1 < hiddenBit ∨
      absolute % hiddenBit + 1 = hiddenBit := by
    simp only [hiddenBit]
    omega
  · have field : (absolute + 1) / hiddenBit = absolute / hiddenBit := by
      simp only [hiddenBit] at within ⊢
      omega
    have fraction : (absolute + 1) % hiddenBit = absolute % hiddenBit + 1 := by
      simp only [hiddenBit] at within ⊢
      omega
    unfold units
    rw [field, fraction]
    split
    · exact Nat.lt_succ_self _
    · exact Nat.mul_lt_mul_of_pos_right (by omega) (Nat.two_pow_pos _)
  · have field : (absolute + 1) / hiddenBit = absolute / hiddenBit + 1 := by
      simp only [hiddenBit] at carries ⊢
      omega
    have fraction : (absolute + 1) % hiddenBit = 0 := by
      simp only [hiddenBit] at carries ⊢
      omega
    unfold units
    rw [field, fraction, if_neg (Nat.succ_ne_zero _), Nat.add_sub_cancel]
    split
    next none =>
      rw [none]
      omega
    next some =>
      -- twice as far apart, and half as many
      obtain ⟨field, same⟩ := Nat.exists_eq_succ_of_ne_zero some
      have fewer : absolute % hiddenBit + hiddenBit < 2 * hiddenBit := by omega
      rw [same, Nat.succ_sub_one, Nat.pow_succ', Nat.zero_add, ← Nat.mul_assoc,
        Nat.mul_comm hiddenBit 2]
      exact Nat.mul_lt_mul_of_pos_right fewer (Nat.two_pow_pos field)

theorem units_strictMono : StrictMono units := strictMono_nat_of_lt_succ units_lt_succ

theorem fraction_lt (number : Binary64) : number.fraction < hiddenBit :=
  Nat.mod_lt _ (by decide)

theorem units_absolute (number : Binary64) :
    units number.absolute =
      if number.exponentField = 0 then number.fraction
      else (number.fraction + hiddenBit) * 2 ^ (number.exponentField - 1) := by
  have small := number.fraction_lt
  have field : number.absolute / hiddenBit = number.exponentField := by
    rw [absolute_eq]
    simp only [hiddenBit] at small ⊢
    omega
  have fraction : number.absolute % hiddenBit = number.fraction := by
    rw [absolute_eq]
    simp only [hiddenBit] at small ⊢
    omega
  rw [units, field, fraction]

theorem absolute_lt_limit_iff (number : Binary64) :
    number.absolute < limit ↔ number.exponentField ≠ 2047 := by
  have small := number.fraction_lt
  have field : number.exponentField < 2048 := Nat.mod_lt _ (by decide)
  rw [absolute_eq]
  simp only [limit, hiddenBit] at small ⊢
  omega

theorem absolute_of_last {number : Binary64} (last : number.exponentField = 2047) :
    number.absolute = limit + number.fraction := by
  rw [absolute_eq, last, limit]

theorem magnitude_extent? (number : Binary64) :
    number.magnitude.extent? = extent? number.absolute := by
  unfold magnitude
  by_cases last : number.exponentField = 2047
  · have above : ¬number.absolute < limit := by
      rw [absolute_lt_limit_iff]
      exact fun other => other last
    rw [if_pos last, extent?, if_neg above, absolute_of_last last]
    by_cases none : number.fraction = 0
    · rw [if_pos none, if_pos (by omega)]
      rfl
    · rw [if_neg none, if_neg (by omega)]
      rfl
  · rw [if_neg last, extent?, if_pos (number.absolute_lt_limit_iff.mpr last), units_absolute]
    by_cases first : number.exponentField = 0
    · rw [if_pos first, if_pos first]
      rfl
    · obtain ⟨before, same⟩ := Nat.exists_eq_succ_of_ne_zero first
      have shifted : (number.exponentField : ℤ) - 1075 = before + -1074 := by omega
      rw [if_neg first, if_neg first, Magnitude.extent?, shifted, same, Nat.succ_sub_one,
        zpow_add₀ two_ne_zero, zpow_natCast, ← mul_assoc, Nat.cast_mul, Nat.cast_pow, Nat.cast_ofNat]

theorem unit_pos : (0 : ℝ) < 2 ^ (-1074 : ℤ) := zpow_pos two_pos _

theorem extent?_nonneg {absolute : Nat} {extent : EReal} (found : extent? absolute = some extent) :
    0 ≤ extent := by
  unfold extent? at found
  split at found
  · cases found
    exact EReal.coe_nonneg.mpr (mul_nonneg (Nat.cast_nonneg _) unit_pos.le)
  · split at found
    · cases found
      exact le_top
    · cases found

theorem extent?_lt_iff {one two : Nat} {near far : EReal} (first : extent? one = some near)
    (second : extent? two = some far) : near < far ↔ one < two := by
  unfold extent? at first second
  -- a finite magnitude is a number of units; beyond all of these stands only the infinite one
  split at first
  next finite =>
    cases first
    split at second
    next also =>
      cases second
      rw [EReal.coe_lt_coe_iff, mul_lt_mul_iff_of_pos_right unit_pos, Nat.cast_lt,
        units_strictMono.lt_iff_lt]
    next beyond =>
      split at second
      · cases second
        exact iff_of_true (EReal.coe_lt_top _) (by omega)
      · cases second
  next infinite =>
    split at first
    next =>
      cases first
      refine iff_of_false not_top_lt ?_
      split at second
      next => omega
      next =>
        split at second
        · omega
        · cases second
    next => cases first

theorem extent?_eq_none_iff {absolute : Nat} : extent? absolute = none ↔ limit < absolute := by
  unfold extent?
  split
  · simp only [reduceCtorEq, false_iff]
    omega
  · split
    · simp only [reduceCtorEq, false_iff]
      omega
    · simp only [true_iff]
      omega

theorem value?_eq (number : Binary64) :
    number.value? = (extent? number.absolute).map fun extent =>
      if number.isNegative then -extent else extent := by
  rw [value?, magnitude_extent?]

theorem extent?_le_iff {one two : Nat} {near far : EReal} (first : extent? one = some near)
    (second : extent? two = some far) : near ≤ far ↔ one ≤ two := by
  rw [← not_lt, extent?_lt_iff second first, not_lt]

theorem absolute_of_nan {number : Binary64} (nan : extent? number.absolute = none) :
    number.absolute = limit + number.fraction := by
  rw [extent?_eq_none_iff] at nan
  apply absolute_of_last
  by_contra finite
  exact Nat.lt_asymm nan (number.absolute_lt_limit_iff.mpr finite)

/-! ### The order -/

theorem rank_le_iff (left right : Binary64) :
    left.rank ≤ right.rank ↔
      match left.isNegative, right.isNegative with
      | true, true => right.absolute ≤ left.absolute
      | true, false => True
      | false, true => False
      | false, false => left.absolute ≤ right.absolute := by
  have low : left.absolute < 0x8000000000000000 := Nat.mod_lt _ (by decide)
  have high : right.absolute < 0x8000000000000000 := Nat.mod_lt _ (by decide)
  rw [rank_eq, rank_eq]
  cases left.isNegative <;> cases right.isNegative <;>
    simp only [if_true, Bool.false_eq_true, if_false, iff_true, iff_false] <;> omega

/-- The standard's order of patterns is that of their places. -/
theorem precedes_iff {left right : Binary64} : left.Precedes right ↔ left.rank ≤ right.rank := by
  unfold Precedes
  rw [rank_le_iff, value?_eq, value?_eq]
  cases first : extent? left.absolute with
  | some near =>
    have least := extent?_nonneg first
    cases second : extent? right.absolute with
    | some far =>
      -- no number is below zero without its sign, so of two signs the minus is in front
      have most := extent?_nonneg second
      cases left.isNegative <;> cases right.isNegative <;>
        simp only [Option.map_some, if_true, Bool.false_eq_true, if_false, or_true, or_false,
          and_true, and_false, ← le_iff_lt_or_eq, reduceCtorEq]
      · exact extent?_le_iff first second
      · exact iff_of_false (not_lt.mpr ((EReal.neg_le_zero.mpr most).trans least)) not_false
      · exact iff_of_true ((EReal.neg_le_zero.mpr least).trans most) trivial
      · exact EReal.neg_le_neg_iff.trans (extent?_le_iff second first)
    | none =>
      -- a NaN lies beyond every number, on the side of its sign
      have number : ¬limit < left.absolute := fun nan => by
        cases first.symm.trans (extent?_eq_none_iff.mpr nan)
      have nan := extent?_eq_none_iff.mp second
      cases left.isNegative <;> cases right.isNegative <;>
        simp only [Option.map_some, Option.map_none, reduceCtorEq, true_iff, false_iff] <;>
        omega
  | none =>
    have nan := extent?_eq_none_iff.mp first
    cases second : extent? right.absolute with
    | some far =>
      have number : ¬limit < right.absolute := fun nan => by
        cases second.symm.trans (extent?_eq_none_iff.mpr nan)
      cases left.isNegative <;> cases right.isNegative <;>
        simp only [Option.map_some, Option.map_none, reduceCtorEq, true_iff, false_iff] <;>
        omega
    | none =>
      rw [absolute_of_nan first, absolute_of_nan second]
      cases left.isNegative <;> cases right.isNegative <;> simp

instance (left right : Binary64) : Decidable (left.Precedes right) :=
  decidable_of_iff _ precedes_iff.symm

theorem Precedes.trans {one two three : Binary64} (first : one.Precedes two)
    (second : two.Precedes three) : one.Precedes three := by
  rw [precedes_iff] at first second ⊢
  exact first.trans second

theorem Precedes.total (one two : Binary64) : one.Precedes two ∨ two.Precedes one := by
  rw [precedes_iff, precedes_iff]
  exact Nat.le_total ..

theorem Precedes.antisymm {one two : Binary64} (first : one.Precedes two)
    (second : two.Precedes one) : one = two := by
  rw [precedes_iff] at first second
  exact rank_injective (Nat.le_antisymm first second)

end VectorLink.Binary64
