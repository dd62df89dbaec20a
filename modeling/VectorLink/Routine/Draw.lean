import VectorLink.Wire.Request

/-! What a benchmark leaves to chance: the components of its vectors, and the places to probe.

`Lots` is a source of chance as far as a benchmark can tell: components come one after another, and
places are different ones. Dice are such a source. They are a counter that is scrambled at each roll.
-/

set_option autoImplicit false

namespace VectorLink

structure Lots where
  component : Nat → UInt32
  /-- A pattern below that of one is that of a number from zero up to one. -/
  component_lt (before : Nat) : component before < 0x3f800000
  /-- So many of the places below a length. More than there are cannot be asked for. -/
  sample : (length count : Nat) → count ≤ length → List (Fin length)
  length_sample (length count : Nat) (few : count ≤ length) :
    (sample length count few).length = count
  nodup_sample (length count : Nat) (few : count ≤ length) : (sample length count few).Nodup

namespace Lots

variable (lots : Lots) (dimension : UInt32)

def vector (others : Nat) : Components :=
  (List.range dimension.toNat).map fun place =>
    lots.component (others * dimension.toNat + place)

def vectors (count : Nat) : Array Components :=
  ((List.range count).map (lots.vector dimension)).toArray

theorem length_vector (others : Nat) :
    (lots.vector dimension others).length = dimension.toNat := by
  simp [vector]

theorem size_vectors (count : Nat) : (lots.vectors dimension count).size = count := by
  simp [vectors]

theorem getElem_vectors {count place : Nat} (within : place < (lots.vectors dimension count).size) :
    (lots.vectors dimension count)[place] = lots.vector dimension place := by
  simp [vectors]

/-- The vectors share out what is drawn, one behind the other. -/
theorem flatten_vectors (count : Nat) : (lots.vectors dimension count).toList.flatten =
    (List.range (count * dimension.toNat)).map lots.component := by
  induction count with
  | zero => simp [vectors]
  | succ count ih =>
    have grown : (lots.vectors dimension (count + 1)).toList =
        (lots.vectors dimension count).toList ++ [lots.vector dimension count] := by
      simp [vectors, List.range_succ]
    rw [grown, List.flatten_append, ih, Nat.succ_mul, List.range_add, List.map_append, List.map_map,
      List.flatten_singleton]
    rfl

end Lots

structure Dice where
  seed : UInt64
  deriving DecidableEq, Repr

namespace Dice

def scramble (word : UInt64) : UInt64 :=
  let word := (word ^^^ (word >>> 30)) * 0xbf58476d1ce4e5b9
  let word := (word ^^^ (word >>> 27)) * 0x94d049bb133111eb
  word ^^^ (word >>> 31)

def roll (dice : Dice) (before : Nat) : UInt64 :=
  scramble (dice.seed + UInt64.ofNat (before + 1) * 0x9e3779b97f4a7c15)

def below (dice : Dice) (before bound : Nat) : Nat := (dice.roll before).toNat % bound

def others (dice : Dice) : Dice := ⟨scramble dice.seed⟩

/-- The single-precision pattern of `parts / 2^24`, for less than 2^24 parts. -/
def fraction (parts : Nat) : UInt32 :=
  if parts = 0 then 0
  else
    let exponent := parts.log2
    UInt32.ofNat ((127 + exponent - 24) <<< 23 + (parts <<< (23 - exponent) - 1 <<< 23))

def shuffle (dice : Dice) (length : Nat) : List (Fin length) :=
  (List.finRange length).mergeSort fun left right => dice.roll left ≤ dice.roll right

theorem shuffle_perm (dice : Dice) (length : Nat) :
    (dice.shuffle length).Perm (List.finRange length) :=
  List.mergeSort_perm ..

theorem fraction_lt {parts : Nat} (few : parts < 0x1000000) : fraction parts < 0x3f800000 := by
  have bounded (number : Nat) (small : number < 0x3f800000) : UInt32.ofNat number < 0x3f800000 := by
    rw [UInt32.lt_iff_toNat_lt]
    exact Nat.lt_of_le_of_lt (Nat.mod_le ..) small
  unfold fraction
  split
  · decide
  next some =>
    have exponent : parts.log2 < 24 := (Nat.log2_lt some).mpr few
    have significand : parts <<< (23 - parts.log2) < 0x1000000 := by
      have whole : (0x1000000 : Nat) = 2 ^ (parts.log2 + 1) * 2 ^ (23 - parts.log2) := by
        rw [← Nat.pow_add, show parts.log2 + 1 + (23 - parts.log2) = 24 by omega]
      rw [Nat.shiftLeft_eq, whole]
      exact Nat.mul_lt_mul_of_pos_right Nat.lt_log2_self (Nat.two_pow_pos _)
    apply bounded
    generalize parts <<< (23 - parts.log2) = shifted at significand ⊢
    rw [Nat.shiftLeft_eq, Nat.shiftLeft_eq]
    omega

def component (dice : Dice) (before : Nat) : UInt32 :=
  fraction ((dice.roll before).toNat >>> 40)

theorem component_lt (dice : Dice) (before : Nat) : dice.component before < 0x3f800000 := by
  have parts : (dice.roll before).toNat >>> 40 < 0x1000000 := by
    rw [Nat.shiftRight_eq_div_pow]
    exact Nat.div_lt_of_lt_mul (Nat.lt_of_lt_of_le (UInt64.toNat_lt _) (by decide))
  exact fraction_lt parts

def lots (dice : Dice) : Lots where
  component := dice.component
  component_lt := dice.component_lt
  sample length count _ := (dice.others.shuffle length).take count
  length_sample length count few := by
    rw [List.length_take, (dice.others.shuffle_perm length).length_eq, List.length_finRange]
    exact Nat.min_eq_left few
  nodup_sample length count _ := by
    have distinct := (dice.others.shuffle_perm length).nodup_iff.mpr (List.nodup_finRange length)
    exact distinct.sublist (List.take_sublist ..)

end Dice

end VectorLink
