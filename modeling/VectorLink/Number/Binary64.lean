/-! Double-precision numbers by their bit patterns.

A pattern keeps what the number type of the language does not: the sign and the payload of a NaN.
Order, rounding and text are computed from the pattern in natural numbers; only sums, products and
quotients go through machine arithmetic.
-/

set_option autoImplicit false

namespace VectorLink

structure Binary64 where
  bits : UInt64
  deriving DecidableEq, Repr, Inhabited

namespace Binary64

def ofFloat (value : Float) : Binary64 := ⟨value.toBits⟩

def toFloat (number : Binary64) : Float := Float.ofBits number.bits

def zero : Binary64 := ⟨0⟩

def negativeZero : Binary64 := ⟨0x8000000000000000⟩

/-- The natural number nearest to a pattern's value is a number of its own up to 2^53. -/
def ofNat (value : Nat) : Binary64 := ofFloat (Float.ofNat value)

instance : Add Binary64 where
  add left right := ofFloat (left.toFloat + right.toFloat)

instance : Mul Binary64 where
  mul left right := ofFloat (left.toFloat * right.toFloat)

instance : Div Binary64 where
  div left right := ofFloat (left.toFloat / right.toFloat)

def isNegative (number : Binary64) : Bool := 0x8000000000000000 ≤ number.bits.toNat

def hiddenBit : Nat := 0x10000000000000

def exponentField (number : Binary64) : Nat := number.bits.toNat / hiddenBit % 0x800

def fraction (number : Binary64) : Nat := number.bits.toNat % hiddenBit

inductive Magnitude where
  | finite (significand : Nat) (exponent : Int)
  | infinite
  | nan
  deriving DecidableEq, Repr

def magnitude (number : Binary64) : Magnitude :=
  if number.exponentField = 2047 then
    if number.fraction = 0 then .infinite else .nan
  else if number.exponentField = 0 then .finite number.fraction (-1074)
  else .finite (number.fraction + hiddenBit) (number.exponentField - 1075)

def isNan (number : Binary64) : Bool := number.magnitude = .nan

def isFinite (number : Binary64) : Bool :=
  match number.magnitude with
  | .finite .. => true
  | _ => false

/-- A number's place in the total order: negative patterns backwards, then positive ones. -/
def rank (number : Binary64) : Nat :=
  if number.isNegative then 0xffffffffffffffff - number.bits.toNat
  else number.bits.toNat + 0x8000000000000000

theorem rank_injective {left right : Binary64} (same : left.rank = right.rank) : left = right := by
  cases left with | mk left =>
  cases right with | mk right =>
    have lower := left.toNat_lt
    have upper := right.toNat_lt
    simp only [rank, isNegative, decide_eq_true_eq] at same
    have equal : left.toNat = right.toNat := by split at same <;> split at same <;> omega
    exact congrArg mk (UInt64.toNat_inj.1 equal)

/-- The quotient of two naturals rounded to the nearest, a tie to the even neighbour. -/
def roundDiv (numerator denominator : Nat) : Nat :=
  let quotient := numerator / denominator
  let twice := 2 * (numerator % denominator)
  if twice < denominator then quotient
  else if denominator < twice then quotient + 1
  else quotient + quotient % 2

/-- A natural rounded to the nearest with at most 53 significant bits, a tie to the even one. -/
def roundSignificand (value : Nat) : Nat :=
  let excess := value.log2 - 52
  roundDiv value (1 <<< excess) <<< excess

end Binary64

end VectorLink
