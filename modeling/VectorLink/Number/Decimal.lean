import VectorLink.Number.Binary64

/-! Decimal texts of double-precision numbers.

Two rules: a fixed number of places, correctly rounded, and the fewest digits that read back as the
same number, of those the nearest. Both select their digits in exact arithmetic on the significand
and the exponent.
-/

set_option autoImplicit false

namespace VectorLink.Decimal

def digits (value : Nat) : List Char := Nat.toDigits 10 value

def padded (width value : Nat) : List Char :=
  let shown := digits value
  List.replicate (width - shown.length) '0' ++ shown

def tenTo (exponent : Nat) : Nat := Nat.pow 10 exponent

/-! ### Fixed places -/

/-- The value `significand · 2 ^ exponent` in units of `10 ^ -places`, a half going to the even
unit. -/
def roundPlaces (places significand : Nat) (exponent : Int) : Nat :=
  let scaled := significand * tenTo places
  match exponent with
  | .ofNat exponent => scaled <<< exponent
  | .negSucc shift => Binary64.roundDiv scaled (1 <<< (shift + 1))

def pointed (places units : Nat) : List Char :=
  if places = 0 then digits units
  else digits (units / tenTo places) ++ '.' :: padded places (units % tenTo places)

def fixed (places : Nat) (number : Binary64) : String :=
  let sign := if number.isNegative then ['-'] else []
  match number.magnitude with
  | .nan => "NaN"
  | .infinite => .ofList (sign ++ "inf".toList)
  | .finite significand exponent =>
    .ofList (sign ++ pointed places (roundPlaces places significand exponent))

/-! ### Fewest digits -/

structure Shortest where
  digits : Nat
  exponent : Int
  deriving DecidableEq, Repr

structure Ratio where
  numerator : Nat
  denominator : Nat

namespace Ratio

def scale (base significand : Nat) : Int → Ratio
  | .ofNat exponent => ⟨significand * base.pow exponent, 1⟩
  | .negSucc shift => ⟨significand, base.pow (shift + 1)⟩

def le (left right : Ratio) : Bool :=
  left.numerator * right.denominator ≤ right.numerator * left.denominator

def lt (left right : Ratio) : Bool :=
  left.numerator * right.denominator < right.numerator * left.denominator

def div (left right : Ratio) : Ratio :=
  ⟨left.numerator * right.denominator, left.denominator * right.numerator⟩

def floor (ratio : Ratio) : Nat := ratio.numerator / ratio.denominator

def magnitude (ratio : Ratio) : Int :=
  (Decimal.digits (ratio.numerator * tenTo 400 / ratio.denominator)).length - 400

end Ratio

/-- The reals that round to one double, with the double itself. Its ends belong to it if the
significand is even. -/
structure Neighbourhood where
  lower : Ratio
  value : Ratio
  upper : Ratio
  closed : Bool

def Neighbourhood.of (significand : Nat) (exponent : Int) : Neighbourhood :=
  let narrow := significand = Binary64.hiddenBit ∧ -1074 < exponent
  { lower := .scale 2 (4 * significand - if narrow then 1 else 2) (exponent - 2)
    value := .scale 2 (4 * significand) (exponent - 2)
    upper := .scale 2 (4 * significand + 2) (exponent - 2)
    closed := significand % 2 = 0 }

def Neighbourhood.contains (around : Neighbourhood) (point : Ratio) : Bool :=
  if around.closed then around.lower.le point && point.le around.upper
  else around.lower.lt point && point.lt around.upper

/-- The point of the grid of multiples of `10 ^ exponent` that reads back and is nearest, if one
reads back. Only the two points around the value can; of two equally near the even one is taken. -/
def Neighbourhood.onGrid? (around : Neighbourhood) (exponent : Int) : Option Shortest :=
  let steps := around.value.div (.scale 10 1 exponent)
  let below := steps.floor
  let reads (digits : Nat) : Bool := around.contains (.scale 10 digits exponent)
  let nearest := Binary64.roundDiv steps.numerator steps.denominator
  if reads nearest then some ⟨nearest, exponent⟩
  else if reads below then some ⟨below, exponent⟩
  else if reads (below + 1) then some ⟨below + 1, exponent⟩
  else none

def Shortest.trim : Nat → Shortest → Shortest
  | 0, decimal => decimal
  | fuel + 1, decimal =>
    if decimal.digits ≠ 0 ∧ decimal.digits % 10 = 0 then
      trim fuel ⟨decimal.digits / 10, decimal.exponent + 1⟩
    else decimal

/-- The decimal of fewest digits that reads back as `significand · 2 ^ exponent`, which is not
zero. Seventeen digits always do. -/
def Shortest.of (significand : Nat) (exponent : Int) : Shortest :=
  let around := Neighbourhood.of significand exponent
  let top := around.value.magnitude
  let found := (List.range 17).findSome? fun (more : Nat) =>
    around.onGrid? (top - ((more : Int) + 1))
  (found.getD ⟨0, 0⟩).trim 20

/-- Positional notation from 10^-5 up to 10^16, with at least one digit on both sides of the point;
beyond that one digit, a point if more follow, and a signed exponent. -/
def Shortest.text (decimal : Shortest) : List Char :=
  let shown := Decimal.digits decimal.digits
  let point := decimal.exponent + shown.length
  if 16 < point ∨ point ≤ -5 then
    let power := point - 1
    shown.take 1 ++ (if shown.length = 1 then [] else '.' :: shown.drop 1) ++
      (if power < 0 then ['e', '-'] else ['e', '+']) ++ Decimal.digits power.natAbs
  else if point ≤ 0 then
    "0.".toList ++ List.replicate (-point).toNat '0' ++ shown
  else if decimal.exponent < 0 then
    shown.take point.toNat ++ '.' :: shown.drop point.toNat
  else
    shown ++ List.replicate decimal.exponent.toNat '0' ++ ".0".toList

def shortest? (number : Binary64) : Option (List Char) :=
  let sign := if number.isNegative then ['-'] else []
  match number.magnitude with
  | .finite 0 _ => some (sign ++ "0.0".toList)
  | .finite significand exponent => some (sign ++ (Shortest.of significand exponent).text)
  | _ => none

end VectorLink.Decimal
