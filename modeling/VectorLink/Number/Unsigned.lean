/-! Unsigned numerals of bounded size: an optional plus sign and decimal digits. -/

set_option autoImplicit false

namespace VectorLink

inductive NumeralFault where
  | empty
  | invalidDigit
  | tooLarge
  deriving DecidableEq, Repr

def NumeralFault.message : NumeralFault → String
  | empty => "cannot parse integer from empty string"
  | invalidDigit => "invalid digit found in string"
  | tooLarge => "number too large to fit in target type"

namespace Numeral

def digit? (char : Char) : Option Nat :=
  if char.isDigit then some (char.toNat - '0'.toNat) else none

/-- Reads digits from left to right. The first fault counts: a character that is no digit, or a
digit that makes the value reach the bound. -/
def readDigits (bound : Nat) (value : Nat) : List Char → Except NumeralFault Nat
  | [] => .ok value
  | char :: rest =>
    match digit? char with
    | none => .error .invalidDigit
    | some digit =>
      if 10 * value + digit < bound then readDigits bound (10 * value + digit) rest
      else .error .tooLarge

def read (bound : Nat) (text : String) : Except NumeralFault Nat :=
  match text.toList with
  | [] => .error .empty
  | ['+'] => .error .invalidDigit
  | '+' :: digits => readDigits bound 0 digits
  | digits => readDigits bound 0 digits

end Numeral

end VectorLink
