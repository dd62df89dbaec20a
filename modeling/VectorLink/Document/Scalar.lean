import VectorLink.Document.Quoted
import VectorLink.Number.Decimal
import VectorLink.Number.Unsigned

/-! Texts and naturals, read where a document is expected to hold one.

A value of another kind is a problem of data, but only once the value shows its kind without being
malformed: a word or a number has to be read to its end for that, a list or a record only opened.
-/

set_option autoImplicit false

namespace VectorLink.Document

def isBlank (char : Char) : Bool := char = ' ' || char = '\n' || char = '\t' || char = '\r'

def dropBlanks (text : List Char) : List Char := text.dropWhile isBlank

theorem length_dropBlanks (text : List Char) : (dropBlanks text).length ≤ text.length :=
  (List.dropWhile_suffix isBlank).length_le

/-! ### Numbers -/

inductive Figure where
  | natural (value : Nat)
  | other
  deriving DecidableEq, Repr

/-- Appends digits to a significand while it stays below 2^64, and counts the digits left over. -/
def gather (significand : Nat) : List Char → Nat × Nat
  | [] => (significand, 0)
  | char :: rest =>
    let next := 10 * significand + (Numeral.digit? char).getD 0
    if next < UInt64.size then gather next rest else (significand, rest.length + 1)

def digitsValue (digits : List Char) : Nat :=
  digits.foldl (fun value char => 10 * value + (Numeral.digit? char).getD 0) 0

/-- The number `significand · 10 ^ exponent`, its two factors and their product rounded, is too
large for a double. -/
def overflows (significand : Nat) (exponent : Int) : Bool :=
  match exponent with
  | .ofNat exponent =>
    significand ≠ 0 && (308 < exponent || 1 <<< 1024 ≤ Binary64.roundSignificand
      (Binary64.roundSignificand significand * Binary64.roundSignificand (Decimal.tenTo exponent)))
  | .negSucc _ => false

def fraction (text : List Char) : Except Problem (List Char × List Char) :=
  match text with
  | '.' :: rest =>
    let digits := rest.takeWhile Char.isDigit
    if digits.isEmpty then .error (if rest.isEmpty then .endOfText else .malformed)
    else .ok (digits, rest.dropWhile Char.isDigit)
  | _ => .ok ([], text)

def exponent (text : List Char) : Except Problem (Option Int × List Char) :=
  match text with
  | [] => .ok (none, [])
  | mark :: rest =>
    if mark = 'e' ∨ mark = 'E' then
      let digits := match rest with
        | '+' :: digits | '-' :: digits => digits
        | _ => rest
      match digits with
      | [] => .error .endOfText
      | char :: _ =>
        if char.isDigit then
          let power := digitsValue (digits.takeWhile Char.isDigit)
          .ok (some (if rest.head? = some '-' then -power else power),
            digits.dropWhile Char.isDigit)
        else .error .malformed
    else .ok (none, text)

/-- Reads a number whose sign has been read. A zero in front of other digits is malformed, and so
is a number too large for a double. -/
def figure (negative : Bool) (text : List Char) : Except Problem (Figure × List Char) := do
  let whole := text.takeWhile Char.isDigit
  if whole.isEmpty then throw (if text.isEmpty then .endOfText else .malformed)
  if whole.head? = some '0' ∧ whole.length ≠ 1 then throw .malformed
  let (digits, rest) ← fraction (text.dropWhile Char.isDigit)
  let (power, rest) ← exponent rest
  let (significand, left) := gather 0 whole
  if digits.isEmpty ∧ power.isNone ∧ left = 0 then
    return (if negative then .other else .natural significand, rest)
  let (significand, leftOfDigits) := gather significand digits
  if overflows significand (power.getD 0 + left + leftOfDigits - digits.length) then
    throw .malformed
  return (.other, rest)

theorem length_fraction {text rest digits : List Char}
    (read : fraction text = .ok (digits, rest)) : rest.length ≤ text.length := by
  have bound (text : List Char) : (text.dropWhile Char.isDigit).length ≤ text.length :=
    (List.dropWhile_suffix Char.isDigit).length_le
  revert read
  fun_cases fraction text <;> grind

theorem length_exponent {text rest : List Char} {power : Option Int}
    (read : exponent text = .ok (power, rest)) : rest.length ≤ text.length := by
  have bound (text : List Char) : (text.dropWhile Char.isDigit).length ≤ text.length :=
    (List.dropWhile_suffix Char.isDigit).length_le
  revert read
  fun_cases exponent text <;> grind

theorem length_figure {negative : Bool} {text rest : List Char} {value : Figure}
    (read : figure negative text = .ok (value, rest)) : rest.length ≤ text.length := by
  have bound : (text.dropWhile Char.isDigit).length ≤ text.length :=
    (List.dropWhile_suffix Char.isDigit).length_le
  simp only [figure, bind, Except.bind, pure, Except.pure, throw, throwThe, MonadExceptOf.throw]
    at read
  grind [→ length_fraction, → length_exponent]

/-! ### Values of the wrong kind -/

def word : List Char → List Char → Except Problem (List Char)
  | [], rest => .ok rest
  | _ :: _, [] => .error .endOfText
  | letter :: letters, char :: rest => if char = letter then word letters rest else .error .malformed

def orData {α : Type} : Except Problem α → Problem
  | .error problem => problem
  | .ok _ => .data

def refusal : List Char → Problem
  | [] => .endOfText
  | 'n' :: rest => orData (word "ull".toList rest)
  | 't' :: rest => orData (word "rue".toList rest)
  | 'f' :: rest => orData (word "alse".toList rest)
  | '-' :: rest => orData (figure true rest)
  | '"' :: rest => orData (unquote [] rest)
  | '[' :: _ | '{' :: _ => .data
  | char :: rest => if char.isDigit then orData (figure false (char :: rest)) else .malformed

/-! ### Scalars -/

inductive Kind where
  | text
  | natural (bound : Nat)
  deriving DecidableEq, Repr

inductive Scalar where
  | text (value : String)
  | natural (value : Nat)
  deriving DecidableEq, Repr

def readText (text : List Char) : Except Problem (String × List Char) :=
  match text with
  | '"' :: rest => unquote [] rest
  | _ => .error (refusal text)

def readNatural (bound : Nat) (text : List Char) : Except Problem (Nat × List Char) :=
  if text.head?.any Char.isDigit then
    match figure false text with
    | .ok (.natural value, rest) => if value < bound then .ok (value, rest) else .error .data
    | .ok (.other, _) => .error .data
    | .error problem => .error problem
  else .error (refusal text)

theorem length_readText {text rest : List Char} {value : String}
    (read : readText text = .ok (value, rest)) : rest.length ≤ text.length := by
  revert read
  fun_cases readText text <;> grind [→ length_unquote]

theorem length_readNatural {bound value : Nat} {text rest : List Char}
    (read : readNatural bound text = .ok (value, rest)) : rest.length ≤ text.length := by
  revert read
  fun_cases readNatural bound text <;> grind [→ length_figure]

def Kind.read (kind : Kind) (text : List Char) : Except Problem (Scalar × List Char) :=
  match kind with
  | .text =>
    match readText text with
    | .ok (value, rest) => .ok (.text value, rest)
    | .error problem => .error problem
  | .natural bound =>
    match readNatural bound text with
    | .ok (value, rest) => .ok (.natural value, rest)
    | .error problem => .error problem

theorem Kind.length_read {kind : Kind} {text rest : List Char} {value : Scalar}
    (read : kind.read text = .ok (value, rest)) : rest.length ≤ text.length := by
  revert read
  fun_cases kind.read text <;> grind [→ length_readText, → length_readNatural]

end VectorLink.Document
