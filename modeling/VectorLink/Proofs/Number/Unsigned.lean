import VectorLink.Document.Scalar

/-! What decimal digits write, and which texts are numerals below a bound. -/

set_option autoImplicit false

namespace VectorLink

namespace Document

def appendDigit (value : Nat) (char : Char) : Nat := 10 * value + (Numeral.digit? char).getD 0

theorem le_foldl_appendDigit (value : Nat) (digits : List Char) :
    value ≤ digits.foldl appendDigit value := by
  induction digits generalizing value with
  | nil => exact Nat.le_refl value
  | cons char digits ih =>
    have grows : value ≤ appendDigit value char := by
      unfold appendDigit
      omega
    exact Nat.le_trans grows (ih (appendDigit value char))

end Document

namespace Numeral

open Document (appendDigit digitsValue le_foldl_appendDigit)

/-- Decimal digits, at least one and perhaps behind a plus sign, that write a number below the
bound. -/
def Denotes (bound : Nat) (text : String) (value : Nat) : Prop :=
  ∃ digits, (text.toList = digits ∨ text.toList = '+' :: digits) ∧ digits ≠ [] ∧
    (∀ char ∈ digits, char.isDigit = true) ∧ digitsValue digits = value ∧ value < bound

theorem readDigits_eq_ok {bound seen value : Nat} {digits : List Char} :
    readDigits bound seen digits = .ok value ↔
      (∀ char ∈ digits, char.isDigit = true) ∧ digits.foldl appendDigit seen = value ∧
        (digits ≠ [] → value < bound) := by
  induction digits generalizing seen with
  | nil => simp [readDigits]
  | cons char digits ih =>
    rw [readDigits]
    cases isDigit : char.isDigit with
    | false => simp [digit?, isDigit]
    | true =>
      have digit : digit? char = some ((digit? char).getD 0) := by simp [digit?, isDigit]
      rw [digit]
      show (if appendDigit seen char < bound then readDigits bound (appendDigit seen char) digits
        else .error .tooLarge) = .ok value ↔ _
      -- further digits make no number smaller, so one that has reached the bound stays there
      have grows := le_foldl_appendDigit (appendDigit seen char) digits
      by_cases below : appendDigit seen char < bound
      · rw [if_pos below, ih, List.forall_mem_cons]
        constructor
        · rintro ⟨all, same, small⟩
          refine ⟨⟨isDigit, all⟩, same, fun _ => ?_⟩
          cases digits with
          | nil => exact same ▸ below
          | cons next digits => exact small (List.cons_ne_nil _ _)
        · rintro ⟨⟨_, all⟩, same, small⟩
          exact ⟨all, same, fun _ => small (List.cons_ne_nil _ _)⟩
      · rw [if_neg below]
        constructor
        · intro failed
          cases failed
        · rintro ⟨_, same, small⟩
          have := small (List.cons_ne_nil _ _)
          rw [List.foldl_cons] at same
          omega

theorem read_eq_ok {bound value : Nat} {text : String} :
    read bound text = .ok value ↔ Denotes bound text value := by
  unfold read Denotes
  split
  next empty => simp [empty]
  next plus =>
    -- a plus sign alone is neither digits nor followed by any
    simp [plus]
  next digits notAlone signed =>
    rw [signed, readDigits_eq_ok]
    constructor
    · rintro ⟨all, same, small⟩
      exact ⟨digits, .inr rfl, notAlone, all, same, small notAlone⟩
    · rintro ⟨digits, isDigits | isSigned, some, all, same, small⟩
      · cases all '+' (isDigits ▸ .head _)
      · cases isSigned
        exact ⟨all, same, fun _ => small⟩
  next some _ unsigned =>
    rw [readDigits_eq_ok]
    constructor
    · rintro ⟨all, same, small⟩
      exact ⟨text.toList, .inl rfl, some, all, same, small some⟩
    · rintro ⟨digits, rfl | isSigned, some, all, same, small⟩
      · exact ⟨all, same, fun _ => small⟩
      · cases unsigned _ isSigned

end Numeral

end VectorLink
