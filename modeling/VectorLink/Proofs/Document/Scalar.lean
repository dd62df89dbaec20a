import VectorLink.Proofs.Document.Awaits
import VectorLink.Proofs.Number.Unsigned

/-! Reading a scalar takes exactly what holds one.

A natural is gathered digit by digit, below a limit that no bound of a kind exceeds; so it is the
number that its digits write.
-/

set_option autoImplicit false

namespace VectorLink.Document

/-! ### Naturals -/

theorem gather_eq {value : Nat} {digits : List Char}
    (small : digits.foldl appendDigit value < UInt64.size) :
    gather value digits = (digits.foldl appendDigit value, 0) := by
  induction digits generalizing value with
  | nil => rfl
  | cons char digits ih =>
    have below : appendDigit value char < UInt64.size :=
      Nat.lt_of_le_of_lt (le_foldl_appendDigit _ digits) small
    exact (if_pos below).trans (ih small)

theorem eq_of_gather {value significand : Nat} {digits : List Char}
    (gathered : gather value digits = (significand, 0)) :
    significand = digits.foldl appendDigit value := by
  induction digits generalizing value with
  | nil =>
    cases gathered
    rfl
  | cons char digits ih =>
    unfold gather at gathered
    dsimp only at gathered
    split at gathered
    next => exact ih gathered
    next => cases gathered

theorem several_nil_iff {belongs : Char → Bool} {chars : List Char} :
    Several belongs chars [] ↔ ∀ char ∈ chars, belongs char = true := by
  induction chars with
  | nil => exact ⟨fun _ => List.forall_mem_nil _, fun _ => .none []⟩
  | cons char chars ih =>
    rw [List.forall_mem_cons, ← ih]
    constructor
    · rintro ⟨⟩
      exact ⟨‹_›, ‹_›⟩
    · exact fun both => .more both.1 both.2

theorem fraction_of_leaves {text : List Char} (leaves : Leaves prolongs text) :
    fraction text = .ok ([], text) := by
  unfold fraction
  split
  next => cases leaves _ _ rfl
  next => rfl

theorem exponent_of_leaves {text : List Char} (leaves : Leaves prolongs text) :
    exponent text = .ok (none, text) := by
  cases text with
  | nil => rfl
  | cons char text =>
    have apart := leaves char text rfl
    simp only [prolongs, Bool.or_eq_false_iff, decide_eq_false_iff_not] at apart
    exact if_neg (not_or.mpr ⟨apart.1.2, apart.2⟩)

theorem eq_of_fraction {text rest : List Char} (read : fraction text = .ok ([], rest)) :
    rest = text := by
  unfold fraction at read
  split at read
  next digits =>
    dsimp only at read
    split at read
    next => cases read
    next some =>
      injection read with same
      injection same with none
      rw [none] at some
      exact absurd rfl some
  next =>
    cases read
    rfl

theorem eq_of_exponent {text rest : List Char} (read : exponent text = .ok (none, rest)) :
    rest = text := by
  revert read
  fun_cases exponent text with
  | case1 | case5 =>
    rintro ⟨⟩
    rfl
  | case2 | case3 | case4 =>
    intro read
    cases read

theorem whole_iff {digits : List Char} :
    Whole digits [] ↔ digits ≠ [] ∧ ¬(digits.head? = some '0' ∧ digits.length ≠ 1) ∧
      ∀ char ∈ digits, char.isDigit = true := by
  constructor
  · rintro (_ | ⟨digit, notZero, digits⟩)
    · exact ⟨List.cons_ne_nil _ _, by decide, List.forall_mem_singleton.mpr rfl⟩
    · refine ⟨List.cons_ne_nil _ _, fun zero => ?_,
        List.forall_mem_cons.mpr ⟨digit, several_nil_iff.mp digits⟩⟩
      exact notZero (Option.some.inj zero.1)
  · rintro ⟨some, plain, all⟩
    cases digits with
    | nil => exact absurd rfl some
    | cons char digits =>
      obtain ⟨first, others⟩ := List.forall_mem_cons.mp all
      by_cases isZero : char = '0'
      · subst isZero
        cases digits with
        | nil => exact .zero []
        | cons next digits => exact absurd ⟨rfl, by simp⟩ plain
      · exact .nonzero first isZero (several_nil_iff.mpr others)

theorem natural_of_figure {text rest : List Char} {value : Nat}
    (read : figure false text = .ok (.natural value, rest)) :
    ∃ digits, Whole digits [] ∧ text = digits ++ rest ∧ value = digitsValue digits := by
  simp only [figure, bind, Except.bind, pure, Except.pure, throw, throwThe, MonadExceptOf.throw]
    at read
  split at read
  next => cases read
  next some =>
  split at read
  next => cases read
  next plain =>
  cases point : fraction (text.dropWhile Char.isDigit) with
  | error problem =>
    rw [point] at read
    cases read
  | ok fraction =>
  obtain ⟨digits, marked⟩ := fraction
  rw [point] at read
  dsimp only at read
  cases mark : exponent marked with
  | error problem =>
    rw [mark] at read
    cases read
  | ok exponent =>
  obtain ⟨power, after⟩ := exponent
  rw [mark] at read
  dsimp only at read
  split at read
  -- it is a natural only without fraction and exponent, so the rest begins behind the digits
  next natural =>
    obtain ⟨noDigits, noPower, none⟩ := natural
    injection read with same
    injection same with isValue isRest
    injection isValue with isValue
    subst isRest
    rw [List.isEmpty_iff] at noDigits
    rw [Option.isNone_iff_eq_none] at noPower
    subst noDigits noPower
    have isRest : after = text.dropWhile Char.isDigit :=
      (eq_of_exponent mark).trans (eq_of_fraction point)
    refine ⟨text.takeWhile Char.isDigit, whole_iff.mpr ⟨?_, plain, ?_⟩, ?_, ?_⟩
    · rwa [List.isEmpty_iff] at some
    · exact List.all_eq_true.mp List.all_takeWhile
    · rw [isRest, List.takeWhile_append_dropWhile]
    · rw [← isValue]
      exact eq_of_gather (Prod.ext rfl none)
  next =>
    split at read
    next => cases read
    next => cases read

theorem figure_of_whole {digits rest : List Char} (whole : Whole digits [])
    (small : digitsValue digits < UInt64.size) (leaves : Leaves prolongs rest) :
    figure false (digits ++ rest) = .ok (.natural (digitsValue digits), rest) := by
  obtain ⟨some, plain, all⟩ := whole_iff.mp whole
  have stops : Leaves Char.isDigit rest := by
    intro char more same
    have apart := leaves char more same
    simp only [prolongs, Bool.or_eq_false_iff] at apart
    exact apart.1.1.1
  have dropped : (digits ++ rest).dropWhile Char.isDigit = rest := by
    rw [List.dropWhile_append_of_pos all]
    exact (Several.none rest).dropWhile_eq stops
  have taken : (digits ++ rest).takeWhile Char.isDigit = digits := by
    have both := List.takeWhile_append_dropWhile (p := Char.isDigit) (l := digits ++ rest)
    rw [dropped] at both
    exact List.append_cancel_right both
  simp only [figure, bind, Except.bind, pure, Except.pure, throw, throwThe, MonadExceptOf.throw,
    taken, dropped, List.isEmpty_iff, if_neg some, if_neg plain, fraction_of_leaves leaves,
    exponent_of_leaves leaves, gather_eq small]
  exact if_pos ⟨trivial, rfl, trivial⟩

/-! ### Scalars -/

/-- Every number that the kind admits is one that can be told from larger ones. -/
def Kind.Fits : Kind → Prop
  | .text => True
  | .natural bound => bound ≤ UInt64.size

instance (kind : Kind) : Decidable kind.Fits :=
  match kind with
  | .text => .isTrue trivial
  | .natural bound => inferInstanceAs (Decidable (bound ≤ UInt64.size))

theorem holds_of_readText {text rest : List Char} {value : String}
    (read : readText text = .ok (value, rest)) : Kind.text.Holds text (.text value) rest := by
  revert read
  fun_cases readText text with
  | case1 inside => exact fun read => .text (unquote_eq_ok.mp read)
  | case2 =>
    intro read
    cases read

theorem holds_of_readNatural {bound value : Nat} {text rest : List Char}
    (read : readNatural bound text = .ok (value, rest)) :
    (Kind.natural bound).Holds text (.natural value) rest := by
  revert read
  fun_cases readNatural bound text with
  | case1 digit number after figured small =>
    rintro ⟨⟩
    obtain ⟨digits, whole, rfl, rfl⟩ := natural_of_figure figured
    exact .natural whole small
  | case2 | case3 | case4 | case5 =>
    intro read
    cases read

theorem Kind.holds_of_read {kind : Kind} {text rest : List Char} {value : Scalar}
    (read : kind.read text = .ok (value, rest)) : kind.Holds text value rest := by
  revert read
  fun_cases kind.read text with
  | case1 name after isRead =>
    rintro ⟨⟩
    exact holds_of_readText isRead
  | case3 bound number after isRead =>
    rintro ⟨⟩
    exact holds_of_readNatural isRead
  | case2 | case4 =>
    intro read
    cases read

theorem Kind.read_of_holds {kind : Kind} {text rest : List Char} {value : Scalar}
    (fits : kind.Fits) (holds : kind.Holds text value rest) (leaves : Leaves prolongs rest) :
    kind.read text = .ok (value, rest) := by
  cases holds with
  | text quoted => simp only [Kind.read, readText, unquote_eq_ok.mpr quoted]
  | @natural bound digits _ whole small =>
    have figured := figure_of_whole whole (Nat.lt_of_lt_of_le small fits) leaves
    have begins : (digits ++ rest).head?.any Char.isDigit = true := by
      obtain ⟨some, -, all⟩ := whole_iff.mp whole
      cases digits with
      | nil => exact absurd rfl some
      | cons char digits => exact all char (.head _)
    simp only [Kind.read, readNatural, begins, figured, small, if_true]

theorem Kind.Holds.begins {kind : Kind} {text rest : List Char} {value : Scalar}
    (holds : kind.Holds text value rest) :
    ∃ char more, text = char :: more ∧ isBlank char = false ∧ char ≠ ']' := by
  cases holds with
  | text => exact ⟨_, _, rfl, rfl, by decide⟩
  | @natural bound digits _ whole _ =>
    obtain ⟨some, -, all⟩ := whole_iff.mp whole
    cases digits with
    | nil => exact absurd rfl some
    | cons char digits =>
      have digit := all char (.head _)
      exact ⟨char, _, rfl, Skipping.isBlank_of_isDigit digit, Skipping.ne_of_isDigit digit rfl⟩

end VectorLink.Document
