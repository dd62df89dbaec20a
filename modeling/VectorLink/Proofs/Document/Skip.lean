import VectorLink.Proofs.Document.Quoted

/-! Passing over a value takes exactly the well-formed ones, to any depth.

One way, the machine runs through a value by the parts of its form. The other way, each state of the
machine awaits a certain form, each step keeps what it awaits, and so does a run.
-/

set_option autoImplicit false

namespace VectorLink.Document

def prolongs (char : Char) : Bool := char.isDigit || char = '.' || char = 'e' || char = 'E'

theorem prolongs_of_isBlank {char : Char} (blank : isBlank char = true) : prolongs char = false := by
  simp only [isBlank, Bool.or_eq_true, decide_eq_true_eq] at blank
  rcases blank with ((rfl | rfl) | rfl) | rfl <;> rfl

theorem Several.leaves {text rest : List Char} (blanks : Blanks text rest)
    (leaves : Leaves prolongs rest) : Leaves prolongs text := by
  cases blanks with
  | none => exact leaves
  | more blank _ => exact .cons (prolongs_of_isBlank blank) _

namespace Skipping

variable {brackets outer : List Bracket} {text rest : List Char}

/-- The machine goes on behind a value, or comes to its end. -/
def resume (brackets : List Bracket) (rest : List Char) : Except Problem (List Char) :=
  match brackets with
  | [] => .ok rest
  | _ => run ended brackets rest

theorem run_of_next {state next : Skipping} {inner : List Bracket} {char : Char}
    (taken : state.step brackets char rest = .next next inner) :
    run state brackets (char :: rest) = run next inner rest := by
  rw [run, taken]

theorem run_of_finish {state : Skipping} {char : Char}
    (taken : state.step brackets char rest = finish outer) :
    run state brackets (char :: rest) = resume outer rest := by
  rw [run, taken]
  cases outer <;> rfl

def isBetween (brackets : List Bracket) : Skipping → Bool
  | value | opened | name | named => true
  | ended => !brackets.isEmpty
  | _ => false

theorem step_blank {state : Skipping} {char : Char} (between : state.isBetween brackets = true)
    (blank : isBlank char = true) : state.step brackets char rest = .next state brackets := by
  cases state with
  | value | opened | name | named => exact if_pos blank
  | ended =>
    cases brackets with
    | nil => cases between
    | cons bracket outer => exact if_pos blank
  | _ => cases between

theorem run_blanks {state : Skipping} (between : state.isBetween brackets = true)
    (blanks : Blanks text rest) : run state brackets text = run state brackets rest := by
  induction blanks with
  | none text => rfl
  | more blank _ ih => rw [run_of_next (step_blank between blank), ih]

/-! ### Texts and words -/

def resumeText (isName : Bool) (brackets : List Bracket) (rest : List Char) :
    Except Problem (List Char) :=
  if isName then run named brackets rest else resume brackets rest

theorem run_hexWord {word : Nat} (isName : Bool) (digits : HexWord text word rest) :
    run (hex isName 3) brackets text = run (.text isName) brackets rest := by
  obtain ⟨first, second, third, fourth⟩ := digits
  simp only [run, step, first, second, third, fourth, Option.isNone_some, Bool.false_eq_true,
    if_false]

theorem run_backslash (isName : Bool) (rest : List Char) :
    run (.text isName) brackets ('\\' :: rest) = run (escape isName) brackets rest :=
  run_of_next rfl

theorem run_quotation (isName : Bool) (quotation : Quotation text rest) :
    run (.text isName) brackets text = resumeText isName brackets rest := by
  induction quotation with
  | closed rest =>
    cases isName with
    | true => exact run_of_next rfl
    | false => exact run_of_finish rfl
  | plain notClosing notEscaped printed _ ih =>
    rw [← ih]
    apply run_of_next
    rw [step, if_neg notClosing, if_neg notEscaped, if_neg (Nat.not_lt_of_le printed)]
  | @letter letter text rest means _ ih =>
    have notNumbered : letter ≠ 'u' := by
      rintro rfl
      cases means
    rw [← ih, run_backslash]
    apply run_of_next
    rw [step, if_neg notNumbered, if_pos means]
  | @numbered text after rest word digits _ ih =>
    rw [← ih, ← run_hexWord isName digits, run_backslash]
    apply run_of_next
    rw [step, if_pos rfl, digits.not_short]
    rfl

theorem run_word {letters : List Char} (some : letters ≠ []) (rest : List Char) :
    run (word letters) brackets (letters ++ rest) = resume brackets rest := by
  induction letters with
  | nil => exact absurd rfl some
  | cons letter letters ih =>
    cases letters with
    | nil => exact run_of_finish (if_pos rfl)
    | cons next letters =>
      rw [← ih (List.cons_ne_nil _ _)]
      exact run_of_next (if_pos rfl)

/-! ### Numbers -/

theorem step_number_digit {position : Figuring} {char : Char} (digit : char.isDigit = true)
    (goes : position = .whole ∨ position = .fraction ∨ position = .exponent) :
    step (number position) brackets char rest = .next (number position) brackets := by
  rcases goes with rfl | rfl | rfl <;> exact if_pos digit

theorem run_digits {position : Figuring}
    (goes : position = .whole ∨ position = .fraction ∨ position = .exponent)
    (digits : Several Char.isDigit text rest) :
    run (number position) brackets text = run (number position) brackets rest := by
  induction digits with
  | none => rfl
  | more digit _ ih => rw [run_of_next (step_number_digit digit goes), ih]

theorem run_number_end {position : Figuring} (complete : position.isComplete = true)
    (leaves : Leaves prolongs rest) :
    run (number position) brackets rest = resume brackets rest := by
  cases rest with
  | nil =>
    rw [run, atEnd, complete]
    cases brackets <;> rfl
  | cons char rest =>
    have apart := leaves char rest rfl
    simp only [prolongs, Bool.or_eq_false_iff, decide_eq_false_iff_not] at apart
    obtain ⟨⟨⟨notDigit, notPoint⟩, notSmall⟩, notLarge⟩ := apart
    have behind : step (number position) brackets char rest = after brackets char := by
      cases position <;>
        simp_all [Figuring.isComplete, step, figure]
    cases brackets with
    | nil => rw [run, behind]; rfl
    | cons bracket outer =>
      rw [run, behind]
      rfl

theorem ne_of_isDigit {char other : Char} (digit : char.isDigit = true)
    (apart : other.isDigit = false) : char ≠ other := by
  rintro rfl
  rw [digit] at apart
  cases apart

theorem run_marked {char : Char} (sign : Sign text (char :: rest)) (digit : char.isDigit = true) :
    run (number .marked) brackets text = run (number .exponent) brackets rest := by
  have notSign : ¬(char = '+' ∨ char = '-') :=
    not_or.mpr ⟨ne_of_isDigit digit rfl, ne_of_isDigit digit rfl⟩
  cases sign with
  | none =>
    apply run_of_next
    rw [step, figure, if_neg notSign, if_pos digit]
  | plus | minus =>
    have signed : run (number .markSigned) brackets (char :: rest) =
        run (number .exponent) brackets rest := run_of_next (if_pos digit)
    rw [← signed]
    exact run_of_next rfl

theorem run_exponent {position : Figuring}
    (goes : position = .zero ∨ position = .whole ∨ position = .fraction)
    (exponent : Exponent text rest) (leaves : Leaves prolongs rest) :
    run (number position) brackets text = resume brackets rest := by
  cases exponent with
  | none => rcases goes with rfl | rfl | rfl <;> exact run_number_end rfl leaves
  | @mark mark char signed more _ isMark sign digit digits =>
    have marked : step (number position) brackets mark signed = .next (number .marked) brackets := by
      rcases isMark with rfl | rfl <;> rcases goes with rfl | rfl | rfl <;> rfl
    calc run (number position) brackets (mark :: signed)
        = run (number .marked) brackets signed := run_of_next marked
      _ = run (number .exponent) brackets more := run_marked sign digit
      _ = run (number .exponent) brackets rest := run_digits (.inr (.inr rfl)) digits
      _ = resume brackets rest := run_number_end rfl leaves

theorem run_fraction {position : Figuring} {mark : List Char}
    (goes : position = .zero ∨ position = .whole) (fraction : Fraction text mark)
    (exponent : Exponent mark rest) (leaves : Leaves prolongs rest) :
    run (number position) brackets text = resume brackets rest := by
  cases fraction with
  | none => exact run_exponent (goes.imp_right .inl) exponent leaves
  | @point char behind _ digit digits =>
    have pointed : step (number position) brackets '.' (char :: behind) =
        .next (number .pointed) brackets := by
      rcases goes with rfl | rfl <;> rfl
    calc run (number position) brackets ('.' :: char :: behind)
        = run (number .pointed) brackets (char :: behind) := run_of_next pointed
      _ = run (number .fraction) brackets behind := run_of_next (if_pos digit)
      _ = run (number .fraction) brackets mark := run_digits (.inr (.inl rfl)) digits
      _ = resume brackets rest := run_exponent (.inr (.inr rfl)) exponent leaves

/-! ### Values -/

theorem start_nonzero {char : Char} (digit : char.isDigit = true) (notZero : char ≠ '0') :
    start brackets char = .next (number .whole) brackets := by
  unfold start
  split
  case h_8 => exact absurd rfl notZero
  case h_9 => exact if_pos digit
  all_goals cases digit

theorem isBlank_of_isDigit {char : Char} (digit : char.isDigit = true) : isBlank char = false := by
  cases blank : isBlank char with
  | false => rfl
  | true =>
    have := prolongs_of_isBlank blank
    simp [prolongs, digit] at this

theorem run_unsigned {state : Skipping} (unsigned : Unsigned text rest)
    (zero : ∀ text, state.step brackets '0' text = .next (number .zero) brackets)
    (nonzero : ∀ char text, char.isDigit = true → char ≠ '0' →
      state.step brackets char text = .next (number .whole) brackets)
    (leaves : Leaves prolongs rest) : run state brackets text = resume brackets rest := by
  obtain ⟨point, mark, whole, fraction, exponent⟩ := unsigned
  cases whole with
  | zero =>
    rw [run_of_next (zero point)]
    exact run_fraction (.inl rfl) fraction exponent leaves
  | nonzero digit notZero digits =>
    rw [run_of_next (nonzero _ _ digit notZero), run_digits (.inl rfl) digits]
    exact run_fraction (.inr rfl) fraction exponent leaves

def within : Bracket → Skipping
  | .list => value
  | .record => name

theorem run_opening (bracket : Bracket) (text : List Char) :
    run value brackets (bracket.opening :: text) = run opened (bracket :: brackets) text := by
  cases bracket <;> exact run_of_next rfl

theorem opened_closing (bracket : Bracket) :
    opened.step (bracket :: outer) bracket.closing rest = finish outer := by
  cases bracket <;> rfl

theorem opened_list {char : Char} (inked : isBlank char = false) (notClosing : char ≠ ']') :
    opened.step (.list :: outer) char rest = value.step (.list :: outer) char rest := by
  rw [step, step, inked]
  exact if_neg notClosing

end Skipping

theorem WellFormed.begins {text rest : List Char} (form : WellFormed .value text rest) :
    ∃ char more, text = char :: more ∧ isBlank char = false ∧ char ≠ ']' := by
  have figure {text rest : List Char} (unsigned : Unsigned text rest) :
      ∃ char more, text = char :: more ∧ isBlank char = false ∧ char ≠ ']' := by
    obtain ⟨point, mark, whole, -⟩ := unsigned
    cases whole with
    | zero => exact ⟨_, _, rfl, rfl, by decide⟩
    | nonzero digit _ _ =>
      exact ⟨_, _, rfl, Skipping.isBlank_of_isDigit digit, Skipping.ne_of_isDigit digit rfl⟩
  cases form with
  | word rest isWord =>
    simp only [List.mem_cons, List.not_mem_nil, or_false] at isWord
    rcases isWord with rfl | rfl | rfl <;> exact ⟨_, _, rfl, rfl, by decide⟩
  | text => exact ⟨_, _, rfl, rfl, by decide⟩
  | unsigned unsigned => exact figure unsigned
  | negative => exact ⟨_, _, rfl, rfl, by decide⟩
  | @empty bracket => cases bracket <;> exact ⟨_, _, rfl, rfl, by decide⟩
  | @filled bracket => cases bracket <;> exact ⟨_, _, rfl, rfl, by decide⟩

theorem WellFormed.leaves {bracket : Bracket} {text rest : List Char}
    (form : WellFormed (.behind bracket) text rest) : Leaves prolongs text := by
  cases form with
  | closed blanks =>
    refine blanks.leaves (.cons ?_ rest)
    cases bracket <;> rfl
  | @comma _ _ more _ blanks => exact blanks.leaves (.cons rfl more)

def Part.Runs : Part → List Char → List Char → Prop
  | .value, input, rest => Leaves prolongs rest →
    ∀ brackets, Skipping.value.run brackets input = Skipping.resume brackets rest
  | .within bracket, input, rest => ∀ outer,
    Skipping.opened.run (bracket :: outer) input = Skipping.resume outer rest ∧
      (Skipping.within bracket).run (bracket :: outer) input = Skipping.resume outer rest
  | .behind bracket, input, rest => ∀ outer,
    Skipping.ended.run (bracket :: outer) input = Skipping.resume outer rest

open Skipping in
theorem WellFormed.runs {part : Part} {text rest : List Char} (form : WellFormed part text rest) :
    part.Runs text rest := by
  induction form with
  | word rest isWord =>
    intro _ brackets
    simp only [List.mem_cons, List.not_mem_nil, or_false] at isWord
    rcases isWord with rfl | rfl | rfl <;>
      exact (run_of_next rfl).trans (run_word (List.cons_ne_nil _ _) rest)
  | text quotation =>
    intro _ brackets
    exact (run_of_next rfl).trans (run_quotation false quotation)
  | unsigned unsigned =>
    intro leaves brackets
    refine run_unsigned unsigned (fun _ => rfl) (fun char text digit notZero => ?_) leaves
    rw [step, isBlank_of_isDigit digit]
    exact start_nonzero digit notZero
  | @negative text rest unsigned =>
    intro leaves brackets
    have signed : (Skipping.number .signed).run brackets text = resume brackets rest := by
      refine run_unsigned unsigned (fun _ => rfl) (fun char text digit notZero => ?_) leaves
      rw [step, Skipping.figure, if_neg notZero, if_pos digit]
    rw [← signed]
    exact run_of_next rfl
  | @empty bracket text rest blanks =>
    intro _ brackets
    rw [run_opening, run_blanks rfl blanks]
    exact run_of_finish (opened_closing bracket)
  | @filled bracket text rest _ ih =>
    intro _ brackets
    rw [run_opening]
    exact (ih brackets).1
  -- the first value of a list may be looked for in either of two states
  | @item text start after rest blanks value behind ihValue ihBehind =>
    intro outer
    have reads : Skipping.value.run (.list :: outer) start = resume outer rest :=
      (ihValue behind.leaves (.list :: outer)).trans (ihBehind outer)
    obtain ⟨char, more, rfl, inked, notClosing⟩ := value.begins
    constructor
    · rw [run_blanks rfl blanks, ← reads, run, run, opened_list inked notClosing]
    · exact (run_blanks rfl blanks).trans reads
  | @member text name gap space start after rest blanks quotation colon spaces value behind ihValue
      ihBehind =>
    intro outer
    -- read backwards: the value and what follows it, then the colon, then the name
    have toValue : named.run (.record :: outer) (':' :: space) =
        Skipping.value.run (.record :: outer) space := run_of_next rfl
    have reads : named.run (.record :: outer) gap = resume outer rest := by
      rw [run_blanks rfl colon, toValue, run_blanks rfl spaces]
      exact (ihValue behind.leaves (.record :: outer)).trans (ihBehind outer)
    have named : (Skipping.text true).run (.record :: outer) name = resume outer rest :=
      (run_quotation true quotation).trans reads
    constructor
    · rw [run_blanks rfl blanks, ← named]
      exact run_of_next rfl
    · show Skipping.name.run (.record :: outer) text = _
      rw [run_blanks rfl blanks, ← named]
      exact run_of_next rfl
  | @closed bracket text rest blanks =>
    intro outer
    rw [run_blanks rfl blanks]
    exact run_of_finish (by cases bracket <;> rfl)
  | @comma bracket text more rest blanks _ ih =>
    intro outer
    rw [run_blanks rfl blanks, ← (ih outer).2]
    exact run_of_next (by cases bracket <;> rfl)

/-- The machine passes over a well-formed value. -/
theorem skip_of_wellFormed {text start rest : List Char} (blanks : Blanks text start)
    (form : WellFormed .value start rest) (leaves : Leaves prolongs rest) :
    skip text = .ok rest :=
  (Skipping.run_blanks rfl blanks).trans (form.runs leaves [])

end VectorLink.Document
