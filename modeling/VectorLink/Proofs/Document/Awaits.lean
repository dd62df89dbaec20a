import VectorLink.Proofs.Document.Skip

/-! What passing over a value takes is well-formed.

Each state of the machine awaits a certain form of the text in front of it: the rest of what it is
in the middle of, and the rest of every bracket that is open. A step hands on what is awaited, one
character less, and so a run that comes to its end has passed over all of it.
-/

set_option autoImplicit false

namespace VectorLink.Document

/-- What follows a position in a number, up to its end. -/
def Figuring.Awaits : Figuring → List Char → List Char → Prop
  | .signed, input, rest => Unsigned input rest
  | .zero, input, rest => ∃ mark, Fraction input mark ∧ Exponent mark rest
  | .whole, input, rest => ∃ point mark,
    Several Char.isDigit input point ∧ Fraction point mark ∧ Exponent mark rest
  | .pointed, input, rest => ∃ char more mark, input = char :: more ∧ char.isDigit = true ∧
    Several Char.isDigit more mark ∧ Exponent mark rest
  | .fraction, input, rest => ∃ mark, Several Char.isDigit input mark ∧ Exponent mark rest
  | .marked, input, rest => ∃ char more, Sign input (char :: more) ∧ char.isDigit = true ∧
    Several Char.isDigit more rest
  | .markSigned, input, rest => ∃ char more, input = char :: more ∧ char.isDigit = true ∧
    Several Char.isDigit more rest
  | .exponent, input, rest => Several Char.isDigit input rest

def Closes : List Bracket → List Char → List Char → Prop
  | [], input, rest => input = rest
  | bracket :: outer, input, rest =>
    ∃ after, WellFormed (.behind bracket) input after ∧ Closes outer after rest

variable {brackets outer : List Bracket} {text rest : List Char} {char : Char}

def Valued (brackets : List Bracket) (text rest : List Char) : Prop :=
  ∃ after, WellFormed .value text after ∧ Closes brackets after rest

def Spaced (brackets : List Bracket) (text rest : List Char) : Prop :=
  ∃ start, Blanks text start ∧ Valued brackets start rest

def Named (brackets : List Bracket) (text rest : List Char) : Prop :=
  ∃ space, Blanks text (':' :: space) ∧ Spaced brackets space rest

def Texted (isName : Bool) (brackets : List Bracket) (text rest : List Char) : Prop :=
  match isName with
  | true => Named brackets text rest
  | false => Closes brackets text rest

def Skipping.Awaits (brackets : List Bracket) (rest : List Char) : Skipping → List Char → Prop
  | value, input => Spaced brackets input rest
  | opened, input => ∃ bracket outer after, brackets = bracket :: outer ∧
    (Blanks input (bracket.closing :: after) ∨ WellFormed (.within bracket) input after) ∧
    Closes outer after rest
  | ended, input => Closes brackets input rest
  | name, input => ∃ start after, Blanks input ('"' :: start) ∧ Quotation start after ∧
    Named brackets after rest
  | named, input => Named brackets input rest
  | .text isName, input => ∃ after, Quotation input after ∧ Texted isName brackets after rest
  | escape isName, input => ∃ after, Quotation ('\\' :: input) after ∧
    Texted isName brackets after rest
  | hex isName more, input => ∃ digits start after, input = digits ++ start ∧
    digits.length = more + 1 ∧ (∀ digit ∈ digits, (hexDigit? digit).isSome = true) ∧
    Quotation start after ∧ Texted isName brackets after rest
  | word letters, input => ∃ after, input = letters ++ after ∧ Closes brackets after rest
  | number position, input => ∃ after, position.Awaits input after ∧ Closes brackets after rest

/-- What is awaited once a character was taken. -/
def Skipped.Awaits (rest : List Char) : Skipped → Char → List Char → Prop
  | next state brackets, _, input => state.Awaits brackets rest input
  | last, _, input => input = rest
  | before, char, input => char :: input = rest
  | refused _, _, _ => False

namespace Skipping

theorem closes_of_finish (awaits : (finish brackets).Awaits rest char text) :
    Closes brackets text rest := by
  cases brackets with
  | nil => exact awaits
  | cons bracket outer => exact awaits

theorem Closes.blank {bracket : Bracket} (blank : isBlank char = true)
    (closes : Closes (bracket :: outer) text rest) :
    Closes (bracket :: outer) (char :: text) rest := by
  obtain ⟨after, behind, closes⟩ := closes
  refine ⟨after, ?_, closes⟩
  cases behind with
  | closed blanks => exact .closed (.more blank blanks)
  | comma blanks more => exact .comma (.more blank blanks) more

theorem within_blank {bracket : Bracket} (blank : isBlank char = true)
    (form : WellFormed (.within bracket) text rest) :
    WellFormed (.within bracket) (char :: text) rest := by
  cases form with
  | item blanks value behind => exact .item (.more blank blanks) value behind
  | member blanks quotation colon spaces value behind =>
    exact .member (.more blank blanks) quotation colon spaces value behind

theorem closes_of_after (awaits : (Skipping.after brackets char).Awaits rest char text) :
    Closes brackets (char :: text) rest := by
  cases brackets with
  | nil => exact awaits
  | cons bracket outer =>
    unfold Skipping.after at awaits
    dsimp only at awaits
    split at awaits
    next blank => exact Closes.blank blank awaits
    next =>
      split at awaits
      next isComma =>
        subst isComma
        cases bracket with
        | list =>
          obtain ⟨start, blanks, after, value, behind, within, closes⟩ := awaits
          exact ⟨behind, .comma (.none _) (.item blanks value within), closes⟩
        | record =>
          obtain ⟨name, gap, blanks, quotation, space, colon, start, spaces, after, value, behind,
            within, closes⟩ := awaits
          exact ⟨behind, .comma (.none _) (.member blanks quotation colon spaces value within),
            closes⟩
      next =>
        split at awaits
        next isClosing =>
          subst isClosing
          exact ⟨text, .closed (.none _), closes_of_finish awaits⟩
        next => exact awaits.elim

theorem Figuring.awaits_nothing {position : Figuring} (complete : position.isComplete = true)
    (text : List Char) : position.Awaits text text := by
  cases position with
  | zero => exact ⟨text, .none text, .none text⟩
  | whole => exact ⟨text, text, .none text, .none text, .none text⟩
  | fraction => exact ⟨text, .none text, .none text⟩
  | exponent => exact .none text
  | signed | pointed | marked | markSigned => cases complete

theorem exponent_of_marked (isMark : char = 'e' ∨ char = 'E')
    (awaits : Figuring.marked.Awaits text rest) : Exponent (char :: text) rest := by
  obtain ⟨first, more, sign, digit, digits⟩ := awaits
  exact .mark isMark sign digit digits

theorem fraction_of_pointed (awaits : Figuring.pointed.Awaits text rest) :
    ∃ mark, Fraction ('.' :: text) mark ∧ Exponent mark rest := by
  obtain ⟨first, more, mark, rfl, digit, digits, exponent⟩ := awaits
  exact ⟨mark, .point digit digits, exponent⟩

theorem awaits_of_figure {position : Figuring}
    (awaits : (Skipping.figure brackets char position).Awaits rest char text) :
    ∃ after, position.Awaits (char :: text) after ∧ Closes brackets after rest := by
  -- one case for each place in a number: what the machine goes on to tells which rule has taken
  -- `char`
  cases position <;> unfold Skipping.figure at awaits <;> dsimp only at awaits
  case signed =>
    split at awaits
    next isZero =>
      subst isZero
      obtain ⟨after, ⟨mark, fraction, exponent⟩, closes⟩ := awaits
      exact ⟨after, ⟨text, mark, .zero text, fraction, exponent⟩, closes⟩
    next notZero =>
      split at awaits
      next digit =>
        obtain ⟨after, ⟨point, mark, digits, fraction, exponent⟩, closes⟩ := awaits
        exact ⟨after, ⟨point, mark, .nonzero digit notZero digits, fraction, exponent⟩, closes⟩
      next => exact awaits.elim
  case zero =>
    split at awaits
    next => exact awaits.elim
    split at awaits
    next isPoint =>
      subst isPoint
      obtain ⟨after, pointed, closes⟩ := awaits
      exact ⟨after, fraction_of_pointed pointed, closes⟩
    split at awaits
    next isMark =>
      obtain ⟨after, marked, closes⟩ := awaits
      exact ⟨after, ⟨_, .none _, exponent_of_marked isMark marked⟩, closes⟩
    next => exact ⟨_, Figuring.awaits_nothing rfl _, closes_of_after awaits⟩
  case whole =>
    split at awaits
    next digit =>
      obtain ⟨after, ⟨point, mark, digits, fraction, exponent⟩, closes⟩ := awaits
      exact ⟨after, ⟨point, mark, .more digit digits, fraction, exponent⟩, closes⟩
    split at awaits
    next isPoint =>
      subst isPoint
      obtain ⟨after, pointed, closes⟩ := awaits
      obtain ⟨mark, fraction, exponent⟩ := fraction_of_pointed pointed
      exact ⟨after, ⟨_, mark, .none _, fraction, exponent⟩, closes⟩
    split at awaits
    next isMark =>
      obtain ⟨after, marked, closes⟩ := awaits
      exact ⟨after, ⟨_, _, .none _, .none _, exponent_of_marked isMark marked⟩, closes⟩
    next => exact ⟨_, Figuring.awaits_nothing rfl _, closes_of_after awaits⟩
  case pointed =>
    split at awaits
    next digit =>
      obtain ⟨after, ⟨mark, digits, exponent⟩, closes⟩ := awaits
      exact ⟨after, ⟨char, text, mark, rfl, digit, digits, exponent⟩, closes⟩
    next => exact awaits.elim
  case fraction =>
    split at awaits
    next digit =>
      obtain ⟨after, ⟨mark, digits, exponent⟩, closes⟩ := awaits
      exact ⟨after, ⟨mark, .more digit digits, exponent⟩, closes⟩
    split at awaits
    next isMark =>
      obtain ⟨after, marked, closes⟩ := awaits
      exact ⟨after, ⟨_, .none _, exponent_of_marked isMark marked⟩, closes⟩
    next => exact ⟨_, Figuring.awaits_nothing rfl _, closes_of_after awaits⟩
  case marked =>
    split at awaits
    next isSign =>
      obtain ⟨after, ⟨first, more, rfl, digit, digits⟩, closes⟩ := awaits
      refine ⟨after, ⟨first, more, ?_, digit, digits⟩, closes⟩
      rcases isSign with rfl | rfl
      · exact .plus _
      · exact .minus _
    split at awaits
    next digit =>
      obtain ⟨after, digits, closes⟩ := awaits
      exact ⟨after, ⟨char, text, .none _, digit, digits⟩, closes⟩
    next => exact awaits.elim
  case markSigned =>
    split at awaits
    next digit =>
      obtain ⟨after, digits, closes⟩ := awaits
      exact ⟨after, ⟨char, text, rfl, digit, digits⟩, closes⟩
    next => exact awaits.elim
  case exponent =>
    split at awaits
    next digit =>
      obtain ⟨after, digits, closes⟩ := awaits
      exact ⟨after, .more digit digits, closes⟩
    next => exact ⟨_, Figuring.awaits_nothing rfl _, closes_of_after awaits⟩

theorem valued_of_start (awaits : (Skipping.start brackets char).Awaits rest char text) :
    Valued brackets (char :: text) rest := by
  -- the first character decides what the value is; three of the cases are words and two are
  -- brackets
  have word {letters : List Char} (spelled : String) (isWord : spelled ∈ ["null", "true", "false"])
      (spells : spelled.toList = char :: letters)
      (awaits : (Skipping.word letters).Awaits brackets rest text) :
      Valued brackets (char :: text) rest := by
    obtain ⟨after, rfl, closes⟩ := awaits
    refine ⟨after, ?_, closes⟩
    rw [← List.cons_append, ← spells]
    exact .word after isWord
  have bracket {bracket : Bracket}
      (awaits : Skipping.opened.Awaits (bracket :: brackets) rest text) :
      Valued brackets (bracket.opening :: text) rest := by
    obtain ⟨_, _, after, ⟨⟩, empty | filled, closes⟩ := awaits
    · exact ⟨after, .empty empty, closes⟩
    · exact ⟨after, .filled filled, closes⟩
  unfold Skipping.start at awaits
  split at awaits
  next =>
    obtain ⟨after, quotation, closes⟩ := awaits
    exact ⟨after, .text quotation, closes⟩
  next => exact bracket awaits
  next => exact bracket awaits
  next => exact word "null" (by decide) rfl awaits
  next => exact word "true" (by decide) rfl awaits
  next => exact word "false" (by decide) rfl awaits
  next =>
    obtain ⟨after, unsigned, closes⟩ := awaits
    exact ⟨after, .negative unsigned, closes⟩
  next =>
    obtain ⟨after, ⟨mark, fraction, exponent⟩, closes⟩ := awaits
    exact ⟨after, .unsigned ⟨text, mark, .zero text, fraction, exponent⟩, closes⟩
  next notZero =>
    split at awaits
    next digit =>
      obtain ⟨after, ⟨point, mark, digits, fraction, exponent⟩, closes⟩ := awaits
      exact ⟨after, .unsigned ⟨point, mark, .nonzero digit notZero digits, fraction, exponent⟩,
        closes⟩
    next => exact awaits.elim

theorem within_of_startWithin {bracket : Bracket}
    (awaits : (Skipping.startWithin (bracket :: outer) char).Awaits rest char text) :
    ∃ after, WellFormed (.within bracket) (char :: text) after ∧ Closes outer after rest := by
  cases bracket with
  | list =>
    obtain ⟨after, value, behind, form, closes⟩ := valued_of_start awaits
    exact ⟨behind, .item (.none _) value form, closes⟩
  | record =>
    unfold Skipping.startWithin at awaits
    dsimp only at awaits
    split at awaits
    next isQuote =>
      subst isQuote
      obtain ⟨gap, quotation, space, colon, start, spaces, after, value, behind, form, closes⟩ :=
        awaits
      exact ⟨behind, .member (.none _) quotation colon spaces value form, closes⟩
    next => exact awaits.elim

theorem texted_of_finishText {isName : Bool}
    (awaits : (Skipping.finishText isName brackets).Awaits rest char text) :
    Texted isName brackets text rest := by
  cases isName with
  | true => exact awaits
  | false => exact closes_of_finish awaits

theorem exists_hexWord {digits : List Char} (four : digits.length = 4)
    (hexadecimal : ∀ digit ∈ digits, (hexDigit? digit).isSome = true) (rest : List Char) :
    ∃ word, HexWord (digits ++ rest) word rest := by
  obtain ⟨a, b, c, d, rfl⟩ : ∃ a b c d, digits = [a, b, c, d] := by
    rcases digits with _ | ⟨a, _ | ⟨b, _ | ⟨c, _ | ⟨d, _ | _⟩⟩⟩⟩ <;> simp at four ⊢
  simp only [List.forall_mem_cons, Option.isSome_iff_exists] at hexadecimal
  obtain ⟨⟨first, isFirst⟩, ⟨second, isSecond⟩, ⟨third, isThird⟩, ⟨fourth, isFourth⟩, -⟩ :=
    hexadecimal
  exact ⟨_, .digits isFirst isSecond isThird isFourth⟩

/-! ### Steps

One lemma for each state that makes more than one thing of a character; the others are told in
place.
-/

theorem awaits_of_opened (awaits : (opened.step brackets char text).Awaits rest char text) :
    opened.Awaits brackets rest (char :: text) := by
  unfold Skipping.step at awaits
  dsimp only at awaits
  split at awaits
  next blank =>
    obtain ⟨bracket, outer, after, rfl, form, closes⟩ := awaits
    exact ⟨bracket, outer, after, rfl, form.imp (.more blank) (within_blank blank), closes⟩
  split at awaits
  next bracket outer =>
    split at awaits
    next isClosing =>
      subst isClosing
      exact ⟨bracket, outer, text, rfl, .inl (.none _), closes_of_finish awaits⟩
    next =>
      obtain ⟨after, form, closes⟩ := within_of_startWithin awaits
      exact ⟨bracket, outer, after, rfl, .inr form, closes⟩
  next => exact awaits.elim

theorem awaits_of_text {isName : Bool}
    (awaits : ((Skipping.text isName).step brackets char text).Awaits rest char text) :
    (Skipping.text isName).Awaits brackets rest (char :: text) := by
  unfold Skipping.step at awaits
  dsimp only at awaits
  split at awaits
  next isQuote =>
    subst isQuote
    exact ⟨text, .closed text, texted_of_finishText awaits⟩
  next notQuote =>
  split at awaits
  next isBackslash =>
    subst isBackslash
    exact awaits
  next notBackslash =>
  split at awaits
  next => exact awaits.elim
  next printed =>
    obtain ⟨after, quotation, texted⟩ := awaits
    exact ⟨after, .plain notQuote notBackslash (Nat.le_of_not_lt printed) quotation, texted⟩

theorem awaits_of_escape {isName : Bool}
    (awaits : ((escape isName).step brackets char text).Awaits rest char text) :
    (escape isName).Awaits brackets rest (char :: text) := by
  unfold Skipping.step at awaits
  dsimp only at awaits
  split at awaits
  next isNumbered =>
    subst isNumbered
    split at awaits
    next => exact awaits.elim
    next =>
      obtain ⟨digits, start, after, rfl, four, hexadecimal, quotation, texted⟩ := awaits
      obtain ⟨word, digits⟩ := exists_hexWord four hexadecimal start
      exact ⟨after, .numbered digits quotation, texted⟩
  next =>
    split at awaits
    next means =>
      obtain ⟨after, quotation, texted⟩ := awaits
      exact ⟨after, .letter means quotation, texted⟩
    next => exact awaits.elim

theorem awaits_of_hex {isName : Bool} {more : Nat}
    (awaits : ((hex isName more).step brackets char text).Awaits rest char text) :
    (hex isName more).Awaits brackets rest (char :: text) := by
  unfold Skipping.step at awaits
  dsimp only at awaits
  split at awaits
  next => exact awaits.elim
  next isDigit =>
  have hexadecimal : (hexDigit? char).isSome = true := by
    rwa [← Option.not_isNone, Bool.not_eq_true', ← Bool.not_eq_true]
  cases more with
  | zero =>
    obtain ⟨after, quotation, texted⟩ := awaits
    exact ⟨[char], text, after, rfl, rfl, List.forall_mem_singleton.mpr hexadecimal, quotation,
      texted⟩
  | succ more =>
    obtain ⟨digits, start, after, rfl, many, all, quotation, texted⟩ := awaits
    exact ⟨char :: digits, start, after, rfl, congrArg (· + 1) many,
      List.forall_mem_cons.mpr ⟨hexadecimal, all⟩, quotation, texted⟩

theorem awaits_of_word {letters : List Char}
    (awaits : ((word letters).step brackets char text).Awaits rest char text) :
    (word letters).Awaits brackets rest (char :: text) := by
  unfold Skipping.step at awaits
  dsimp only at awaits
  split at awaits
  next => exact awaits.elim
  next letter =>
    split at awaits
    next isLetter =>
      subst isLetter
      exact ⟨text, rfl, closes_of_finish awaits⟩
    next => exact awaits.elim
  next letter letters =>
    split at awaits
    next isLetter =>
      subst isLetter
      obtain ⟨after, rfl, closes⟩ := awaits
      exact ⟨after, rfl, closes⟩
    next => exact awaits.elim

theorem awaits_of_step {state : Skipping}
    (awaits : (state.step brackets char text).Awaits rest char text) :
    state.Awaits brackets rest (char :: text) := by
  cases state with
  | value =>
    unfold Skipping.step at awaits
    dsimp only at awaits
    split at awaits
    next blank =>
      obtain ⟨start, blanks, valued⟩ := awaits
      exact ⟨start, .more blank blanks, valued⟩
    next => exact ⟨_, .none _, valued_of_start awaits⟩
  | opened => exact awaits_of_opened awaits
  | ended => exact closes_of_after awaits
  | name =>
    unfold Skipping.step at awaits
    dsimp only at awaits
    split at awaits
    next blank =>
      obtain ⟨start, after, blanks, quotation, named⟩ := awaits
      exact ⟨start, after, .more blank blanks, quotation, named⟩
    split at awaits
    next isQuote =>
      subst isQuote
      obtain ⟨after, quotation, named⟩ := awaits
      exact ⟨text, after, .none _, quotation, named⟩
    next => exact awaits.elim
  | named =>
    unfold Skipping.step at awaits
    dsimp only at awaits
    split at awaits
    next blank =>
      obtain ⟨space, blanks, spaced⟩ := awaits
      exact ⟨space, .more blank blanks, spaced⟩
    split at awaits
    next isColon =>
      subst isColon
      exact ⟨text, .none _, awaits⟩
    next => exact awaits.elim
  | text isName => exact awaits_of_text awaits
  | escape isName => exact awaits_of_escape awaits
  | hex isName more => exact awaits_of_hex awaits
  | word letters => exact awaits_of_word awaits
  | number position => exact awaits_of_figure awaits

theorem awaits_of_atEnd {state : Skipping} (ends : atEnd brackets state = .ok rest) :
    state.Awaits brackets rest [] := by
  cases state with
  | number position =>
    rw [atEnd] at ends
    cases complete : position.isComplete with
    | false =>
      rw [complete] at ends
      cases ends
    | true =>
      rw [complete] at ends
      cases brackets with
      | nil =>
        cases ends
        exact ⟨[], Figuring.awaits_nothing complete [], rfl⟩
      | cons bracket outer => cases ends
  | _ => cases ends

theorem awaits_of_run {state : Skipping} (runs : run state brackets text = .ok rest) :
    state.Awaits brackets rest text := by
  induction text generalizing state brackets with
  | nil => exact awaits_of_atEnd runs
  | cons char text ih =>
    refine awaits_of_step ?_
    rw [run] at runs
    cases taken : state.step brackets char text with
    | next state brackets =>
      rw [taken] at runs
      exact ih runs
    | last | before =>
      rw [taken] at runs
      cases runs
      rfl
    | refused problem =>
      rw [taken] at runs
      cases runs

end Skipping

theorem wellFormed_of_skip (skipped : skip text = .ok rest) :
    ∃ start, Blanks text start ∧ WellFormed .value start rest := by
  obtain ⟨start, blanks, _, form, rfl⟩ := Skipping.awaits_of_run skipped
  exact ⟨start, blanks, form⟩

end VectorLink.Document
