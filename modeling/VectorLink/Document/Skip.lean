import VectorLink.Document.Scalar

/-! Passing over a value that nobody looks at.

Only its form counts. One machine reads character by character and keeps the brackets still open
on a stack, so depth costs nothing; numbers may have any size, and halves of characters need no
partner.
-/

set_option autoImplicit false

namespace VectorLink.Document

inductive Bracket where
  | list
  | record
  deriving DecidableEq, Repr

def Bracket.closing : Bracket → Char
  | list => ']'
  | record => '}'

/-- Where in a number the machine stands. -/
inductive Figuring where
  | signed
  | zero
  | whole
  | pointed
  | fraction
  | marked
  | markSigned
  | exponent
  deriving DecidableEq, Repr

def Figuring.isComplete : Figuring → Bool
  | zero | whole | fraction | exponent => true
  | signed | pointed | marked | markSigned => false

/-- What the machine is in the middle of. -/
inductive Skipping where
  | value
  | opened
  | ended
  | name
  | named
  | text (isName : Bool)
  | escape (isName : Bool)
  | hex (isName : Bool) (more : Nat)
  | word (letters : List Char)
  | number (position : Figuring)
  deriving DecidableEq, Repr

inductive Skipped where
  | next (state : Skipping) (brackets : List Bracket)
  | last
  | before
  | refused (problem : Problem)
  deriving DecidableEq, Repr

namespace Skipping

def finish : List Bracket → Skipped
  | [] => .last
  | brackets => .next ended brackets

def start (brackets : List Bracket) (char : Char) : Skipped :=
  match char with
  | '"' => .next (text false) brackets
  | '[' => .next opened (.list :: brackets)
  | '{' => .next opened (.record :: brackets)
  | 'n' => .next (word "ull".toList) brackets
  | 't' => .next (word "rue".toList) brackets
  | 'f' => .next (word "alse".toList) brackets
  | '-' => .next (number .signed) brackets
  | '0' => .next (number .zero) brackets
  | _ => if char.isDigit then .next (number .whole) brackets else .refused .malformed

def startWithin (brackets : List Bracket) (char : Char) : Skipped :=
  match brackets with
  | .record :: _ => if char = '"' then .next (text true) brackets else .refused .malformed
  | _ => start brackets char

def after (brackets : List Bracket) (char : Char) : Skipped :=
  match brackets with
  | [] => .before
  | bracket :: outer =>
    if isBlank char then .next ended brackets
    else if char = ',' then
      .next (match bracket with
        | .list => value
        | .record => name) brackets
    else if char = bracket.closing then finish outer
    else .refused .malformed

def figure (brackets : List Bracket) (char : Char) : Figuring → Skipped
  | .signed =>
    if char = '0' then .next (number .zero) brackets
    else if char.isDigit then .next (number .whole) brackets
    else .refused .malformed
  | .zero =>
    if char.isDigit then .refused .malformed
    else if char = '.' then .next (number .pointed) brackets
    else if char = 'e' ∨ char = 'E' then .next (number .marked) brackets
    else after brackets char
  | .whole =>
    if char.isDigit then .next (number .whole) brackets
    else if char = '.' then .next (number .pointed) brackets
    else if char = 'e' ∨ char = 'E' then .next (number .marked) brackets
    else after brackets char
  | .pointed => if char.isDigit then .next (number .fraction) brackets else .refused .malformed
  | .fraction =>
    if char.isDigit then .next (number .fraction) brackets
    else if char = 'e' ∨ char = 'E' then .next (number .marked) brackets
    else after brackets char
  | .marked =>
    if char = '+' ∨ char = '-' then .next (number .markSigned) brackets
    else if char.isDigit then .next (number .exponent) brackets
    else .refused .malformed
  | .markSigned => if char.isDigit then .next (number .exponent) brackets else .refused .malformed
  | .exponent =>
    if char.isDigit then .next (number .exponent) brackets else after brackets char

def finishText (isName : Bool) (brackets : List Bracket) : Skipped :=
  if isName then .next named brackets else finish brackets

/-- Takes one character, `rest` being all that follow. -/
def step (state : Skipping) (brackets : List Bracket) (char : Char) (rest : List Char) : Skipped :=
  match state with
  | value => if isBlank char then .next value brackets else start brackets char
  | opened =>
    if isBlank char then .next opened brackets
    else match brackets with
      | bracket :: outer =>
        if char = bracket.closing then finish outer else startWithin brackets char
      | [] => .refused .malformed
  | ended => after brackets char
  | name =>
    if isBlank char then .next name brackets
    else if char = '"' then .next (text true) brackets
    else .refused .malformed
  | named =>
    if isBlank char then .next named brackets
    else if char = ':' then .next value brackets
    else .refused .malformed
  | text isName =>
    if char = '"' then finishText isName brackets
    else if char = '\\' then .next (escape isName) brackets
    else if char.toNat < 0x20 then .refused .malformed
    else .next (text isName) brackets
  | escape isName =>
    if char = 'u' then
      if isShort rest then .refused .endOfText else .next (hex isName 3) brackets
    else if (meaning? char).isSome then .next (text isName) brackets
    else .refused .malformed
  | hex isName more =>
    if (hexDigit? char).isNone then .refused .malformed
    else match more with
      | 0 => .next (text isName) brackets
      | more + 1 => .next (hex isName more) brackets
  | word letters =>
    match letters with
    | [] => .refused .malformed
    | [letter] => if char = letter then finish brackets else .refused .malformed
    | letter :: letters => if char = letter then .next (word letters) brackets else .refused .malformed
  | number position => figure brackets char position

def atEnd (brackets : List Bracket) : Skipping → Except Problem (List Char)
  | number position =>
    if !position.isComplete then .error .malformed
    else if brackets.isEmpty then .ok []
    else .error .endOfText
  | _ => .error .endOfText

theorem eq_nil_of_atEnd {brackets : List Bracket} {state : Skipping} {rest : List Char}
    (done : atEnd brackets state = .ok rest) : rest = [] := by
  revert done
  fun_cases atEnd brackets state <;> simp_all

def run (state : Skipping) (brackets : List Bracket) : List Char → Except Problem (List Char)
  | [] => atEnd brackets state
  | char :: rest =>
    match state.step brackets char rest with
    | .next state brackets => run state brackets rest
    | .last => .ok rest
    | .before => .ok (char :: rest)
    | .refused problem => .error problem

theorem length_run {state : Skipping} {brackets : List Bracket} {text rest : List Char}
    (done : run state brackets text = .ok rest) : rest.length ≤ text.length := by
  revert done
  fun_induction run state brackets text <;> grind [→ eq_nil_of_atEnd]

end Skipping

def skip (text : List Char) : Except Problem (List Char) := Skipping.value.run [] text

end VectorLink.Document
