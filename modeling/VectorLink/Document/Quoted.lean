/-! Texts in quotes, as JSON documents hold them.

Quoting escapes the quote, the backslash and the control characters. Unquoting also takes the
escapes that quoting never writes, and pairs the two halves of a character beyond the basic plane.
-/

set_option autoImplicit false

namespace VectorLink.Document

/-- Why a text is no document of the kind that was looked for. The reader goes from left to right,
and the first problem counts. -/
inductive Problem where
  | endOfText
  | data
  | malformed
  deriving DecidableEq, Repr

def Problem.message : Problem → String
  | endOfText => "json:eof"
  | data => "json:data"
  | malformed => "json:syntax"

def letters : List (Char × Char) :=
  [('"', '"'), ('\\', '\\'), ('b', '\x08'), ('f', '\x0c'), ('n', '\n'), ('r', '\r'), ('t', '\t')]

def escape (char : Char) : List Char :=
  match letters.find? (fun pair => pair.2 = char) with
  | some (letter, _) => ['\\', letter]
  | none =>
    if char.toNat < 0x20 then
      ['\\', 'u', '0', '0', Nat.digitChar (char.toNat / 16), Nat.digitChar (char.toNat % 16)]
    else [char]

def quote (text : String) : List Char := '"' :: text.toList.flatMap escape ++ ['"']

/-! ### Unquoting -/

def hexDigit? (char : Char) : Option Nat :=
  if '0' ≤ char ∧ char ≤ '9' then some (char.toNat - '0'.toNat)
  else if 'a' ≤ char ∧ char ≤ 'f' then some (char.toNat - 'a'.toNat + 10)
  else if 'A' ≤ char ∧ char ≤ 'F' then some (char.toNat - 'A'.toNat + 10)
  else none

def isShort (text : List Char) : Bool := (text.take 4).foldl (fun bytes char => bytes + char.utf8Size) 0 < 4

def hexWord (text : List Char) : Except Problem (Nat × List Char) :=
  if isShort text then .error .endOfText else
    match text with
    | a :: b :: c :: d :: rest =>
      match hexDigit? a, hexDigit? b, hexDigit? c, hexDigit? d with
      | some a, some b, some c, some d => .ok (((a * 16 + b) * 16 + c) * 16 + d, rest)
      | _, _, _, _ => .error .malformed
    | _ => .error .malformed

def isLeading (word : Nat) : Bool := 0xD800 ≤ word && word < 0xDC00

def isTrailing (word : Nat) : Bool := 0xDC00 ≤ word && word < 0xE000

/-- Reads the digits of a character given by number, and those of its second half if it has one. A
half alone is no character. -/
def numbered (text : List Char) : Except Problem (Char × List Char) :=
  match hexWord text with
  | .error problem => .error problem
  | .ok (word, rest) =>
    if isTrailing word then .error .malformed
    else if isLeading word then
      match rest with
      | [] | ['\\'] => .error .endOfText
      | '\\' :: 'u' :: rest =>
        match hexWord rest with
        | .error problem => .error problem
        | .ok (second, rest) =>
          if isTrailing second then
            .ok (Char.ofNat (0x10000 + (word - 0xD800) * 0x400 + (second - 0xDC00)), rest)
          else .error .malformed
      | _ => .error .malformed
    else .ok (Char.ofNat word, rest)

def meaning? (letter : Char) : Option Char :=
  if letter = '/' then some '/' else (letters.find? (fun pair => pair.1 = letter)).map Prod.snd

def escaped : List Char → Except Problem (Char × List Char)
  | [] => .error .endOfText
  | letter :: rest =>
    if letter = 'u' then numbered rest
    else match meaning? letter with
      | some char => .ok (char, rest)
      | none => .error .malformed

theorem length_hexWord {text rest : List Char} {word : Nat}
    (read : hexWord text = .ok (word, rest)) : rest.length ≤ text.length := by
  revert read
  fun_cases hexWord text <;> grind

theorem length_numbered {text rest : List Char} {char : Char}
    (read : numbered text = .ok (char, rest)) : rest.length ≤ text.length := by
  revert read
  fun_cases numbered text <;> grind [→ length_hexWord]

theorem length_escaped {text rest : List Char} {char : Char}
    (read : escaped text = .ok (char, rest)) : rest.length ≤ text.length := by
  revert read
  fun_cases escaped text <;> grind [→ length_numbered]

def unquote (seen : List Char) (text : List Char) : Except Problem (String × List Char) :=
  match text with
  | [] => .error .endOfText
  | '"' :: rest => .ok (.ofList seen.reverse, rest)
  | '\\' :: rest =>
    match _step : escaped rest with
    | .error problem => .error problem
    | .ok (char, rest) => unquote (char :: seen) rest
  | char :: rest =>
    if char.toNat < 0x20 then .error .malformed else unquote (char :: seen) rest
  termination_by text.length
  decreasing_by
    · have := length_escaped _step
      simp only [List.length_cons]
      omega
    · simp

theorem length_unquote {seen text rest : List Char} {value : String}
    (read : unquote seen text = .ok (value, rest)) : rest.length ≤ text.length := by
  revert read
  fun_induction unquote seen text <;> grind [→ length_escaped]

end VectorLink.Document
