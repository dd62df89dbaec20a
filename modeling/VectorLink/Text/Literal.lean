import VectorLink.Text.Invisible

/-! Texts written as literals, so that every character can be seen. -/

set_option autoImplicit false

namespace VectorLink.Text

def numbered (char : Char) : List Char :=
  '\\' :: 'u' :: '\x7b' :: Nat.toDigits 16 char.toNat ++ ['\x7d']

def literalChar (char : Char) : List Char :=
  match char with
  | '\x00' => ['\\', '0']
  | '\t' => ['\\', 't']
  | '\r' => ['\\', 'r']
  | '\n' => ['\\', 'n']
  | '\\' => ['\\', '\\']
  | '"' => ['\\', '"']
  | char => if isInvisible char then numbered char else [char]

/-- A text as a literal: in quotes, and escaped where it would not be seen. -/
def literal (text : String) : String :=
  .ofList ('"' :: text.toList.flatMap literalChar ++ ['"'])

end VectorLink.Text
