import VectorLink.Document.Quoted
import VectorLink.Number.Decimal

/-! Documents and their two printed forms.

The compact form has no blanks. The indented form has one item or member a line; an empty list or
record takes no line of its own.
-/

set_option autoImplicit false

namespace VectorLink

inductive Document where
  | null
  | bool (value : Bool)
  | natural (value : Nat)
  | number (value : Binary64)
  | text (value : String)
  | list (items : List Document)
  | record (members : List (String × Document))
  deriving Repr, Inhabited

namespace Document

def boolText (value : Bool) : List Char := if value then "true".toList else "false".toList

/-- A number that is not finite has no text of its own. -/
def numberText (value : Binary64) : List Char := (Decimal.shortest? value).getD "null".toList

/-! ### The compact form -/

mutual

def compact : Document → List Char
  | null => "null".toList
  | bool value => boolText value
  | natural value => Decimal.digits value
  | number value => numberText value
  | text value => quote value
  | list items => '[' :: compactItems items ++ [']']
  | record members => '{' :: compactMembers members ++ ['}']

def compactItems : List Document → List Char
  | [] => []
  | [item] => compact item
  | item :: next :: rest => compact item ++ ',' :: compactItems (next :: rest)

def compactMembers : List (String × Document) → List Char
  | [] => []
  | [(name, value)] => quote name ++ ':' :: compact value
  | (name, value) :: next :: rest =>
    quote name ++ ':' :: compact value ++ ',' :: compactMembers (next :: rest)

end

def toText (document : Document) : String := .ofList document.compact

/-! ### The indented form -/

def newLine (depth : Nat) : List Char := '\n' :: List.replicate (2 * depth) ' '

mutual

def indented (depth : Nat) : Document → List Char
  | list (item :: rest) =>
    '[' :: indentedItems (depth + 1) (item :: rest) ++ newLine depth ++ [']']
  | record (member :: rest) =>
    '{' :: indentedMembers (depth + 1) (member :: rest) ++ newLine depth ++ ['}']
  | list [] => ['[', ']']
  | record [] => ['{', '}']
  | null => "null".toList
  | bool value => boolText value
  | natural value => Decimal.digits value
  | number value => numberText value
  | text value => quote value

def indentedItems (depth : Nat) : List Document → List Char
  | [] => []
  | [item] => newLine depth ++ indented depth item
  | item :: next :: rest =>
    newLine depth ++ indented depth item ++ ',' :: indentedItems depth (next :: rest)

def indentedMembers (depth : Nat) : List (String × Document) → List Char
  | [] => []
  | [(name, value)] => newLine depth ++ quote name ++ ':' :: ' ' :: indented depth value
  | (name, value) :: next :: rest =>
    newLine depth ++ quote name ++ ':' :: ' ' :: indented depth value ++
      ',' :: indentedMembers depth (next :: rest)

end

def toLines (document : Document) : String := .ofList (document.indented 0)

end Document

end VectorLink
