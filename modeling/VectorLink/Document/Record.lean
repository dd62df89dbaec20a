import VectorLink.Document.Skip

/-! Records with known members.

A record is written with its members in any order, others in between, or as a list of its values
in the order of declaration. What becomes of members that are left out is for the caller to say.
-/

set_option autoImplicit false

namespace VectorLink.Document

structure Slot where
  name : String
  kind : Kind
  held : Option Scalar
  deriving DecidableEq, Repr

def Slot.empty (name : String) (kind : Kind) : Slot := ⟨name, kind, none⟩

def put (slots : List Slot) (name : String) (value : Scalar) : List Slot :=
  slots.map fun slot => if slot.name = name then { slot with held := some value } else slot

def colon (text : List Char) : Except Problem (List Char) :=
  match dropBlanks text with
  | [] => .error .endOfText
  | ':' :: rest => .ok (dropBlanks rest)
  | _ => .error .malformed

def readMember (slots : List Slot) (name : String) (text : List Char) :
    Except Problem (List Slot × List Char) :=
  match slots.find? (fun slot => slot.name = name) with
  | none =>
    match colon text with
    | .error problem => .error problem
    | .ok text =>
      match skip text with
      | .error problem => .error problem
      | .ok rest => .ok (slots, rest)
  | some slot =>
    if slot.held.isSome then .error .data
    else match colon text with
      | .error problem => .error problem
      | .ok text =>
        match slot.kind.read text with
        | .error problem => .error problem
        | .ok (value, rest) => .ok (put slots name value, rest)

theorem length_colon {text rest : List Char} (read : colon text = .ok rest) :
    rest.length ≤ text.length := by
  revert read
  fun_cases colon text <;> grind [length_dropBlanks]

theorem length_skip {text rest : List Char} (read : skip text = .ok rest) :
    rest.length ≤ text.length := Skipping.length_run read

theorem length_readMember {slots after : List Slot} {name : String} {text rest : List Char}
    (read : readMember slots name text = .ok (after, rest)) : rest.length ≤ text.length := by
  revert read
  fun_cases readMember slots name text <;>
    grind [→ length_colon, → length_skip, → Kind.length_read]

def readMembers (slots : List Slot) (text : List Char) : Except Problem (List Slot × List Char) :=
  match text with
  | [] => .error .endOfText
  | '"' :: rest =>
    match _name : unquote [] rest with
    | .error problem => .error problem
    | .ok (name, afterName) =>
      match _member : readMember slots name afterName with
      | .error problem => .error problem
      | .ok (slots, afterMember) =>
        match _next : dropBlanks afterMember with
        | [] => .error .endOfText
        | '}' :: rest => .ok (slots, rest)
        | ',' :: rest => readMembers slots (dropBlanks rest)
        | _ => .error .malformed
  | _ => .error .malformed
  termination_by text.length
  decreasing_by
    have := length_unquote _name
    have := length_readMember _member
    have shorter := length_dropBlanks afterMember
    rw [_next] at shorter
    have := length_dropBlanks (List.tail (',' :: rest))
    simp only [List.length_cons, List.tail_cons] at *
    omega

/-- Reads the values of the slots in order, with commas in between, and the closing bracket. The
list may be cut short. -/
def readItems (first : Bool) : List Slot → List Char → Except Problem (List Slot × List Char)
  | [], input =>
    match dropBlanks input with
    | [] => .error .endOfText
    | ']' :: rest => .ok ([], rest)
    | _ => .error .malformed
  | slot :: slots, input =>
    match dropBlanks input with
    | [] => .error .endOfText
    | ']' :: rest => .ok (slot :: slots, rest)
    | char :: rest => do
      if !first && char != ',' then throw .malformed
      let input := if first then char :: rest else dropBlanks rest
      if input.head? = some ']' then throw .malformed
      let (value, rest) ← slot.kind.read input
      let (slots, rest) ← readItems false slots rest
      return ({ slot with held := some value } :: slots, rest)

def readSlots (slots : List Slot) (text : List Char) : Except Problem (List Slot × List Char) :=
  match text with
  | '[' :: rest => readItems true slots rest
  | '{' :: rest =>
    match dropBlanks rest with
    | '}' :: rest => .ok (slots, rest)
    | rest => readMembers slots rest
  | other => .error (refusal other)

def readRecord {α : Type} (slots : List Slot) (build : List (Option Scalar) → Option α)
    (text : List Char) : Except Problem (α × List Char) :=
  match readSlots slots text with
  | .error problem => .error problem
  | .ok (slots, rest) =>
    match build (slots.map Slot.held) with
    | some value => .ok (value, rest)
    | none => .error .data

def readKey {α : Type} (ofKey? : String → Option α) (text : List Char) :
    Except Problem (α × List Char) :=
  match text with
  | [] => .error .endOfText
  | '"' :: rest => do
    let (key, rest) ← unquote [] rest
    match ofKey? key with
    | some value => return (value, rest)
    | none => throw .data
  | _ => .error .malformed

/-- Reads one value of an enumeration: its name, or a record whose only member has that name and
holds nothing. -/
def readChoice {α : Type} (ofKey? : String → Option α) (text : List Char) :
    Except Problem (α × List Char) :=
  match text with
  | '{' :: rest => do
    let (value, rest) ← readKey ofKey? (dropBlanks rest)
    let text ← colon rest
    let rest ← match text with
      | 'n' :: rest => word "ull".toList rest
      | other => throw (refusal other)
    match dropBlanks rest with
    | '}' :: rest => return (value, rest)
    | [] => throw .endOfText
    | _ => throw .malformed
  | text => readKey ofKey? text

def parse {α : Type} (read : List Char → Except Problem (α × List Char)) (text : String) :
    Except Problem α := do
  let (value, rest) ← read (dropBlanks text.toList)
  if (dropBlanks rest).isEmpty then return value else throw .malformed

end VectorLink.Document
