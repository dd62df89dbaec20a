import VectorLink.Report.Checklist
import VectorLink.Routine.World

/-! The acceptance run: thirteen checks of a server's behaviour.

A check that fails is recorded and the run goes on; a fault of an exchange ends it without a
report. Two numbers keep runs apart: a suffix that makes one database fresh, and the id that is
worked on there.
-/

set_option autoImplicit false

namespace VectorLink.Acceptance

/-! ### Components used below, as single-precision patterns -/

def zero : UInt32 := 0

def tenth : UInt32 := 0x3dcccccd

def half : UInt32 := 0x3f000000

def nineTenths : UInt32 := 0x3f666666

def one : UInt32 := 0x3f800000

def two : UInt32 := 0x40000000

def five : UInt32 := 0x40a00000

def minusThree : UInt32 := 0xc0400000

def constant (length : Nat) (component : UInt32) : Components := List.replicate length component

/-! ### Steps -/

def connect (address : Address) (database : String) (dimension : UInt32) : Routine Fault Unit :=
  Routine.connect address ⟨database, dimension⟩ Link.standardLimit

def record (list : Checklist) (check : Check) : Routine Fault Checklist := do
  Routine.note check.note
  return list.add check

def recordId (list : Checklist) (name : String) (found expected : Int32) :
    Routine Fault Checklist :=
  record list (.equal name (.integer found.toInt) (.integer expected.toInt))

def boolText (value : Bool) : String := if value then "true" else "false"

def suffixText (suffix : UInt32) : String :=
  let digits := Nat.toDigits 16 suffix.toNat
  .ofList (List.replicate (8 - digits.length) '0' ++ digits)

def proximity (address : Address) (list : Checklist) : Routine Fault Checklist := do
  Routine.inform "validation: vector proximity search" []
  connect address "verify_math" 3
  Routine.insert 10 [one, zero, zero]
  Routine.insert 20 [zero, one, zero]
  Routine.insert 30 [zero, zero, one]
  let found ← Routine.search [nineTenths, tenth, zero]
  let list ← recordId list "search proximity to X axis" found 10
  let found ← Routine.search [tenth, nineTenths, zero]
  let list ← recordId list "search proximity to Y axis" found 20
  Routine.hangUp
  return list

def lifecycle (address : Address) (suffix target : UInt32) (list : Checklist) :
    Routine Fault Checklist := do
  Routine.inform "validation: CRUD lifecycle" []
  connect address ("verify_crud_" ++ suffixText suffix) 4
  Routine.insert target (constant 4 one)
  let found ← Routine.search (constant 4 one)
  let list ← recordId list "insert and retrieve" found target.toInt32
  let updated ← Routine.update target (constant 4 two)
  let list ← record list ⟨"update returned success", updated, s!"id {target.toNat}"⟩
  let found ← Routine.search (constant 4 two)
  let list ← recordId list "search finds updated vector" found target.toInt32
  let deleted ← Routine.delete target
  let list ← record list ⟨"delete returned success", deleted, s!"id {target.toNat}"⟩
  let distractor := target + 1
  Routine.insert distractor (constant 4 five)
  let found ← Routine.search (constant 4 two)
  let list ← record list
    ⟨"deleted id not found", found != target.toInt32, s!"got {found.toInt}"⟩
  let list ← recordId list "search falls back to distractor" found distractor.toInt32
  let assigned ← Routine.insertAuto (constant 4 minusThree)
  let found ← Routine.search (constant 4 minusThree)
  let list ← record list (.equal "auto insert is searchable" (.integer found.toInt)
    (.integer assigned.toInt64.toInt))
  let ranked ← Routine.searchMany (constant 4 zero) 10
  let list ← record list ⟨"search_n respects requested count", ranked.length ≤ 10,
    s!"got {ranked.length} ids"⟩
  Routine.hangUp
  return list

/-- The check of a search whose vector has the wrong dimension: it has to fail before anything is
sent. -/
def mismatch : Except Fault Int32 → Check
  | .error (.dimensionMismatch expected actual) =>
    ⟨"dimension mismatch blocked", true, s!"expected {expected}, actual {actual}"⟩
  | .error fault => ⟨"dimension mismatch blocked", false, s!"Err({fault.shown})"⟩
  | .ok found => ⟨"dimension mismatch blocked", false, s!"Ok({found.toInt})"⟩

def attempt {α : Type} (routine : Routine Fault α) : Routine Fault (Except Fault α) := fun world =>
  let (result, world) := routine world
  (.ok result, world)

def isolation (address : Address) (list : Checklist) : Routine Fault Checklist := do
  Routine.inform "validation: multi-tenant isolation" []
  connect address "verify_iso_tiny" 2
  Routine.insert 1 (constant 2 one)
  Routine.hangUp
  connect address "verify_iso_huge" 10
  let result ← attempt (Routine.search (constant 2 one))
  let list ← record list (mismatch result)
  let updated ← Routine.update 99999 (constant 10 zero)
  let list ← record list
    ⟨"strict update on missing id returns false", !updated, s!"got {boolText updated}"⟩
  Routine.hangUp
  return list

/-- How long the server is left alone before the last check, in milliseconds. -/
def rest : Nat := 500

def persistence (address : Address) (list : Checklist) : Routine Fault Checklist := do
  Routine.inform "validation: persistence across reconnect" []
  connect address "verify_persist" 3
  Routine.insert 777 (constant 3 half)
  Routine.hangUp
  Routine.wait rest
  connect address "verify_persist" 3
  let found ← Routine.search (constant 3 half)
  let list ← recordId list "data survived reconnection" found 777
  Routine.hangUp
  return list

def run (address : Address) (suffix target : UInt32) : Routine Fault Checklist := do
  let list ← proximity address .empty
  let list ← lifecycle address suffix target list
  let list ← isolation address list
  persistence address list

end VectorLink.Acceptance
