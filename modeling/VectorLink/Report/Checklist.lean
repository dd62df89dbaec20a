import VectorLink.Document.Basic
import VectorLink.Note
import VectorLink.Text.Literal

/-! A list of checks and how many of them passed. -/

set_option autoImplicit false

namespace VectorLink

structure Check where
  name : String
  passed : Bool
  detail : String
  deriving DecidableEq, Repr

inductive Checked where
  | integer (value : Int)
  | bool (value : Bool)
  | text (value : String)
  | integers (values : List Int)
  | optional (value : Option Int)
  deriving DecidableEq, Repr

def Checked.shown : Checked → String
  | integer value => toString value
  | bool value => if value then "true" else "false"
  | text value => Text.literal value
  | integers values => "[" ++ ", ".intercalate (values.map toString) ++ "]"
  | optional (some value) => s!"Some({value})"
  | optional none => "None"

namespace Check

def equal (name : String) (actual expected : Checked) : Check :=
  if actual = expected then ⟨name, true, s!"got {actual.shown}"⟩
  else ⟨name, false, s!"expected {expected.shown}, got {actual.shown}"⟩

def note (check : Check) : Note :=
  let fields := [("check", check.name), ("detail", check.detail)]
  if check.passed then ⟨.info, "PASS", fields⟩ else ⟨.error, "FAIL", fields⟩

def document (check : Check) : Document :=
  .record [("name", .text check.name), ("passed", .bool check.passed),
    ("detail", .text check.detail)]

def line (check : Check) : String :=
  let tag := if check.passed then "PASS" else "FAIL"
  s!"   [{tag}] {check.name} ({check.detail})"

end Check

structure Checklist where
  passed : Nat
  failed : Nat
  checks : List Check
  deriving DecidableEq, Repr

namespace Checklist

def empty : Checklist := ⟨0, 0, []⟩

instance : Inhabited Checklist := ⟨empty⟩

def add (list : Checklist) (check : Check) : Checklist :=
  { passed := list.passed + if check.passed then 1 else 0
    failed := list.failed + if check.passed then 0 else 1
    checks := list.checks ++ [check] }

def isSuccess (list : Checklist) : Bool := list.failed = 0

def document (list : Checklist) : Document :=
  .record [("passed", .natural list.passed), ("failed", .natural list.failed),
    ("checks", .list (list.checks.map Check.document))]

def rule : String := "========================================"

def lines (list : Checklist) : List String :=
  list.checks.map Check.line ++
    ["", rule, s!"   TEST SUMMARY: {list.passed} Passed, {list.failed} Failed", rule]

end Checklist

end VectorLink
