/-! The commands of the protocol and the byte that opens the frame of each. -/

set_option autoImplicit false

namespace VectorLink

inductive Opcode where
  | insert
  | search
  | delete
  | select
  | update
  | insertAuto
  | searchMany
  deriving DecidableEq, Repr

namespace Opcode

def code : Opcode → UInt8
  | insert => 1
  | search => 2
  | delete => 3
  | select => 4
  | update => 5
  | insertAuto => 6
  | searchMany => 7

def label : Opcode → String
  | insert => "insert"
  | search => "search"
  | delete => "delete"
  | select => "select_db"
  | update => "update"
  | insertAuto => "insert_auto"
  | searchMany => "search_n"

def all : List Opcode := [insert, search, delete, select, update, insertAuto, searchMany]

def ofCode? (code : UInt8) : Option Opcode := all.find? (fun opcode => opcode.code = code)

def ofLabel? (label : String) : Option Opcode := all.find? (fun opcode => opcode.label = label)

@[simp] theorem ofCode?_code (opcode : Opcode) : ofCode? opcode.code = some opcode := by
  cases opcode <;> decide

end Opcode

end VectorLink
