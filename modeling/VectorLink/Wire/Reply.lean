import VectorLink.Fault
import VectorLink.Wire.LittleEndian

/-! Reply fields and what they mean.

A reply has no header: which fields follow a request depends on the request alone, except that the
length of a ranking is its leading count times the width of an id.
-/

set_option autoImplicit false

namespace VectorLink.Reply

def ackLength : Nat := 1

def nearestLength : Nat := 4

def assignedLength : Nat := 8

def countLength : Nat := 4

def idLength : Nat := 4

/-- The status byte `'1'` reports success, any other failure. -/
def status (byte : UInt8) : Bool := byte = 0x31

def nearest (bytes : List UInt8) : Int32 := (UInt32.ofNat (LittleEndian.decode bytes)).toInt32

def assigned (bytes : List UInt8) : UInt64 := UInt64.ofNat (LittleEndian.decode bytes)

/-- The announced number of ids. A server may send fewer than asked for, never more. -/
def count (bytes : List UInt8) (requested : UInt32) : Except Fault UInt32 :=
  let announced := UInt32.ofNat (LittleEndian.decode bytes)
  if announced ≤ requested then .ok announced
  else .error (.violation
    s!"search_n returned {announced.toNat} results, requested at most {requested.toNat}")

def rankingLength (count : UInt32) : Nat := count.toNat * idLength

/-- Reads ids off the front in groups of four bytes, in front of which stand those already read,
latest first. -/
def groupIds : List Int32 → List UInt8 → List Int32
  | read, a :: b :: c :: d :: rest => groupIds (nearest [a, b, c, d] :: read) rest
  | read, _ => read.reverse

def ranking (bytes : List UInt8) : Except Fault (List Int32) :=
  if bytes.length % idLength = 0 then .ok (groupIds [] bytes)
  else .error (.violation
    s!"id list of {bytes.length} bytes is not a multiple of {idLength}")

end VectorLink.Reply
