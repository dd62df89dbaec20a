import VectorLink.Fault
import VectorLink.Wire.LittleEndian
import VectorLink.Wire.Opcode

/-! Requests and the frames they are sent as.

A frame is one command byte, a four byte argument and a payload. Only a select carries its own
length; a vector is as long as the dimension last agreed upon. Vector components are kept as
32-bit patterns, so a frame holds exactly the bits the caller gave.
-/

set_option autoImplicit false

namespace VectorLink

/-- The components of a vector, each the bit pattern of a single-precision number. -/
abbrev Components := List UInt32

def utf8 (text : String) : List UInt8 := text.toByteArray.data.toList

inductive Request where
  | insert (id : UInt32) (vector : Components)
  | search (vector : Components)
  | delete (id : UInt32)
  | select (database : String) (dimension : UInt32)
  | update (id : UInt32) (vector : Components)
  | insertAuto (vector : Components)
  | searchMany (vector : Components) (count : UInt32)
  deriving DecidableEq, Repr

namespace Frame

def headerLength : Nat := 5

def header (opcode : Opcode) (argument : UInt32) : List UInt8 :=
  opcode.code :: LittleEndian.encode 4 argument.toNat

def pack (vector : Components) : List UInt8 :=
  vector.flatMap (fun component => LittleEndian.encode 4 component.toNat)

def withVector (opcode : Opcode) (argument : UInt32) (vector : Components) : List UInt8 :=
  header opcode argument ++ pack vector

/-- The frame that selects a database. A name whose length does not fit the argument field has no
frame. -/
def select (database : String) (dimension : UInt32) : Except Fault (List UInt8) :=
  let length := (utf8 database).length
  if length < UInt32.size then
    .ok (header .select (UInt32.ofNat length) ++ utf8 database ++
      LittleEndian.encode 4 dimension.toNat)
  else
    .error (.badArgument s!"database name is {length} bytes, exceeds u32 length field")

end Frame

namespace Request

def opcode : Request → Opcode
  | insert .. => .insert
  | search _ => .search
  | delete _ => .delete
  | select .. => .select
  | update .. => .update
  | insertAuto _ => .insertAuto
  | searchMany .. => .searchMany

def vector? : Request → Option Components
  | insert _ vector | search vector | update _ vector | insertAuto vector
  | searchMany vector _ => some vector
  | delete _ | select .. => none

def frame : Request → Except Fault (List UInt8)
  | insert id vector => .ok (Frame.withVector .insert id vector)
  | search vector => .ok (Frame.withVector .search 0 vector)
  | delete id => .ok (Frame.header .delete id)
  | select database dimension => Frame.select database dimension
  | update id vector => .ok (Frame.withVector .update id vector)
  | insertAuto vector => .ok (Frame.withVector .insertAuto 0 vector)
  | searchMany vector count => .ok (Frame.withVector .searchMany count vector)

end Request

/-- A vector may be sent only if it has the dimension of the selected database. -/
def Components.checkDimension (vector : Components) (dimension : UInt32) : Except Fault Unit :=
  if vector.length = dimension.toNat then .ok ()
  else .error (.dimensionMismatch dimension.toNat vector.length)

end VectorLink
