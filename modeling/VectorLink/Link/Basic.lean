import VectorLink.Address
import VectorLink.Link.Phase
import VectorLink.Note
import VectorLink.Transport.Whole
import VectorLink.Wire.Reply
import VectorLink.Wire.Request

/-! A link: one transport, bound to one database at a time.

The protocol is half-duplex. A request writes one frame and then reads exactly the reply it is
owed; a failure after the frame was begun costs the link. A caller may also walk away from a
request while it waits. What was written stays written, and the phase keeps the fact that a reply
may still be on its way.
-/

set_option autoImplicit false

namespace VectorLink

inductive Custody where
  | held
  | shutDown
  | dropped
  deriving DecidableEq, Repr

structure Link where
  address : Address
  selection : Selection
  phase : Phase
  limit : Span
  /-- The state of the transport, also after its release. -/
  transport : Transport
  custody : Custody
  deriving DecidableEq, Repr

namespace Link

def standardLimit : Span := .ofSeconds 30

def isReady (link : Link) : Bool := link.phase = .ready

def discard (link : Link) : Link := { link with phase := .closed, custody := .dropped }

end Link

inductive Patience where
  /-- The call is dropped before it begins. -/
  | never
  /-- The call is dropped if it still waits after this many milliseconds. -/
  | upTo (millis : Nat)
  | unbounded
  deriving DecidableEq, Repr

inductive Outcome (α : Type) where
  | answered (value : α)
  | failed (fault : Fault)
  | abandoned
  deriving DecidableEq, Repr

structure Turn (α : Type) where
  outcome : Outcome α
  link : Link
  notes : List Note
  deriving DecidableEq, Repr

namespace Turn

def still {α : Type} (outcome : Outcome α) (link : Link) : Turn α := ⟨outcome, link, []⟩

end Turn

namespace Request

def Answer : Request → Type
  | insert .. | select .. => Unit
  | search _ => Int32
  | delete _ | update .. => Bool
  | insertAuto _ => UInt64
  | searchMany .. => List Int32

def field (length : Nat) : Activity Fault (List UInt8) :=
  Activity.mapError (Shortage.fault length) (Transport.readField length)

def statusField : Activity Fault Bool := do
  let bytes ← field 1
  return bytes.any Reply.status

/-- A server that closes instead of acknowledging a select has rejected it. -/
def acknowledgement (database : String) : Activity Fault Unit :=
  Activity.mapError
    (fun
      | .ended 0 => .rejected database
      | shortage => shortage.fault Reply.ackLength)
    (do
      let _ ← Transport.readField Reply.ackLength
      return ())

def ranking (requested : UInt32) : Activity Fault (List Int32) := do
  let leading ← field Reply.countLength
  let count ← Activity.ofExcept (Reply.count leading requested)
  if count = 0 then return []
  let length := Reply.rankingLength count
  let body ← Activity.mapError (Shortage.fault length) (Transport.readWhole length)
  Activity.ofExcept (Reply.ranking body)

def reply : (request : Request) → Activity Fault request.Answer
  | insert .. => do
    let _ ← field Reply.ackLength
    return ()
  | search _ => do
    let bytes ← field Reply.nearestLength
    return Reply.nearest bytes
  | delete _ => statusField
  | select database _ => acknowledgement database
  | update .. => statusField
  | insertAuto _ => do
    let bytes ← field Reply.assignedLength
    return Reply.assigned bytes
  | searchMany _ count => ranking count

def converse (request : Request) (frame : List UInt8) : Activity Fault request.Answer := do
  Transport.deliver frame
  request.reply

def busyPhase : Request → Phase
  | select .. => .handshaking
  | _ => .inFlight

def selectionAfter (selection : Selection) : Request → Selection
  | select database dimension => ⟨database, dimension⟩
  | _ => selection

def frameFor (request : Request) (selection : Selection) : Except Fault (List UInt8) := do
  if let some vector := request.vector? then
    Components.checkDimension vector selection.dimension
  request.frame

def startNote (request : Request) (frame : List UInt8) : Note :=
  match request with
  | select database dimension =>
    ⟨.debug, "sending handshake",
      [("database", database), ("dimension", toString dimension.toNat)]⟩
  | _ =>
    ⟨.debug, "sending frame",
      [("command", request.opcode.label), ("bytes", toString frame.length)]⟩

def endNotes (request : Request) (address : Address) : List Note :=
  let received : Note := ⟨.debug, "response received", [("command", request.opcode.label)]⟩
  match request with
  | select database dimension =>
    [received, ⟨.info, "database selected",
      [("endpoint", address.text), ("database", database),
        ("dimension", toString dimension.toNat)]⟩]
  | _ => [received]

def failureNote (request : Request) (address : Address) (fault : Fault) : Note :=
  ⟨.warn, "request failed; closing connection",
    [("endpoint", address.text), ("command", request.opcode.label), ("error", fault.message)]⟩

end Request

end VectorLink
