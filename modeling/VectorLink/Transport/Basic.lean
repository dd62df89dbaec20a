import VectorLink.Transport.Event

/-! A transport: the scripts of its four kinds of call, its clock, and the history of what was done
with it.

The history lets one say afterwards which bytes the transport accepted, in which order the calls
came, and how much each read was ready to take.
-/

set_option autoImplicit false

namespace VectorLink

inductive Delivery where
  | data (bytes : List UInt8)
  | endOfStream
  deriving DecidableEq, Repr

def Delivery.isEmptyData : Delivery → Bool
  | data [] => true
  | _ => false

inductive Act where
  | wrote (bytes : List UInt8)
  | flushed
  /-- A read was issued for the last `window` bytes of a buffer `buffer` bytes long. -/
  | asked (buffer window : Nat)
  | received (bytes : List UInt8)
  | shutDown
  deriving DecidableEq, Repr

structure Transport where
  reads : List (Event Delivery)
  /-- Answered by the number of bytes that a write may take. -/
  writes : List (Event Nat)
  flushes : List (Event Unit)
  shutdowns : List (Event Unit)
  /-- The most bytes that one read brings. -/
  chunk : Option Nat
  /-- The milliseconds spent waiting. -/
  clock : Nat
  /-- All acts, latest first. -/
  history : List Act
  deriving DecidableEq, Repr

namespace Transport

def ofReads (reads : List (Event Delivery)) : Transport :=
  ⟨reads, [], [], [], none, 0, []⟩

def note (transport : Transport) (act : Act) : Transport :=
  { transport with history := act :: transport.history }

def writtenIn : List Act → List UInt8
  | [] => []
  | .wrote bytes :: earlier => writtenIn earlier ++ bytes
  | _ :: earlier => writtenIn earlier

def written (transport : Transport) : List UInt8 := writtenIn transport.history

end Transport

inductive Ending (ε α : Type) where
  | done (value : α)
  | failed (error : ε)
  /-- The deadline passed first. -/
  | waiting
  deriving DecidableEq, Repr

/-- Dealings with a transport under a deadline. Whatever the ending, the transport keeps what was
done to it. -/
def Activity (ε α : Type) := Deadline → Transport → Ending ε α × Transport

namespace Activity

variable {ε ε' α β : Type}

protected def pure (value : α) : Activity ε α := fun _ transport => (.done value, transport)

protected def bind (first : Activity ε α) (next : α → Activity ε β) : Activity ε β :=
  fun deadline transport =>
    match first deadline transport with
    | (.done value, transport) => next value deadline transport
    | (.failed error, transport) => (.failed error, transport)
    | (.waiting, transport) => (.waiting, transport)

instance : Monad (Activity ε) where
  pure := Activity.pure
  bind := Activity.bind

def fail (error : ε) : Activity ε α := fun _ transport => (.failed error, transport)

def ofExcept : Except ε α → Activity ε α
  | .ok value => pure value
  | .error error => fail error

def mapError (restate : ε → ε') (activity : Activity ε α) : Activity ε' α :=
  fun deadline transport =>
    match activity deadline transport with
    | (.done value, transport) => (.done value, transport)
    | (.failed error, transport) => (.failed (restate error), transport)
    | (.waiting, transport) => (.waiting, transport)

end Activity

namespace Transport

def write (offered : List UInt8) : Activity IoFault Nat := fun deadline transport =>
  let meeting := Event.meet (fun _ => false) deadline transport.clock transport.writes
  let after := { transport with writes := meeting.rest, clock := meeting.clock }
  match meeting.encounter with
  | .answer most => (.done (min most offered.length), after.note (.wrote (offered.take most)))
  | .exhausted => (.done offered.length, after.note (.wrote offered))
  | .failure cause => (.failed cause, after)
  | .waiting => (.waiting, after)

def flush : Activity IoFault Unit := fun deadline transport =>
  let meeting := Event.meet (fun _ => false) deadline transport.clock transport.flushes
  let after := { transport with flushes := meeting.rest, clock := meeting.clock }.note .flushed
  match meeting.encounter with
  | .answer _ | .exhausted => (.done (), after)
  | .failure cause => (.failed cause, after)
  | .waiting => (.waiting, after)

def shutdown : Activity IoFault Unit := fun deadline transport =>
  let meeting := Event.meet (fun _ => false) deadline transport.clock transport.shutdowns
  let after := { transport with shutdowns := meeting.rest, clock := meeting.clock }.note .shutDown
  match meeting.encounter with
  | .answer _ | .exhausted => (.done (), after)
  | .failure cause => (.failed cause, after)
  | .waiting => (.waiting, after)

def reach (transport : Transport) (window : Nat) : Nat :=
  match transport.chunk with
  | none => window
  | some chunk => min window (max chunk 1)

/-- One read call for the last `window` bytes of a buffer of `buffer` bytes. No byte means the end
of the stream. A read never joins two deliveries, and what it leaves of one stays in front. -/
def read (buffer window : Nat) : Activity IoFault (List UInt8) := fun deadline transport =>
  let meeting := Event.meet Delivery.isEmptyData deadline transport.clock transport.reads
  let after := { transport with reads := meeting.rest, clock := meeting.clock }.note
    (.asked buffer window)
  match meeting.encounter with
  | .answer (.data bytes) =>
    let reach := transport.reach window
    let after := match bytes.drop reach with
      | [] => after
      | left => { after with reads := .answer (.data left) :: meeting.rest }
    (.done (bytes.take reach), after.note (.received (bytes.take reach)))
  | .answer .endOfStream | .exhausted => (.done [], after.note (.received []))
  | .failure cause => (.failed cause, after)
  | .waiting => (.waiting, after)

end Transport

end VectorLink
