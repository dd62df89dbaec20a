import VectorLink.Link.Line

/-! Routines: dealings with a network, one link at a time.

The network is a script like those of a transport. An attempt to connect meets a socket, a
failure or a wait on it, and nothing where it has come to its end. A routine works on the link it
made last; whatever it did to that one and to those before it is kept, also when the routine fails.
-/

set_option autoImplicit false

namespace VectorLink

/-- What attempts to connect meet, in order. -/
abbrev Network := List (Event Socket)

structure World where
  network : Network
  lines : List Line
  clock : Nat
  log : List Note
  deriving DecidableEq, Repr

namespace World

def ofNetwork (network : Network) : World := ⟨network, [], 0, []⟩

def links (world : World) : List Link := world.lines.map Line.link

def notes (world : World) : List Note := world.log.reverse

def note (world : World) (note : Note) : World := { world with log := note :: world.log }

/-- The world after a call that began on a transport at this moment of its clock: the waits of the
call have passed here too, and its line is the latest. -/
def advance {α : Type} (world : World) (others : List Line) (began : Nat) (call : Completed α) :
    World :=
  { world with
    lines := call.line :: others
    clock := world.clock + (call.line.link.transport.clock - began)
    log := call.notes.reverse ++ world.log }

end World

/-- A routine: it ends with a value or an error, and leaves a world. -/
def Routine (ε α : Type) := World → Except ε α × World

namespace Routine

variable {ε ε' α β : Type}

protected def pure (value : α) : Routine ε α := fun world => (.ok value, world)

protected def bind (first : Routine ε α) (next : α → Routine ε β) : Routine ε β := fun world =>
  match first world with
  | (.ok value, world) => next value world
  | (.error error, world) => (.error error, world)

instance : Monad (Routine ε) where
  pure := Routine.pure
  bind := Routine.bind

def fail (error : ε) : Routine ε α := fun world => (.error error, world)

def mapError (restate : ε → ε') (routine : Routine ε α) : Routine ε' α := fun world =>
  match routine world with
  | (.ok value, world) => (.ok value, world)
  | (.error error, world) => (.error (restate error), world)

def note (note : Note) : Routine ε Unit := fun world => (.ok (), world.note note)

def inform (text : String) (fields : List (String × String)) : Routine ε Unit :=
  note ⟨.info, text, fields⟩

def now : Routine ε Nat := fun world => (.ok world.clock, world)

def wait (millis : Nat) : Routine ε Unit := fun world =>
  (.ok (), { world with clock := world.clock + millis })

def establish (socket : Socket) (address : Address) (selection : Selection) (limit : Span) :
    Routine Fault Unit := fun world =>
  let call := socket.establish address selection limit
  (call.result, world.advance world.lines socket.transport.clock call)

/-- Connects to an address and selects a database. The time limit holds for each of the two. -/
def connect (address : Address) (selection : Selection) (limit : Span) : Routine Fault Unit :=
  fun world =>
    let world := world.note ⟨.debug, "connecting", [("endpoint", address.text)]⟩
    let meeting := Event.meet (fun _ => false) (some (world.clock + limit.ticks)) world.clock
      world.network
    let world := { world with network := meeting.rest, clock := meeting.clock }
    match meeting.encounter with
    | .answer socket => establish socket address selection limit world
    | .failure cause => (.error (.unreachable address.text cause), world)
    | .exhausted => (.error (.unreachable address.text .noRoute), world)
    | .waiting => (.error (.timeout limit), world)

def ask (request : Request) : Routine Fault request.Answer := fun world =>
  match world.lines with
  | [] => (.error .linkClosed, world)
  | line :: others =>
    let call := line.exchange request
    (call.result, world.advance others line.link.transport.clock call)

/-- Closes the link made last. What its shutdown comes to is not told. -/
def hangUp : Routine ε Unit := fun world =>
  match world.lines with
  | [] => (.ok (), world)
  | line :: others =>
    (.ok (), world.advance others line.link.transport.clock line.close)

def insert (id : UInt32) (vector : Components) : Routine Fault Unit := ask (.insert id vector)

def insertAuto (vector : Components) : Routine Fault UInt64 := ask (.insertAuto vector)

def update (id : UInt32) (vector : Components) : Routine Fault Bool := ask (.update id vector)

def delete (id : UInt32) : Routine Fault Bool := ask (.delete id)

def search (vector : Components) : Routine Fault Int32 := ask (.search vector)

def searchMany (vector : Components) (count : UInt32) : Routine Fault (List Int32) :=
  ask (.searchMany vector count)

def select (database : String) (dimension : UInt32) : Routine Fault Unit :=
  ask (.select database dimension)

end Routine

end VectorLink
