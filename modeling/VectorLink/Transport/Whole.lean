import VectorLink.Transport.Basic

/-! Whole frames out, whole fields in.

A transport may take a frame in pieces and may cut a reply wherever it likes. `writeWhole` repeats
writes until everything is taken; `readField` and `readWhole` repeat reads until a known number of
bytes has arrived, and report how many had come when the stream ended first.
-/

set_option autoImplicit false

namespace VectorLink

inductive Shortage where
  /-- The stream ended, or the peer went away, after this many bytes. -/
  | ended (received : Nat)
  | broken (cause : IoFault)
  deriving DecidableEq, Repr

def Shortage.fault (expected : Nat) : Shortage → Fault
  | ended received => .peerClosed expected received
  | broken cause => .io cause

namespace Transport

/-! ### Writing -/

theorem length_writes_write_le (offered : List UInt8) (deadline : Deadline) (transport : Transport) :
    (write offered deadline transport).2.writes.length ≤ transport.writes.length := by
  have bound := Event.length_meet_le (fun _ => false) deadline transport.clock transport.writes
  simp only [write]
  split <;> exact bound

theorem length_writes_write_lt {offered : List UInt8} {deadline : Deadline} {transport : Transport}
    {cause : IoFault} (failed : (write offered deadline transport).1 = .failed cause) :
    (write offered deadline transport).2.writes.length < transport.writes.length := by
  have used := Event.length_meet_lt (fun _ => false) deadline transport.clock transport.writes
  simp only [write] at failed ⊢
  split <;> rename_i met <;> simp only [met] at failed
  · simp at failed
  · simp at failed
  · exact used (by simp [met]) (by simp [met])
  · simp at failed

/-- Writes until every byte is taken. A write that takes none is a failure; interrupted writes are
repeated, no others. -/
def writeWhole (bytes : List UInt8) (deadline : Deadline) (transport : Transport) :
    Ending IoFault Unit × Transport :=
  if _left : bytes = [] then (.done (), transport) else
    match step : write bytes deadline transport with
    | (.done 0, after) => (.failed .wroteNothing, after)
    | (.done (taken + 1), after) => writeWhole (bytes.drop (taken + 1)) deadline after
    | (.failed cause, after) =>
      if cause.kind = .interrupted then writeWhole bytes deadline after
      else (.failed cause, after)
    | (.waiting, after) => (.waiting, after)
  termination_by bytes.length + transport.writes.length
  decreasing_by
    · have := length_writes_write_le bytes deadline transport
      have := List.length_pos_iff.2 _left
      simp only [step, List.length_drop] at *
      omega
    · have := length_writes_write_lt (congrArg Prod.fst step)
      simp only [step] at this
      omega

def deliver (frame : List UInt8) : Activity Fault Unit :=
  Activity.mapError Fault.ofIo do
    writeWhole frame
    flush

/-! ### Reading -/

theorem length_reads_read_le (buffer window : Nat) (deadline : Deadline) (transport : Transport) :
    (read buffer window deadline transport).2.reads.length ≤ transport.reads.length := by
  have bound := Event.length_meet_le Delivery.isEmptyData deadline transport.clock transport.reads
  have used := Event.length_meet_lt Delivery.isEmptyData deadline transport.clock transport.reads
  simp only [read]
  split
  · rename_i met
    have := used (by simp [met]) (by simp [met])
    split <;> simp only [note, List.length_cons] <;> omega
  all_goals exact bound

theorem length_reads_read_lt {buffer window : Nat} {deadline : Deadline} {transport : Transport}
    {cause : IoFault} (failed : (read buffer window deadline transport).1 = .failed cause) :
    (read buffer window deadline transport).2.reads.length < transport.reads.length := by
  have used := Event.length_meet_lt Delivery.isEmptyData deadline transport.clock transport.reads
  simp only [read] at failed ⊢
  split <;> rename_i met <;> simp only [met] at failed
  · simp at failed
  · simp at failed
  · simp at failed
  · exact used (by simp [met]) (by simp [met])
  · simp at failed

/-- Fills the last `window` bytes of a buffer. `got` holds what has arrived so far, last byte
first, the contents of the buffer before the window included. Interrupted reads are repeated. -/
def fill (buffer : Nat) (deadline : Deadline) (window : Nat) (got : List UInt8)
    (transport : Transport) : Ending Shortage (List UInt8) × Transport :=
  if _full : window = 0 then (.done got, transport) else
    match step : read buffer window deadline transport with
    | (.done [], after) => (.failed (.ended got.length), after)
    | (.done (byte :: more), after) =>
      fill buffer deadline (window - (more.length + 1)) (more.reverseAux (byte :: got)) after
    | (.failed cause, after) =>
      if cause.kind = .interrupted then fill buffer deadline window got after
      else if cause.kind.isDisconnect then (.failed (.ended got.length), after)
      else (.failed (.broken cause), after)
    | (.waiting, after) => (.waiting, after)
  termination_by window + transport.reads.length
  decreasing_by
    · have := length_reads_read_le buffer window deadline transport
      simp only [step] at this
      omega
    · have := length_reads_read_lt (congrArg Prod.fst step)
      simp only [step] at this
      omega

def readField (length : Nat) : Activity Shortage (List UInt8) := fun deadline transport =>
  match fill length deadline length [] transport with
  | (.done got, after) => (.done got.reverse, after)
  | (.failed shortage, after) => (.failed shortage, after)
  | (.waiting, after) => (.waiting, after)

def growth : Nat := 65536

def readOn (length : Nat) (deadline : Deadline) (start : Nat) (got : List UInt8)
    (transport : Transport) : Ending Shortage (List UInt8) × Transport :=
  if _more : start < length then
    let buffer := min length (start + growth)
    match fill buffer deadline (buffer - start) got transport with
    | (.done got, after) => readOn length deadline buffer got after
    | (.failed shortage, after) => (.failed shortage, after)
    | (.waiting, after) => (.waiting, after)
  else (.done got.reverse, transport)
  termination_by length - start
  decreasing_by
    have : 0 < growth := by decide
    omega

/-- Reads exactly `length` bytes. The length may be a number the peer sent, so the buffer grows by
steps as bytes arrive. -/
def readWhole (length : Nat) : Activity Shortage (List UInt8) := fun deadline transport =>
  readOn length deadline 0 [] transport

end Transport

end VectorLink
