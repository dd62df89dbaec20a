import VectorLink.Proofs.Link.Course

/-! What one call does to a link, all cases told apart.

A call that finds the link ready and its transport held may begin an exchange; every other call
leaves at most the mark of a shutdown. `Passage` records the exchanges that the calls of a run
begin.
-/

set_option autoImplicit false

namespace VectorLink

/-- An exchange of a run: what was asked, in which bytes, and how far it came. -/
structure Passage where
  request : Request
  frame : List UInt8
  stage : Stage
  deriving DecidableEq, Repr

namespace Link

/-- The exchange that a request begins on a link that holds its transport. None begins if the call
is dropped before it is polled, or if the request has no frame under the selection in force. -/
def begun? (link : Link) (request : Request) (patience : Patience) : Option Passage :=
  match request.frameFor link.selection with
  | .error _ => none
  | .ok frame =>
    if link.custody = .held ∧ patience ≠ .never then
      some ⟨request, frame, request.stage frame (link.deadline patience) link.transport⟩
    else none

/-- The exchange that a call begins. Only a ready link lets one begin. -/
def passage? (link : Link) : Call → Patience → Option Passage
  | .exchange request, patience =>
    if link.phase = .ready then link.begun? request patience else none
  | .close, _ | .setLimit _, _ => none

def passages (link : Link) : List (Call × Patience) → List Passage
  | [] => []
  | (call, patience) :: rest =>
    (link.passage? call patience).toList ++ (link.run call patience).link.passages rest

end Link

namespace Request

theorem frameFor_eq (request : Request) (selection : Selection) :
    request.frameFor selection =
      match request.vector? with
      | some vector =>
        if vector.length = selection.dimension.toNat then request.frame
        else .error (.dimensionMismatch selection.dimension.toNat vector.length)
      | none => request.frame := by
  unfold frameFor
  cases request.vector? with
  | none => rfl
  | some vector =>
    simp only [Components.checkDimension]
    split <;> rfl

theorem isCallers_of_frame {request : Request} {fault : Fault}
    (refused : request.frame = .error fault) : fault.isCallers := by
  cases request with
  | select database dimension =>
    simp only [frame, Frame.select] at refused
    split at refused <;> cases refused
    rfl
  | _ => cases refused

theorem isCallers_of_frameFor {request : Request} {selection : Selection} {fault : Fault}
    (refused : request.frameFor selection = .error fault) : fault.isCallers := by
  rw [frameFor_eq] at refused
  split at refused
  · split at refused
    · exact isCallers_of_frame refused
    · cases refused
      rfl
  · exact isCallers_of_frame refused

-- A selection decides only whether a frame is sent, not what is in it.
theorem frame_of_frameFor {request : Request} {selection : Selection} {frame : List UInt8}
    (framed : request.frameFor selection = .ok frame) : request.frame = .ok frame := by
  rw [frameFor_eq] at framed
  split at framed
  · split at framed
    · exact framed
    · cases framed
  · exact framed

end Request

namespace Link

-- Starting an exchange: either the caller is told off and nothing happens, or it begins.
theorem start_cases (link : Link) (request : Request) {patience : Patience}
    (polled : patience ≠ .never) :
    (∃ fault : Fault, fault.isCallers ∧ link.begun? request patience = none ∧
      link.start request patience = .still (.failed fault) link) ∨
    (∃ frame : List UInt8, link.custody = .held ∧ request.frameFor link.selection = .ok frame ∧
      link.begun? request patience =
        some ⟨request, frame, request.stage frame (link.deadline patience) link.transport⟩ ∧
      link.start request patience = link.transact request frame patience) := by
  unfold begun? start
  cases framed : request.frameFor link.selection with
  | error fault => exact .inl ⟨fault, Request.isCallers_of_frameFor framed, rfl, rfl⟩
  | ok frame =>
    by_cases held : link.custody = .held
    · exact .inr ⟨frame, held, rfl, if_pos ⟨held, polled⟩, if_pos held⟩
    · exact .inl ⟨.linkClosed, rfl, if_neg (fun both => held both.1), if_neg held⟩

inductive Exchanged (link : Link) (request : Request) (patience : Patience) :
    Option Passage → Turn request.Answer → Prop where
  | unpolled : patience = .never → Exchanged link request patience none (.still .abandoned link)
  | refused {fault : Fault} : patience ≠ .never → link.phase = .ready → fault.isCallers →
      Exchanged link request patience none (.still (.failed fault) link)
  | desynchronized : patience ≠ .never → link.phase = .handshaking ∨ link.phase = .inFlight →
      Exchanged link request patience none link.desynchronize
  | closed : patience ≠ .never → link.phase = .disconnected ∨ link.phase = .connecting ∨
      link.phase = .closed →
      Exchanged link request patience none (.still (.failed .linkClosed) link)
  | begun {frame : List UInt8} : patience ≠ .never → link.phase = .ready → link.custody = .held →
      request.frameFor link.selection = .ok frame →
      Exchanged link request patience
        (some ⟨request, frame, request.stage frame (link.deadline patience) link.transport⟩)
        (link.transact request frame patience)

theorem exchange_eq (link : Link) (request : Request) {patience : Patience}
    (polled : patience ≠ .never) :
    link.exchange request patience =
      match link.phase with
      | .ready => link.start request patience
      | .handshaking | .inFlight => link.desynchronize
      | .disconnected | .connecting | .closed => .still (.failed .linkClosed) link := by
  unfold exchange
  cases patience with
  | never => exact absurd rfl polled
  | upTo millis => cases link.phase <;> rfl
  | unbounded => cases link.phase <;> rfl

theorem begun?_never (link : Link) (request : Request) : link.begun? request .never = none := by
  unfold begun?
  split
  · rfl
  · exact if_neg fun both => both.2 rfl

theorem exchange_cases (link : Link) (request : Request) (patience : Patience) :
    Exchanged link request patience (link.passage? (.exchange request) patience)
      (link.exchange request patience) := by
  simp only [passage?]
  by_cases polled : patience = .never
  · subst polled
    rw [begun?_never, ite_self]
    exact .unpolled rfl
  rw [link.exchange_eq request polled]
  cases phase : link.phase with
  | ready =>
    rw [if_pos rfl]
    rcases link.start_cases request polled with
      ⟨fault, callers, unsent, still⟩ | ⟨frame, held, framed, sent, begun⟩
    · rw [unsent, still]
      exact .refused polled phase callers
    · rw [sent, begun]
      exact .begun polled phase held framed
  | handshaking => exact .desynchronized polled (.inl phase)
  | inFlight => exact .desynchronized polled (.inr phase)
  | disconnected => exact .closed polled (.inl phase)
  | connecting => exact .closed polled (.inr (.inl phase))
  | closed => exact .closed polled (.inr (.inr phase))

/-- How closing goes. Whatever becomes of its shutdown, a close that is polled on a link with a
transport releases it. -/
inductive Closing (link : Link) (patience : Patience) : Turn Unit → Prop where
  | unpolled : patience = .never → Closing link patience (.still .abandoned link)
  | already : patience ≠ .never → link.phase = .closed →
      Closing link patience (.still (.answered ()) link)
  | empty : patience ≠ .never → link.phase ≠ .closed → link.custody ≠ .held →
      Closing link patience (.still (.answered ()) { link with phase := .closed })
  | shutDown {transport : Transport} {notes : List Note} : patience ≠ .never →
      link.phase ≠ .closed → link.custody = .held →
      Trace.Between [.shutDown] link.transport transport → Closing link patience
        ⟨.answered (), { link with transport, phase := .closed, custody := .shutDown }, notes⟩
  | cutShort {transport : Transport} : patience ≠ .never → link.phase ≠ .closed →
      link.custody = .held → Trace.Between [.shutDown] link.transport transport →
      Closing link patience ⟨.abandoned, { link with transport, custody := .dropped }, []⟩

theorem close_eq (link : Link) {patience : Patience} (polled : patience ≠ .never) :
    link.close patience =
      if link.phase = .closed then .still (.answered ()) link
      else if link.custody = .held then
        link.released (Transport.shutdown (patience.deadline link.transport.clock) link.transport)
      else .still (.answered ()) { link with phase := .closed } := by
  have terminal : link.phase.isTerminal = true ↔ link.phase = .closed := by
    cases link.phase <;> decide
  unfold close
  cases patience with
  | never => exact absurd rfl polled
  | upTo millis => simp only [terminal]
  | unbounded => simp only [terminal]

theorem close_cases (link : Link) (patience : Patience) :
    Closing link patience (link.close patience) := by
  by_cases polled : patience = .never
  · subst polled
    exact .unpolled rfl
  rw [link.close_eq polled]
  by_cases closed : link.phase = .closed
  · rw [if_pos closed]
    exact .already polled closed
  rw [if_neg closed]
  by_cases held : link.custody = .held
  · rw [if_pos held]
    rcases run : Transport.shutdown (patience.deadline link.transport.clock) link.transport with
      ⟨ending, transport⟩
    obtain ⟨_, between, rfl⟩ := Transport.shutdown_leaves.of_run run
    cases ending with
    | done value => exact .shutDown polled closed held between
    | failed cause => exact .shutDown polled closed held between
    | waiting => exact .cutShort polled closed held between
  · rw [if_neg held]
    exact .empty polled closed held

end Link

end VectorLink
