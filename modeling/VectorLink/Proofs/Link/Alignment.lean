import VectorLink.Proofs.Link.Dealings
import VectorLink.Proofs.Link.Response
import VectorLink.Proofs.Link.Step

/-! Requests and replies stay in step over a whole session.

A reply has no header, so it is only by its place in the stream that it belongs to a request. As
long as a server gives each request a response of its kind, every reply is taken to its last byte and
the next one begins where the next request looks for it.
-/

set_option autoImplicit false

namespace VectorLink

open VectorLink.Flow (ofScript ofBytes)

structure Dialogue where
  request : Request
  response : request.Response
  patience : Patience
  polled : patience ≠ .never

namespace Dialogue

def call (dialogue : Dialogue) : Call × Patience := (.exchange dialogue.request, dialogue.patience)

def wire (dialogue : Dialogue) : List UInt8 := dialogue.request.wire dialogue.response

end Dialogue

/-- The request can be sent under this selection: a vector has its dimension, and the length of a
name fits the field for it. -/
structure Request.Sendable (request : Request) (selection : Selection) : Prop where
  vector : ∀ vector ∈ request.vector?, vector.length = selection.dimension.toNat
  name : ∀ (database : String) (dimension : UInt32), request = .select database dimension →
    (utf8 database).length < UInt32.size

def Selection.following (selection : Selection) (session : List Dialogue) : Selection :=
  (session.map Dialogue.request).foldl Request.selectionAfter selection

def Sendable : Selection → List Dialogue → Prop
  | _, [] => True
  | selection, dialogue :: rest =>
    dialogue.request.Sendable selection ∧
      Sendable (dialogue.request.selectionAfter selection) rest

theorem Sendable.append {selection : Selection} {before later : List Dialogue}
    (sendable : Sendable selection (before ++ later)) :
    Sendable selection before ∧ Sendable (selection.following before) later := by
  induction before generalizing selection with
  | nil => exact ⟨trivial, sendable⟩
  | cons dialogue rest ih =>
    obtain ⟨first, others⟩ := sendable
    obtain ⟨front, back⟩ := ih others
    exact ⟨⟨first, front⟩, back⟩

theorem Request.Sendable.frameFor {request : Request} {selection : Selection}
    (sendable : request.Sendable selection) :
    ∃ frame : List UInt8, request.frameFor selection = .ok frame := by
  rw [frameFor_eq]
  cases request with
  | insert id vector => exact ⟨_, if_pos (sendable.vector vector rfl)⟩
  | search vector => exact ⟨_, if_pos (sendable.vector vector rfl)⟩
  | delete id => exact ⟨_, rfl⟩
  | select database dimension => exact ⟨_, if_pos (sendable.name database dimension rfl)⟩
  | update id vector => exact ⟨_, if_pos (sendable.vector vector rfl)⟩
  | insertAuto vector => exact ⟨_, if_pos (sendable.vector vector rfl)⟩
  | searchMany vector count => exact ⟨_, if_pos (sendable.vector vector rfl)⟩

/-! ### One exchange -/

/-- A transport that accepts what is written, with so much read from it and so much before it. -/
structure Transport.Serving (transport : Transport) (received : List UInt8) (left : Flow) : Prop where
  accepting : transport.Accepting
  received : transport.received = received
  left : ofScript transport.reads = left

theorem Request.converse_served {request : Request} {response : request.Response}
    {transport : Transport} {received : List UInt8} {left : Flow}
    (serving : transport.Serving received (ofBytes (request.wire response) ++ left))
    (frame : List UInt8) (deadline : Deadline) :
    ∃ after : Transport,
      request.converse frame deadline transport = (.done (request.meaning response), after) ∧
        after.Serving (received ++ request.wire response) left := by
  obtain ⟨middle, sent, accepting⟩ := serving.accepting.deliver frame deadline
  -- sending does not touch the stream
  have still : middle.reads = transport.reads :=
    (Transport.deliver_keeps (Transport.write_keeps fun _ _ _ _ => rfl)
      (Transport.flush_keeps fun _ _ _ _ => rfl) frame).of_run sent
  obtain ⟨after, replied, rest⟩ :=
    request.reply_takes response deadline middle left (still ▸ serving.left)
  have run : request.converse frame deadline transport = (.done (request.meaning response), after) :=
    (Activity.bind_of_done sent).trans replied
  -- and reading touches nothing but the stream
  have writes : after.writes = middle.writes :=
    (Transport.reading_keeps (Transport.read_keeps fun _ _ _ _ => rfl) request.reply_reading).of_run
      replied
  have flushes : after.flushes = middle.flushes :=
    (Transport.reading_keeps (Transport.read_keeps fun _ _ _ _ => rfl) request.reply_reading).of_run
      replied
  have stream : after.stream = transport.stream :=
    (request.converse_keeps Transport.write_keeps_stream Transport.flush_keeps_stream
      Transport.read_keeps_stream frame).of_run run
  refine ⟨after, run, ⟨writes ▸ accepting.writes, flushes ▸ accepting.flushes⟩, ?_, rest⟩
  unfold Transport.stream at stream
  rw [rest, serving.left, serving.received, Flow.bytes_append, Flow.bytes_ofBytes,
    ← List.append_assoc] at stream
  exact List.append_cancel_right stream

theorem Link.transact_served {link : Link} {request : Request} {response : request.Response}
    {received : List UInt8} {left : Flow}
    (serving : link.transport.Serving received (ofBytes (request.wire response) ++ left))
    (frame : List UInt8) (patience : Patience) :
    ∃ (transport : Transport) (notes : List Note),
      link.transact request frame patience = ⟨.answered (request.meaning response), { link with
          transport, phase := .ready, selection := request.selectionAfter link.selection }, notes⟩ ∧
        transport.Serving (received ++ request.wire response) left := by
  obtain ⟨after, run, served⟩ := Request.converse_served serving frame
    (some (link.transport.clock + patience.budget link.limit.ticks))
  unfold transact
  dsimp only
  rw [run]
  exact ⟨after, _, rfl, served⟩

/-! ### Sessions -/

structure Link.Serving (link : Link) (selection : Selection) (received : List UInt8) (left : Flow) :
    Prop where
  ready : link.phase = .ready
  held : link.custody = .held
  selection : link.selection = selection
  transport : link.transport.Serving received left

namespace Link

variable {link : Link} {selection : Selection} {received : List UInt8} {left : Flow}

/-- A dialogue on a link that is served: the caller gets what the response means, and the link is
served on from behind the reply. -/
theorem Serving.exchange {dialogue : Dialogue}
    (serving : link.Serving selection received (ofBytes dialogue.wire ++ left))
    (sendable : dialogue.request.Sendable selection) :
    (link.exchange dialogue.request dialogue.patience).outcome =
        .answered (dialogue.request.meaning dialogue.response) ∧
      (link.exchange dialogue.request dialogue.patience).link.Serving
        (dialogue.request.selectionAfter selection) (received ++ dialogue.wire) left := by
  obtain ⟨ready, held, rfl, transport⟩ := serving
  obtain ⟨frame, framed⟩ := sendable.frameFor
  obtain ⟨after, notes, turn, served⟩ := transact_served transport frame dialogue.patience
  rw [exchange_eq _ _ dialogue.polled, ready]
  dsimp only
  rw [start, framed]
  dsimp only
  rw [if_pos held, turn]
  exact ⟨rfl, rfl, held, rfl, served⟩

theorem Serving.after {session : List Dialogue}
    (serving : link.Serving selection received (ofBytes (session.flatMap Dialogue.wire) ++ left))
    (sendable : Sendable selection session) :
    (link.after (session.map Dialogue.call)).Serving (selection.following session)
      (received ++ session.flatMap Dialogue.wire) left := by
  induction session generalizing link selection received with
  | nil =>
    rw [List.flatMap_nil, List.append_nil]
    exact serving
  | cons dialogue rest ih =>
    rw [List.flatMap_cons, Flow.ofBytes_append, List.append_assoc] at serving
    obtain ⟨first, others⟩ := sendable
    rw [List.flatMap_cons, ← List.append_assoc]
    exact ih (serving.exchange first).2 others

end Link

namespace Opening

theorem turn_served {opening : Opening} (polled : opening.patience ≠ .never)
    (named : (utf8 opening.selection.database).length < UInt32.size) {acknowledgement : UInt8}
    {received : List UInt8} {left : Flow}
    (serving : opening.transport.Serving received (ofBytes [acknowledgement] ++ left)) :
    opening.turn.outcome = .answered () ∧
      opening.turn.link.Serving opening.selection (received ++ [acknowledgement]) left := by
  have sendable : opening.request.Sendable opening.selection := by
    constructor
    · intro vector carried
      cases carried
    · rintro database dimension ⟨⟩
      exact named
  obtain ⟨frame, framed⟩ := sendable.frameFor
  have fresh : opening.fresh.transport.Serving received
      (ofBytes (opening.request.wire acknowledgement) ++ left) := serving
  obtain ⟨after, notes, turn, served⟩ := Link.transact_served fresh frame opening.patience
  have begun : opening.fresh.start opening.request opening.patience =
      opening.fresh.transact opening.request frame opening.patience := by
    rw [Link.start, show opening.fresh.selection = opening.selection from rfl, framed]
    rfl
  rw [opening.turn_eq polled, begun, turn]
  exact ⟨rfl, rfl, rfl, rfl, served⟩

/-- Replies are decoded exactly and stay aligned over a whole session. A transport accepts all
writes, and its stream, however it is cut, begins with an acknowledgement of the opening and then
the responses to the requests of a session, one behind the other in wire form. Then the opening is
answered, and so is every request, with what its own response means. Between the calls the
link is ready, with the selection of the last select, and its transport has read the replies so
far and not one byte of what is left. -/
theorem replies_aligned (opening : Opening) (polled : opening.patience ≠ .never)
    (named : (utf8 opening.selection.database).length < UInt32.size)
    (accepting : opening.transport.Accepting) (acknowledgement : UInt8) (session : List Dialogue)
    (left : Flow)
    (delivers : ofScript opening.transport.reads =
      ofBytes (acknowledgement :: session.flatMap Dialogue.wire) ++ left)
    (sendable : Sendable opening.selection session) :
    opening.turn.outcome = .answered () ∧
      (∀ (before later : List Dialogue) (dialogue : Dialogue),
        session = before ++ dialogue :: later →
          ((opening.after (before.map Dialogue.call)).exchange dialogue.request
            dialogue.patience).outcome = .answered (dialogue.request.meaning dialogue.response)) ∧
      ∀ before later : List Dialogue, session = before ++ later →
        (opening.after (before.map Dialogue.call)).Serving (opening.selection.following before)
          (opening.transport.received ++ acknowledgement :: before.flatMap Dialogue.wire)
          (ofBytes (later.flatMap Dialogue.wire) ++ left) := by
  have serving : opening.transport.Serving opening.transport.received
      (ofBytes [acknowledgement] ++ (ofBytes (session.flatMap Dialogue.wire) ++ left)) :=
    ⟨accepting, rfl, delivers⟩
  obtain ⟨opened, ready⟩ := turn_served polled named serving
  -- every division of the session is a moment between two calls, the first and the last included
  have between (before later : List Dialogue) (parts : session = before ++ later) :
      (opening.after (before.map Dialogue.call)).Serving (opening.selection.following before)
        (opening.transport.received ++ acknowledgement :: before.flatMap Dialogue.wire)
        (ofBytes (later.flatMap Dialogue.wire) ++ left) := by
    rw [parts, List.flatMap_append, Flow.ofBytes_append, List.append_assoc] at ready
    have served := ready.after (parts ▸ sendable).append.1
    rwa [List.append_assoc] at served
  refine ⟨opened, ?_, between⟩
  intro before later dialogue parts
  have serving := between before (dialogue :: later) parts
  rw [List.flatMap_cons, Flow.ofBytes_append, List.append_assoc] at serving
  exact (serving.exchange (parts ▸ sendable).append.2.1).1

def chatty : Opening :=
  { patience := .upTo 0
    transport := { Transport.ofReads [.answer (.data [6, 5, 0, 0]), .answer (.data []),
        .failure ⟨.interrupted, "interrupted"⟩, .answer (.data [0, 0, 0, 0, 0, 6, 2]),
        .answer (.data [0, 0, 0, 3, 0, 0, 0, 255, 255, 255, 255, 0x31, 9, 9])] with
      writes := [.answer 3, .answer 1], chunk := some 4 }
    address := .standard, selection := ⟨"points", 2⟩, limit := Link.standardLimit }

def chat : List Dialogue :=
  [⟨.insertAuto [1, 2], (5 : UInt64), .upTo 0, by decide⟩,
    ⟨.select "lines" 1, (6 : UInt8), .unbounded, by decide⟩,
    ⟨.searchMany [0x7fc00000] 7, ⟨[3, -1], by decide⟩, .upTo 3, by decide⟩,
    ⟨.delete 5, (0x31 : UInt8), .unbounded, by decide⟩]

theorem chat_aligned :
    ofScript chatty.transport.reads =
        ofBytes (6 :: chat.flatMap Dialogue.wire) ++ ofBytes [9, 9] ∧
      (chatty.after (chat.map Dialogue.call)).phase = .ready ∧
      (chatty.after (chat.map Dialogue.call)).selection = ⟨"lines", 1⟩ ∧
      ofScript (chatty.after (chat.map Dialogue.call)).transport.reads = ofBytes [9, 9] := by
  have delivers : ofScript chatty.transport.reads =
      ofBytes (6 :: chat.flatMap Dialogue.wire) ++ ofBytes [9, 9] := by decide +kernel
  have accepting : chatty.transport.Accepting := by
    constructor
    · intro event member
      rcases List.mem_cons.mp member with rfl | member
      · exact ⟨3, by decide, rfl⟩
      · exact ⟨1, by decide, List.mem_singleton.mp member⟩
    · intro event member
      cases member
  have sendable : Sendable chatty.selection chat := by
    refine ⟨⟨?_, by simp⟩, ⟨by simp [Request.vector?], ?_⟩, ⟨?_, by simp⟩,
      ⟨by simp [Request.vector?], by simp⟩, trivial⟩
    · rintro vector ⟨⟩
      rfl
    · rintro database dimension ⟨⟩
      decide +kernel
    · rintro vector ⟨⟩
      rfl
  have served := (replies_aligned chatty (by decide) (by decide +kernel) accepting 6 chat
    (ofBytes [9, 9]) delivers sendable).2.2 chat [] (List.append_nil chat).symm
  exact ⟨delivers, served.ready, served.selection, served.transport.left⟩

end Opening

end VectorLink
