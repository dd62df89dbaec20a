import VectorLink.Link.Exchange
import VectorLink.Proofs.Link.Reply

/-! The course of one exchange.

`Stage` says how far an exchange has come, and `Course` what its acts are then: writes that make up
the frame, one flush, reads that make up the reply, cut off where the exchange stopped. The rest
of the file says what one call does to a link, all cases told apart, so that no later proof
has to open the definitions of the calls again.
-/

set_option autoImplicit false

namespace VectorLink

/-- How far an exchange has come. -/
inductive Stage where
  | writing
  /-- The frame is taken in full, but its flush has not gone through. -/
  | flushing
  | awaiting
  /-- The reply is read to its last byte. -/
  | settled
  deriving DecidableEq, Repr

def Stage.isSent : Stage → Bool
  | writing | flushing => false
  | awaiting | settled => true

def Stage.isWhole : Stage → Bool
  | writing => false
  | flushing | awaiting | settled => true

/-- The acts of an exchange that has come so far. -/
inductive Course (request : Request) (frame : List UInt8) : Stage → Trace → Prop where
  | writing {writes : Trace} : writes.OnlyWrites → writes.output <+: frame →
      writes.output ≠ frame → Course request frame .writing writes
  | flushing {writes : Trace} : writes.OnlyWrites → writes.output = frame →
      Course request frame .flushing (writes ++ [.flushed])
  | awaiting {writes reads : Trace} : writes.OnlyWrites → writes.output = frame →
      reads.OnlyReads → reads.input.length < request.replyLength reads.input →
      Course request frame .awaiting (writes ++ .flushed :: reads)
  | settled {writes reads : Trace} : writes.OnlyWrites → writes.output = frame →
      reads.OnlyReads → reads.input.length = request.replyLength reads.input →
      Course request frame .settled (writes ++ .flushed :: reads)

namespace Request

def stage (request : Request) (frame : List UInt8) (deadline : Deadline) (transport : Transport) :
    Stage :=
  match Transport.writeWhole frame deadline transport with
  | (.done (), transport) =>
    match Transport.flush deadline transport with
    | (.done (), transport) =>
      match request.reply deadline transport with
      | (.done _, _) => .settled
      | _ => .awaiting
    | _ => .flushing
  | _ => .writing

end Request

theorem Fault.needsReconnect_ofIo (cause : IoFault) : (Fault.ofIo cause).needsReconnect := by
  unfold ofIo
  split <;> rfl

def Stage.Ends {α : Type} (stage : Stage) : Ending Fault α → Prop
  | .done _ => stage = .settled
  | .failed fault => stage ≠ .settled ∧ fault.needsReconnect
  | .waiting => stage ≠ .settled

theorem converse_course (request : Request) (frame : List UInt8) (deadline : Deadline)
    (transport : Transport) :
    ∃ trace : Trace, trace.Between transport (request.converse frame deadline transport).2 ∧
      Course request frame (request.stage frame deadline transport) trace ∧
      (request.stage frame deadline transport).Ends
        (request.converse frame deadline transport).1 := by
  unfold Request.converse Transport.deliver Request.stage
  rcases writing : Transport.writeWhole frame deadline transport with ⟨written, afterWrite⟩
  obtain ⟨writes, betweenWrites, onlyWrites, output⟩ :=
    (Transport.writeWhole_leaves frame).of_run writing
  cases written with
  | failed cause =>
    rw [Activity.bind_of_failed (Activity.mapError_of_failed (Activity.bind_of_failed writing))]
    exact ⟨writes, betweenWrites, .writing onlyWrites output.1 output.2, by simp,
      Fault.needsReconnect_ofIo cause⟩
  | waiting =>
    rw [Activity.bind_of_waiting (Activity.mapError_of_waiting (Activity.bind_of_waiting writing))]
    exact ⟨writes, betweenWrites, .writing onlyWrites output.1 output.2, by simp [Stage.Ends]⟩
  | done value =>
    -- the frame is out, and a flush has been asked for
    rcases flushing : Transport.flush deadline afterWrite with ⟨flushed, afterFlush⟩
    obtain ⟨_, betweenFlush, rfl⟩ := Transport.flush_leaves.of_run flushing
    have sending : (do Transport.writeWhole frame; Transport.flush : Activity IoFault Unit)
        deadline transport = (flushed, afterFlush) := (Activity.bind_of_done writing).trans flushing
    cases flushed with
    | failed cause =>
      rw [Activity.bind_of_failed (Activity.mapError_of_failed sending)]
      simp only [flushing]
      exact ⟨_, betweenWrites.append betweenFlush, .flushing onlyWrites output, by simp,
        Fault.needsReconnect_ofIo cause⟩
    | waiting =>
      rw [Activity.bind_of_waiting (Activity.mapError_of_waiting sending)]
      simp only [flushing]
      exact ⟨_, betweenWrites.append betweenFlush, .flushing onlyWrites output, by simp [Stage.Ends]⟩
    | done value =>
      rw [Activity.bind_of_done (Activity.mapError_of_done sending)]
      rcases replying : request.reply deadline afterFlush with ⟨ending, last⟩
      obtain ⟨reads, betweenReads, onlyReads, arrived⟩ := request.reply_leaves.of_run replying
      simp only [flushing, replying]
      have between := betweenWrites.append (betweenFlush.append betweenReads)
      cases ending with
      | done answer => exact ⟨_, between, .settled onlyWrites output onlyReads arrived, rfl⟩
      | failed fault =>
        exact ⟨_, between, .awaiting onlyWrites output onlyReads arrived.1, by simp, arrived.2⟩
      | waiting =>
        exact ⟨_, between, .awaiting onlyWrites output onlyReads arrived, by simp [Stage.Ends]⟩

/-! ### What a call does -/

namespace Link

def deadline (link : Link) (patience : Patience) : Deadline :=
  some (link.transport.clock + patience.budget link.limit.ticks)

inductive Transacted (link : Link) (request : Request) (frame : List UInt8) (patience : Patience) :
    Turn request.Answer → Prop where
  | answered {answer : request.Answer} {transport : Transport} {notes : List Note} :
      request.stage frame (link.deadline patience) link.transport = .settled →
      Transacted link request frame patience ⟨.answered answer, { link with
        transport, phase := .ready, selection := request.selectionAfter link.selection }, notes⟩
  | failed {fault : Fault} {transport : Transport} {notes : List Note} :
      request.stage frame (link.deadline patience) link.transport ≠ .settled →
      fault.needsReconnect →
      Transacted link request frame patience
        ⟨.failed fault, { link with transport }.discard, notes⟩
  | abandoned {transport : Transport} {notes : List Note} :
      request.stage frame (link.deadline patience) link.transport ≠ .settled →
      patience ≠ .unbounded →
      Transacted link request frame patience
        ⟨.abandoned, { link with transport, phase := request.busyPhase }, notes⟩

theorem transact_cases (link : Link) (request : Request) (frame : List UInt8)
    (patience : Patience) :
    Transacted link request frame patience (link.transact request frame patience) ∧
      ∃ trace : Trace,
        trace.Between link.transport (link.transact request frame patience).link.transport ∧
          Course request frame (request.stage frame (link.deadline patience) link.transport) trace := by
  obtain ⟨trace, between, course, ends⟩ :=
    converse_course request frame (link.deadline patience) link.transport
  unfold transact
  dsimp only
  unfold deadline at between course ends
  split
  · rename_i answer transport run
    rw [run] at between ends
    exact ⟨.answered ends, trace, between, course⟩
  · rename_i fault transport run
    rw [run] at between ends
    exact ⟨.failed ends.1 ends.2, trace, between, course⟩
  · rename_i transport run
    rw [run] at between ends
    split
    · exact ⟨.failed ends rfl, trace, between, course⟩
    · rename_i shorter
      refine ⟨.abandoned ends ?_, trace, between, course⟩
      rintro rfl
      exact shorter rfl

end Link

end VectorLink
