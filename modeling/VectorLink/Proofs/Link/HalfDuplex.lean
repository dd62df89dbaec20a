import VectorLink.Proofs.Link.Step

/-! The half-duplex discipline of the wire, over whole runs.

Whatever the transport does and whenever callers walk away, the acts of a run are the courses of its
exchanges, one behind the other. Only a settled exchange is followed by another one, so a
frame never goes out before the reply to the frame in front of it has come in.
-/

set_option autoImplicit false

namespace VectorLink

/-- The acts of a run are those of its exchanges. All but the last exchange have settled; a
shutdown can only come at the end. -/
inductive Orderly : List Passage → Trace → Prop where
  | silent : Orderly [] []
  | shutDown : Orderly [] [.shutDown]
  | settled {passage : Passage} {passages : List Passage} {trace later : Trace} :
      passage.stage = .settled → Course passage.request passage.frame passage.stage trace →
      Orderly passages later → Orderly (passage :: passages) (trace ++ later)
  | stopped {passage : Passage} {trace later : Trace} :
      passage.stage ≠ .settled → Course passage.request passage.frame passage.stage trace →
      Orderly [] later → Orderly [passage] (trace ++ later)

/-! ### The bytes of orderly runs -/

theorem Course.output_of_whole {request : Request} {frame : List UInt8} {stage : Stage}
    {trace : Trace} (course : Course request frame stage trace) (whole : stage.isWhole) :
    trace.output = frame := by
  cases course with
  | writing => cases whole
  | flushing writes output =>
    rw [Trace.output_append, output]
    exact List.append_nil frame
  | awaiting writes output reads | settled writes output reads =>
    rw [Trace.output_append, output, Trace.output_cons, reads.output_eq_nil]
    exact List.append_nil frame

theorem Course.output_prefix {request : Request} {frame : List UInt8} {stage : Stage}
    {trace : Trace} (course : Course request frame stage trace) : trace.output <+: frame := by
  by_cases whole : stage.isWhole
  · have same := course.output_of_whole whole
    exact ⟨[], by rw [List.append_nil, same]⟩
  · cases course with
    | writing writes part => exact part
    | flushing | awaiting | settled => exact absurd rfl whole

namespace Orderly

variable {passages : List Passage} {trace : Trace}

theorem output_eq_nil (orderly : Orderly [] trace) : trace.output = [] := by
  cases orderly with
  | silent => rfl
  | shutDown => rfl

theorem all_settled_but_last (orderly : Orderly passages trace) :
    ∀ passage ∈ passages.dropLast, passage.stage = .settled := by
  induction orderly with
  | silent => simp
  | shutDown => simp
  | settled settled course rest ih =>
    rename_i head tail _ _
    cases tail with
    | nil => simp
    | cons second tail =>
      intro passage member
      rw [List.dropLast_cons_cons] at member
      rcases List.mem_cons.mp member with rfl | member
      · exact settled
      · exact ih passage member
  | stopped => simp

theorem output_eq (orderly : Orderly passages trace) :
    ∃ cut : List UInt8,
      trace.output = (passages.filter (·.stage.isSent)).flatMap Passage.frame ++ cut ∧
        (cut = [] ∨ ∃ last ∈ passages.getLast?, last.stage.isSent = false ∧ cut <+: last.frame) := by
  induction orderly with
  | silent => exact ⟨[], rfl, .inl rfl⟩
  | shutDown => exact ⟨[], rfl, .inl rfl⟩
  | @settled passage passages first later settled course rest ih =>
    -- the exchange adds its frame, and what is cut off comes from the run behind it
    obtain ⟨cut, same, few⟩ := ih
    refine ⟨cut, ?_, ?_⟩
    · rw [Trace.output_append, same, course.output_of_whole (by rw [settled]; rfl),
        List.filter_cons_of_pos (by rw [settled]; rfl), List.flatMap_cons, List.append_assoc]
    · rcases few with empty | ⟨last, ends, part⟩
      · exact .inl empty
      · cases passages with
        | nil => cases ends
        | cons second passages => exact .inr ⟨last, by rwa [List.getLast?_cons_cons], part⟩
  | @stopped passage first later short course rest =>
    rw [Trace.output_append, rest.output_eq_nil, List.append_nil]
    cases sent : passage.stage.isSent with
    | true =>
      -- the send went through and only the reply is missing
      refine ⟨[], ?_, .inl rfl⟩
      have whole : passage.stage.isWhole := by
        cases stage : passage.stage <;> rw [stage] at sent <;> first | rfl | cases sent
      rw [course.output_of_whole whole]
      simp [sent]
    | false =>
      refine ⟨first.output, ?_, .inr ⟨passage, rfl, sent, course.output_prefix⟩⟩
      simp [sent]

end Orderly

/-! ### Runs are orderly -/

namespace Link

theorem Step.orderly {link next : Link} {passage : Option Passage} {first : Trace}
    (step : Step link passage first next) {calls : List (Call × Patience)}
    (tail : ∃ later : Trace, later.Between next.transport (next.after calls).transport ∧
      Orderly (next.passages calls) later) :
    ∃ later : Trace, later.Between next.transport (next.after calls).transport ∧
      Orderly (passage.toList ++ next.passages calls) (first ++ later) := by
  cases step with
  | still limit => exact tail
  | closed lost => exact tail
  | shutDown held lost _ =>
    -- the transport is out of hand, so nothing can come behind the shutdown
    refine ⟨[], (transport_after_of_custody lost calls).1, ?_⟩
    rw [(mute_of_custody lost).passages_eq_nil]
    exact .shutDown
  | settled framed settled course =>
    obtain ⟨later, between, orderly⟩ := tail
    exact ⟨later, between, .settled settled course orderly⟩
  | @stopped passage first transport phase custody framed short course busy =>
    -- no exchange begins behind one that did not settle
    have mute : Mute { link with transport, phase, custody } := mute_of_phase busy
    obtain ⟨later, between, few⟩ := mute.trace calls
    refine ⟨later, between, ?_⟩
    rw [mute.passages_eq_nil]
    refine .stopped short course ?_
    rcases few with rfl | rfl
    · exact .silent
    · exact .shutDown

theorem after_orderly (link : Link) (calls : List (Call × Patience)) :
    ∃ trace : Trace, trace.Between link.transport (link.after calls).transport ∧
      Orderly (link.passages calls) trace := by
  induction calls generalizing link with
  | nil => exact ⟨[], rfl, .silent⟩
  | cons head rest ih =>
    obtain ⟨call, patience⟩ := head
    obtain ⟨first, between, step⟩ := link.run_step call patience
    obtain ⟨later, more, orderly⟩ := step.orderly (ih _)
    exact ⟨first ++ later, between.append more, orderly⟩

theorem filterMap_toList (passage : Option Passage) :
    passage.toList.filterMap Passage.settled? = (passage.bind Passage.settled?).toList := by
  cases passage with
  | none => rfl
  | some passage => cases settled : passage.settled? <;> simp [settled]

-- The exchanges that settle are those whose calls are answered.
theorem filterMap_settled? (link : Link) (calls : List (Call × Patience)) :
    (link.passages calls).filterMap Passage.settled? = link.answered calls := by
  induction calls generalizing link with
  | nil => rfl
  | cons head rest ih =>
    obtain ⟨call, patience⟩ := head
    rw [passages, answered, List.filterMap_append, ih, filterMap_toList, settled?_eq]

end Link

namespace Opening

theorem after_orderly (opening : Opening) (calls : List (Call × Patience)) :
    ∃ trace : Trace, trace.Between opening.transport (opening.after calls).transport ∧
      Orderly (opening.passages calls) trace := by
  obtain ⟨-, first, between, step⟩ := opening.turn_step
  obtain ⟨later, more, orderly⟩ := step.orderly (opening.turn.link.after_orderly calls)
  exact ⟨first ++ later, between.append more, orderly⟩

theorem filterMap_settled? (opening : Opening) (calls : List (Call × Patience)) :
    (opening.passages calls).filterMap Passage.settled? = opening.answered calls := by
  rw [passages, answered, List.filterMap_append, Link.filterMap_settled?, opening.turn_step.1,
    Link.filterMap_toList]

/-- The half-duplex discipline, for every transport and every run of calls, whenever their callers
walk away: what a transport has accepted is the frames that were sent, in the order of the calls
and each once, and then perhaps the beginning of one more. An exchange that did not settle is the
last one, and the acts of each exchange are writes, then its flush, then reads. -/
theorem wire_half_duplex (opening : Opening) (calls : List (Call × Patience)) :
    ∃ (trace : Trace) (cut : List UInt8),
      trace.Between opening.transport (opening.after calls).transport ∧
      Orderly (opening.passages calls) trace ∧
      (opening.after calls).transport.written = opening.transport.written ++
        ((opening.passages calls).filter (·.stage.isSent)).flatMap Passage.frame ++ cut ∧
      (cut = [] ∨ ∃ last ∈ (opening.passages calls).getLast?,
        last.stage.isSent = false ∧ cut <+: last.frame) ∧
      (∀ passage ∈ opening.passages calls, passage.request.frame = .ok passage.frame) ∧
      ((opening.passages calls).map Passage.request).Sublist
        (opening.request :: calls.filterMap (·.1.request?)) ∧
      (opening.passages calls).filterMap Passage.settled? = opening.answered calls ∧
      ∀ passage ∈ (opening.passages calls).dropLast, passage.stage = .settled := by
  obtain ⟨trace, between, orderly⟩ := opening.after_orderly calls
  obtain ⟨cut, output, few⟩ := orderly.output_eq
  refine ⟨trace, cut, between, orderly, ?_, few, ?_, ?_, opening.filterMap_settled? calls,
    orderly.all_settled_but_last⟩
  · rw [between.written_eq, output, List.append_assoc]
  · intro passage member
    rcases List.mem_append.mp member with first | later
    · obtain ⟨same, framed⟩ := Link.begun?_spec (Option.mem_toList.mp first)
      rw [same]
      exact Request.frame_of_frameFor framed
    · exact opening.turn.link.frame_of_passages calls passage later
  · rw [passages, List.map_append]
    -- the opening may have begun no exchange, and then its request is left out
    have later := opening.turn.link.requests_sublist calls
    cases begins : opening.passage? with
    | none => exact later.cons _
    | some passage =>
      rw [← (Link.begun?_spec begins).1]
      exact later.cons_cons _

end Opening

end VectorLink
