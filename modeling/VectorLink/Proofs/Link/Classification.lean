import VectorLink.Proofs.Link.Step

/-! What a fault says about the link it came from.

A request that fails has either cost the link or has not touched it. The two questions that callers
ask about a fault, whether they are to blame and whether to connect again, tell exactly which.
-/

set_option autoImplicit false

namespace VectorLink

namespace Fault

theorem needsReconnect_eq_false {fault : Fault} (callers : fault.isCallers) :
    fault.needsReconnect = false := by
  cases fault <;> first | rfl | cases callers

theorem isCallers_eq_false {fault : Fault} (costs : fault.needsReconnect) :
    fault.isCallers = false := by
  cases fault <;> first | rfl | cases costs

end Fault

-- An exchange does not shut its transport down.
theorem Course.no_shutDown {request : Request} {frame : List UInt8} {stage : Stage} {trace : Trace}
    (course : Course request frame stage trace) : Act.shutDown ∉ trace := by
  have notWritten {writes : Trace} (only : writes.OnlyWrites) : Act.shutDown ∉ writes := by
    intro member
    cases only _ member
  have notRead {reads : Trace} (only : reads.OnlyReads) : Act.shutDown ∉ reads := by
    intro member
    cases only _ member
  cases course with
  | writing writes => exact notWritten writes
  | flushing writes => simp [notWritten writes]
  | awaiting writes output reads | settled writes output reads =>
    simp [notWritten writes, notRead reads]

namespace Link

/-- Phase, selection and transport are as they were. The transport's history is part of it, so
nothing was written or read either. -/
structure Untouched (before after : Link) : Prop where
  phase : after.phase = before.phase
  selection : after.selection = before.selection
  custody : after.custody = before.custody
  transport : after.transport = before.transport

/-- The link has come to its end, its transport dropped without a shutdown. -/
structure Lost (before after : Link) : Prop where
  going : before.phase ≠ .closed
  closed : after.phase = .closed
  dropped : after.custody = .dropped
  selection : after.selection = before.selection
  abrupt : ∃ trace : Trace, trace.Between before.transport after.transport ∧ Act.shutDown ∉ trace

theorem Untouched.not_lost {before after : Link} (untouched : Untouched before after) :
    ¬ Lost before after := by
  intro lost
  exact lost.going (untouched.phase.symm.trans lost.closed)

/-- A fault tells what has become of the link. -/
structure Classified (fault : Fault) (before after : Link) : Prop where
  exclusive : fault.isCallers ≠ fault.needsReconnect
  isCallers_iff : fault.isCallers ↔ Untouched before after
  needsReconnect_iff : fault.needsReconnect ↔ Lost before after

theorem classified_of_untouched {fault : Fault} {before after : Link} (callers : fault.isCallers)
    (untouched : Untouched before after) : Classified fault before after := by
  have costless := Fault.needsReconnect_eq_false callers
  constructor
  · rw [callers, costless]
    decide
  · exact ⟨fun _ => untouched, fun _ => callers⟩
  · rw [costless]
    constructor
    · intro impossible
      cases impossible
    · intro lost
      exact absurd lost untouched.not_lost

theorem classified_of_lost {fault : Fault} {before after : Link} (costs : fault.needsReconnect)
    (lost : Lost before after) : Classified fault before after := by
  have blameless := Fault.isCallers_eq_false costs
  constructor
  · rw [costs, blameless]
    decide
  · rw [blameless]
    constructor
    · intro impossible
      cases impossible
    · intro untouched
      exact absurd lost untouched.not_lost
  · exact ⟨fun _ => lost, fun _ => costs⟩

/-- The phase that a request finds decides on some faults before anything else is looked at. -/
structure Foremost (phase : Phase) (fault : Fault) : Prop where
  dimension : ∀ expected actual : Nat, fault = .dimensionMismatch expected actual → phase = .ready
  busy : phase = .handshaking ∨ phase = .inFlight → fault = .desynchronized
  ended : phase = .closed → fault = .linkClosed

theorem foremost_of_ready (fault : Fault) : Foremost .ready fault := by
  constructor
  · intro expected actual same
    rfl
  · rintro (busy | busy) <;> cases busy
  · intro closed
    cases closed

/-- Every request on every link: an answer goes from ready to ready. A fault tells whether the link
is untouched or lost, and a request is not measured against the dimension unless the link is
ready. A caller who stays gets one or the other. -/
theorem exchange_classified (link : Link) (request : Request) (patience : Patience) :
    match (link.exchange request patience).outcome with
    | .answered _ => link.phase = .ready ∧ (link.exchange request patience).link.phase = .ready
    | .failed fault =>
      Classified fault link (link.exchange request patience).link ∧ Foremost link.phase fault
    | .abandoned => patience ≠ .unbounded := by
  have exchanged := link.exchange_cases request patience
  generalize link.passage? (.exchange request) patience = passage,
    link.exchange request patience = turn at exchanged ⊢
  cases exchanged with
  | unpolled never =>
    -- such a caller did not stay
    show patience ≠ .unbounded
    rw [never]
    decide
  | refused polled ready callers =>
    refine ⟨classified_of_untouched callers ⟨rfl, rfl, rfl, rfl⟩, ?_⟩
    rw [ready]
    exact foremost_of_ready _
  | desynchronized polled busy =>
    have going : link.phase ≠ .closed := by
      rcases busy with busy | busy <;> simp [busy]
    refine ⟨classified_of_lost rfl ⟨going, rfl, rfl, rfl, [], rfl, by simp⟩, ?_, ?_, ?_⟩
    · simp
    · intro _
      rfl
    · intro closed
      exact absurd closed going
  | closed polled ended =>
    refine ⟨classified_of_untouched rfl ⟨rfl, rfl, rfl, rfl⟩, ?_, ?_, ?_⟩
    · simp
    · intro busy
      rcases ended with ended | ended | ended <;> simp [ended] at busy
    · intro _
      rfl
  | @begun frame polled ready held framed =>
    obtain ⟨transacted, trace, between, course⟩ := link.transact_cases request frame patience
    generalize link.transact request frame patience = turn at transacted between ⊢
    cases transacted with
    | answered settled => exact ⟨ready, rfl⟩
    | failed short costs =>
      refine ⟨classified_of_lost costs ⟨?_, rfl, rfl, rfl, trace, between, course.no_shutDown⟩, ?_⟩
      · simp [ready]
      · rw [ready]
        exact foremost_of_ready _
    | abandoned short left => exact left

end Link

end VectorLink
