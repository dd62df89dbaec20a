import VectorLink.Proofs.Link.Dealings

/-! Calls that are waited for.

A routine has no caller who could leave it, so each call that it makes has to come to an end. An
exchange always does, since it has a time limit. A close does if its shutdown does: a socket is a
transport of which no shutdown hangs, and a line is a link over a socket.
-/

set_option autoImplicit false

namespace VectorLink

structure Socket where
  transport : Transport
  ends : .hang ∉ transport.shutdowns
  deriving DecidableEq, Repr

def Socket.ofReads (reads : List (Event Delivery)) : Socket :=
  ⟨.ofReads reads, List.not_mem_nil⟩

structure Line where
  link : Link
  ends : .hang ∉ link.transport.shutdowns
  deriving DecidableEq, Repr

structure Completed (α : Type) where
  result : Except Fault α
  line : Line
  notes : List Note

variable {α : Type}

def Outcome.result (outcome : Outcome α) (stays : outcome ≠ .abandoned) : Except Fault α :=
  match outcome, stays with
  | .answered value, _ => .ok value
  | .failed fault, _ => .error fault

/-- A turn whose caller has stayed, on a link that stays a line. -/
def Turn.complete (turn : Turn α) (stays : turn.outcome ≠ .abandoned)
    (ends : .hang ∉ turn.link.transport.shutdowns) : Completed α :=
  ⟨turn.outcome.result stays, ⟨turn.link, ends⟩, turn.notes⟩

def Outcome.ofResult : Except Fault α → Outcome α
  | .ok value => .answered value
  | .error fault => .failed fault

theorem Outcome.ofResult_result (outcome : Outcome α) (stays : outcome ≠ .abandoned) :
    ofResult (outcome.result stays) = outcome := by
  cases outcome with
  | answered value => rfl
  | failed fault => rfl
  | abandoned => exact absurd rfl stays

theorem Outcome.ofResult_inj {first second : Except Fault α}
    (same : ofResult first = ofResult second) : first = second := by
  cases first <;> cases second <;> cases same <;> rfl

def Completed.turn (completed : Completed α) : Turn α :=
  ⟨.ofResult completed.result, completed.line.link, completed.notes⟩

theorem Turn.turn_complete (turn : Turn α) (stays : turn.outcome ≠ .abandoned)
    (ends : .hang ∉ turn.link.transport.shutdowns) : (turn.complete stays ends).turn = turn := by
  unfold complete Completed.turn
  rw [Outcome.ofResult_result]

theorem Completed.turn_inj {first second : Completed α} (same : first.turn = second.turn) :
    first = second := by
  obtain ⟨result, ⟨link, _⟩, notes⟩ := first
  obtain ⟨other, ⟨next, _⟩, more⟩ := second
  simp only [turn, Turn.mk.injEq] at same
  obtain ⟨outcome, rfl, rfl⟩ := same
  rw [Outcome.ofResult_inj outcome]

/-! ### Calls come to an end -/

namespace Event

variable {idle : α → Bool} {clock : Nat} {events : List (Event α)}

theorem hang_mem_of_meet (met : (meet idle none clock events).encounter = .waiting) :
    .hang ∈ events := by
  fun_induction meet idle none clock events with
  | case1 => cases met
  | case2 clock value rest skipped ih => exact .tail _ (ih met)
  | case3 => cases met
  | case4 => cases met
  | case5 clock millis rest within ih => exact .tail _ (ih met)
  | case6 clock millis rest late =>
    refine absurd ?_ late
    intro limit set
    cases set
  | case7 => exact .head _

theorem hang_mem_of_rest {deadline : Deadline}
    (left : .hang ∈ (meet idle deadline clock events).rest) : .hang ∈ events := by
  fun_induction meet idle deadline clock events <;> grind

end Event

namespace Transport

variable {transport : Transport}

theorem hang_mem_of_shutdown (waits : (shutdown none transport).1 = .waiting) :
    .hang ∈ transport.shutdowns := by
  unfold shutdown at waits
  dsimp only at waits
  split at waits <;> rename_i met
  · cases waits
  · cases waits
  · cases waits
  · exact Event.hang_mem_of_meet met

theorem hang_mem_of_shutdowns {deadline : Deadline}
    (left : .hang ∈ (shutdown deadline transport).2.shutdowns) : .hang ∈ transport.shutdowns := by
  apply Event.hang_mem_of_rest
  unfold shutdown at left
  dsimp only at left
  split at left <;> exact left

end Transport

namespace Link

variable (link : Link) (request : Request)

theorem transact_stays (frame : List UInt8) :
    (link.transact request frame .unbounded).outcome ≠ .abandoned := by
  unfold transact
  dsimp only
  split <;> intro left <;> cases left

theorem start_stays : (link.start request .unbounded).outcome ≠ .abandoned := by
  unfold start
  split
  · intro left
    cases left
  split
  · exact link.transact_stays request _
  · intro left
    cases left

theorem shutdowns_start : (link.start request .unbounded).link.transport.shutdowns =
    link.transport.shutdowns := by
  unfold start
  split
  · rfl
  split
  · exact link.shutdowns_transact request _ .unbounded
  · rfl

theorem exchange_stays : (link.exchange request .unbounded).outcome ≠ .abandoned := by
  unfold exchange
  cases link.phase with
  | ready => exact link.start_stays request
  | handshaking | inFlight | disconnected | connecting | closed =>
    intro left
    cases left

theorem shutdowns_exchange : (link.exchange request .unbounded).link.transport.shutdowns =
    link.transport.shutdowns := by
  unfold exchange
  cases link.phase with
  | ready => exact link.shutdowns_start request
  | handshaking | inFlight | disconnected | connecting | closed => rfl

variable {link : Link}

theorem close_stays (ends : .hang ∉ link.transport.shutdowns) :
    (link.close .unbounded).outcome ≠ .abandoned := by
  unfold close
  dsimp only
  split
  · intro left
    cases left
  split
  · rcases run : Transport.shutdown (Patience.unbounded.deadline link.transport.clock)
      link.transport with ⟨ending, after⟩
    cases ending with
    | waiting => exact absurd (Transport.hang_mem_of_shutdown (congrArg Prod.fst run)) ends
    | done | failed =>
      intro left
      cases left
  · intro left
    cases left

theorem ends_close (ends : .hang ∉ link.transport.shutdowns) :
    .hang ∉ (link.close .unbounded).link.transport.shutdowns := by
  unfold close
  dsimp only
  split
  · exact ends
  split
  · have fewer := @Transport.hang_mem_of_shutdowns link.transport
      (Patience.unbounded.deadline link.transport.clock)
    rcases run : Transport.shutdown (Patience.unbounded.deadline link.transport.clock)
      link.transport with ⟨ending, after⟩
    rw [run] at fewer
    have ends : .hang ∉ after.shutdowns := mt fewer ends
    cases ending <;> exact ends
  · exact ends

end Link

/-! ### Lines -/

namespace Line

def exchange (line : Line) (request : Request) : Completed request.Answer :=
  (line.link.exchange request .unbounded).complete (line.link.exchange_stays request)
    (line.link.shutdowns_exchange request ▸ line.ends)

def close (line : Line) : Completed Unit :=
  (line.link.close .unbounded).complete (Link.close_stays line.ends)
    (Link.ends_close line.ends)

theorem turn_exchange (line : Line) (request : Request) :
    (line.exchange request).turn = line.link.exchange request .unbounded :=
  Turn.turn_complete ..

theorem turn_close (line : Line) : line.close.turn = line.link.close .unbounded :=
  Turn.turn_complete ..

theorem exchange_still {line : Line} {request : Request} {fault : Fault}
    (still : line.link.exchange request .unbounded = .still (.failed fault) line.link) :
    line.exchange request = ⟨.error fault, line, []⟩ :=
  Completed.turn_inj ((line.turn_exchange request).trans still)

end Line

namespace Socket

variable (socket : Socket) (address : Address) (selection : Selection) (limit : Span)

theorem establish_stays :
    (Link.establish socket.transport address selection limit).outcome ≠ .abandoned := by
  have stays := (Link.fresh socket.transport address selection limit).start_stays
    (.select selection.database selection.dimension)
  unfold Link.establish Link.establishFor
  dsimp only
  generalize (Link.fresh socket.transport address selection limit).start
    (.select selection.database selection.dimension) .unbounded = turn at stays ⊢
  obtain ⟨outcome, link, notes⟩ := turn
  cases outcome <;> exact stays

theorem ends_establish : .hang ∉
    (Link.establish socket.transport address selection limit).link.transport.shutdowns := by
  have shutdowns := (Link.fresh socket.transport address selection limit).shutdowns_start
    (.select selection.database selection.dimension)
  unfold Link.establish Link.establishFor
  dsimp only
  generalize (Link.fresh socket.transport address selection limit).start
    (.select selection.database selection.dimension) .unbounded = turn at shutdowns ⊢
  have ends : .hang ∉ turn.link.transport.shutdowns := by
    rw [shutdowns]
    exact socket.ends
  obtain ⟨outcome, link, notes⟩ := turn
  cases outcome <;> exact ends

def establish : Completed Unit :=
  (Link.establish socket.transport address selection limit).complete
    (socket.establish_stays address selection limit) (socket.ends_establish address selection limit)

theorem turn_establish : (socket.establish address selection limit).turn =
    Link.establish socket.transport address selection limit :=
  Turn.turn_complete ..

end Socket

end VectorLink
