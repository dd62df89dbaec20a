import VectorLink.Proofs.Link.Budget
import VectorLink.Proofs.Transport.Exact
import VectorLink.Proofs.Transport.Sending

/-! The first fault of an exchange decides how it ends.

Which fault that is can be told from what lies before the transport, and without running the
exchange: the failure that the frame meets on its way out, or else the end, the failure or the
gap in the first field of the reply that the stream does not fill. How far a field has come is
counted in bytes of that field alone, in however many reads they arrived.
-/

set_option autoImplicit false

namespace VectorLink

open VectorLink.Flow (lead halt behind ofScript)

namespace Flow

def fieldFault? (expected : Nat) (flow : Flow) : Option Fault :=
  if expected ≤ (lead flow).length then none
  else (halt flow).fault? expected (lead flow).length

theorem fieldFault?_of_enough {expected : Nat} {flow : Flow}
    (enough : expected ≤ (lead flow).length) : fieldFault? expected flow = none := if_pos enough

theorem fieldFault?_of_short {expected : Nat} {flow : Flow}
    (short : (lead flow).length < expected) :
    fieldFault? expected flow = (halt flow).fault? expected (lead flow).length :=
  if_neg (Nat.not_le_of_lt short)

theorem received_lt_of_fieldFault? {length expected received : Nat} {flow : Flow}
    (cut : fieldFault? length flow = some (.peerClosed expected received)) :
    expected = length ∧ received = (lead flow).length ∧ received < expected := by
  unfold fieldFault? at cut
  split at cut
  · cases cut
  · rename_i few
    have counts : expected = length ∧ received = (lead flow).length := by
      unfold Halt.fault? at cut
      split at cut
      · cases cut
        exact ⟨rfl, rfl⟩
      · split at cut <;> cases cut
        exact ⟨rfl, rfl⟩
      · cases cut
    obtain ⟨rfl, rfl⟩ := counts
    exact ⟨rfl, rfl, Nat.lt_of_not_le few⟩

theorem fieldFault?_behind_of_hung {length : Nat} {flow : Flow} (short : (lead flow).length < length)
    (hung : halt flow = .hung) (later : Nat) : fieldFault? later (behind length flow) = none := by
  fun_induction behind length flow with
  | case1 flow => exact absurd short (Nat.not_lt_zero _)
  | case3 length byte rest ih => exact ih (Nat.lt_of_succ_lt_succ short) hung
  | case4 length millis rest ih => exact ih short hung
  | case2 length | case5 length rest | case6 length cause rest => cases hung
  | case7 length rest =>
    unfold fieldFault?
    split <;> rfl

end Flow

def Fault.orRejected (database : String) : Fault → Fault
  | peerClosed .. => rejected database
  | fault => fault

namespace Request

/-- The fault of the reply to a request, if this stream lies before it. -/
def replyFault? (request : Request) (flow : Flow) : Option Fault :=
  match request with
  | insert .. | delete _ | update .. => flow.fieldFault? 1
  | search _ => flow.fieldFault? 4
  | insertAuto _ => flow.fieldFault? 8
  | select database _ => (flow.fieldFault? 1).map (.orRejected database)
  | searchMany _ requested =>
    (flow.fieldFault? 4).or
      (match Reply.count ((lead flow).take 4) requested with
        | .ok count => (behind 4 flow).fieldFault? (4 * count.toNat)
        | .error fault => some fault)

def fieldLengths (request : Request) (front : List UInt8) : List Nat :=
  match request with
  | insert .. | delete _ | update .. | select .. => [1]
  | search _ => [4]
  | insertAuto _ => [8]
  | searchMany .. => [4, 4 * LittleEndian.decode (front.take 4)]

def totalLength (lengths : List Nat) : Nat := lengths.foldr (fun length total => length + total) 0

end Request

namespace Activity

variable {ε α β : Type} {fault? : Flow → Option Fault}

/-- Unless it is cut off by time, the activity fails with this fault of the stream before it, and is
done if there is none. -/
def FailsBy (fault? : Flow → Option Fault) (activity : Activity Fault α) : Prop :=
  ∀ deadline transport, (activity deadline transport).1 ≠ .waiting →
    (activity deadline transport).1.error? = fault? (ofScript transport.reads)

theorem FailsBy.bind_pure {activity : Activity Fault α} (fails : activity.FailsBy fault?)
    (answer : α → β) : (activity >>= fun value => pure (answer value)).FailsBy fault? := by
  intro deadline transport ends
  have same := fails deadline transport
  rcases run : activity deadline transport with ⟨ending, after⟩
  rw [run] at same
  cases ending with
  | done value =>
    rw [← same (by simp), bind_of_done run]
    rfl
  | failed fault =>
    rw [← same (by simp), bind_of_failed run]
    rfl
  | waiting =>
    rw [bind_of_waiting run] at ends
    exact absurd rfl ends

end Activity

/-! ### Fields -/

namespace Transport

variable {length : Nat} {activity : Activity Shortage (List UInt8)} {deadline : Deadline}
  {transport after : Transport}

theorem Draws.failsBy (draws : Draws length activity) :
    (Activity.mapError (Shortage.fault length) activity).FailsBy (Flow.fieldFault? length) := by
  intro deadline transport ends
  rcases run : activity deadline transport with ⟨ending, after⟩
  have goes := draws.reading deadline transport
  rw [run] at goes
  have cases := Flow.reading_cases length (ofScript transport.reads)
  cases ending with
  | waiting =>
    rw [Activity.mapError_of_waiting run] at ends
    exact absurd rfl ends
  | done bytes =>
    rw [Activity.mapError_of_done run]
    rw [← (goes (.inl (by simp))).1] at cases
    cases cases with
    | enough enough => exact (Flow.fieldFault?_of_enough enough).symm
  | failed shortage =>
    rw [Activity.mapError_of_failed run]
    rw [← (goes (.inl (by simp))).1] at cases
    cases cases with
    | short short stops =>
      rw [Flow.fieldFault?_of_short short, ← Halt.map_fault_shortage?, stops]
      rfl

theorem Draws.of_done {bytes : List UInt8} (draws : Draws length activity)
    (run : activity deadline transport = (.done bytes, after)) :
    bytes = (lead (ofScript transport.reads)).take length ∧
      ofScript after.reads = behind length (ofScript transport.reads) := by
  have goes := draws.reading deadline transport
  rw [run] at goes
  obtain ⟨ending, left⟩ := goes (.inl (by simp))
  have cases := Flow.reading_cases length (ofScript transport.reads)
  rw [← show Ending.done bytes = _ from ending] at cases
  cases cases with
  | enough enough => exact ⟨rfl, left⟩

theorem draws_readField (length : Nat) : Draws length (readField length) := drawn_readField length

theorem draws_readWhole (length : Nat) : Draws length (readWhole length) := drawn_readWhole length

end Transport

/-! ### Replies -/

namespace Request

open Transport (draws_readField draws_readWhole)

theorem field_failsBy (length : Nat) : (field length).FailsBy (Flow.fieldFault? length) :=
  (draws_readField length).failsBy

theorem acknowledgement_failsBy (database : String) :
    (acknowledgement database).FailsBy
      fun flow => (flow.fieldFault? Reply.ackLength).map (Fault.orRejected database) := by
  intro deadline transport ends
  have fails := field_failsBy Reply.ackLength deadline transport
  unfold field at fails
  unfold acknowledgement at ends ⊢
  dsimp only
  rcases run : Transport.readField Reply.ackLength deadline transport with ⟨ending, after⟩
  cases ending with
  | waiting =>
    rw [Activity.mapError_of_waiting (Activity.bind_of_waiting run)] at ends
    exact absurd rfl ends
  | done bytes =>
    rw [Activity.mapError_of_done run] at fails
    rw [← fails (by simp), Activity.mapError_of_done (Activity.bind_of_done run)]
    rfl
  | failed shortage =>
    rw [Activity.mapError_of_failed run] at fails
    rw [← fails (by simp), Activity.mapError_of_failed (Activity.bind_of_failed run)]
    cases shortage with
    | broken cause => rfl
    | ended received =>
      -- no byte of an acknowledgement can have come before its end
      have cut : Flow.fieldFault? Reply.ackLength (ofScript transport.reads) =
          some (.peerClosed Reply.ackLength received) := (fails (by simp)).symm
      obtain ⟨-, -, few⟩ := Flow.received_lt_of_fieldFault? cut
      obtain rfl : received = 0 := Nat.lt_one_iff.mp few
      rfl

theorem failsBy_field_bind {β : Type} {length : Nat} {next : List UInt8 → Activity Fault β}
    {fault? : Flow → Option Fault}
    (fails : ∀ (deadline : Deadline) (before after : Transport),
      ofScript after.reads = behind length (ofScript before.reads) →
      let rest := next ((lead (ofScript before.reads)).take length) deadline after
      rest.1 ≠ .waiting → rest.1.error? = fault? (ofScript before.reads)) :
    (field length >>= next).FailsBy fun flow => (flow.fieldFault? length).or (fault? flow) := by
  intro deadline before ends
  have first := field_failsBy length deadline before
  rcases run : field length deadline before with ⟨ending, after⟩
  rw [run] at first
  dsimp only
  cases ending with
  | waiting =>
    rw [Activity.bind_of_waiting run] at ends
    exact absurd rfl ends
  | failed fault =>
    rw [← first (by simp), Activity.bind_of_failed run]
    rfl
  | done bytes =>
    rw [← first (by simp)]
    rw [Activity.bind_of_done run] at ends ⊢
    -- the field is there, so what follows it on the stream decides
    have brought : bytes = (lead (ofScript before.reads)).take length ∧
        ofScript after.reads = behind length (ofScript before.reads) := by
      unfold field at run
      rcases inner : Transport.readField length deadline before with ⟨ending, last⟩
      cases ending with
      | done all =>
        rw [Activity.mapError_of_done inner] at run
        cases run
        exact (draws_readField length).of_done inner
      | failed shortage =>
        rw [Activity.mapError_of_failed inner] at run
        cases run
      | waiting =>
        rw [Activity.mapError_of_waiting inner] at run
        cases run
    obtain ⟨rfl, left⟩ := brought
    exact fails deadline before after left ends

-- The body of a ranking is as long as its count says, so it always consists of whole ids.
theorem body_failsBy (length : Nat) (whole : length % Reply.idLength = 0) :
    (Activity.mapError (Shortage.fault length) (Transport.readWhole length) >>= fun body =>
      Activity.ofExcept (Reply.ranking body)).FailsBy (Flow.fieldFault? length) := by
  intro deadline transport ends
  have fails := (draws_readWhole length).failsBy deadline transport
  rcases run : Transport.readWhole length deadline transport with ⟨ending, after⟩
  cases ending with
  | waiting =>
    rw [Activity.bind_of_waiting (Activity.mapError_of_waiting run)] at ends
    exact absurd rfl ends
  | failed shortage =>
    rw [Activity.mapError_of_failed run] at fails
    rw [Activity.bind_of_failed (Activity.mapError_of_failed run), ← fails (by simp)]
    rfl
  | done body =>
    rw [Activity.mapError_of_done run] at fails
    rw [Activity.bind_of_done (Activity.mapError_of_done run), ← fails (by simp), Reply.ranking,
      if_pos (by rw [Transport.length_of_readWhole run, whole])]
    rfl

theorem ranking_failsBy (vector : Components) (requested : UInt32) :
    (ranking requested).FailsBy (searchMany vector requested).replyFault? := by
  refine failsBy_field_bind ?_
  intro deadline before after left
  dsimp only
  cases announced : Reply.count ((lead (ofScript before.reads)).take 4) requested with
  | error fault =>
    intro _
    rfl
  | ok count =>
    rw [Activity.bind_of_done rfl, ← left]
    by_cases zero : count = 0
    · rw [if_pos zero, zero]
      intro _
      exact (Flow.fieldFault?_of_enough (Nat.zero_le _)).symm
    · rw [if_neg zero]
      intro ends
      have body := body_failsBy (Reply.rankingLength count) (Nat.mul_mod_left ..)
        deadline after ends
      rw [body, Reply.rankingLength, Nat.mul_comm]
      rfl

theorem reply_failsBy (request : Request) : request.reply.FailsBy request.replyFault? := by
  cases request with
  | insert id vector => exact (field_failsBy Reply.ackLength).bind_pure fun _ => ()
  | search vector => exact (field_failsBy Reply.nearestLength).bind_pure Reply.nearest
  | delete id => exact (field_failsBy 1).bind_pure fun bytes => bytes.any Reply.status
  | select database dimension => exact acknowledgement_failsBy database
  | update id vector => exact (field_failsBy 1).bind_pure fun bytes => bytes.any Reply.status
  | insertAuto vector => exact (field_failsBy Reply.assignedLength).bind_pure Reply.assigned
  | searchMany vector count => exact ranking_failsBy vector count

/-- Where a reply is cut off: in the first of its fields that the front of the stream does not fill,
behind as many bytes of that field as are left of the front when the earlier fields are taken off. -/
theorem cut_of_replyFault? {request : Request} {flow : Flow} {expected received : Nat}
    (cut : request.replyFault? flow = some (.peerClosed expected received)) :
    (∃ earlier : List Nat, earlier ++ [expected] <+: request.fieldLengths (lead flow) ∧
      (lead flow).length = totalLength earlier + received) ∧
    received < expected ∧ ∀ database dimension, request ≠ .select database dimension := by
  have single {length : Nat} (cut : flow.fieldFault? length = some (.peerClosed expected received)) :
      (∃ earlier : List Nat, earlier ++ [expected] <+: [length] ∧
        (lead flow).length = totalLength earlier + received) ∧ received < expected := by
    obtain ⟨rfl, rfl, few⟩ := Flow.received_lt_of_fieldFault? cut
    exact ⟨⟨[], List.prefix_rfl, (Nat.zero_add _).symm⟩, few⟩
  cases request with
  | insert id vector | delete id | update id vector | search vector | insertAuto vector =>
    exact ⟨(single cut).1, (single cut).2, by simp⟩
  | select database dimension =>
    -- a rejection took the place of such a fault
    have cut : (flow.fieldFault? 1).map (Fault.orRejected database) =
      some (.peerClosed expected received) := cut
    obtain ⟨fault, -, same⟩ := Option.map_eq_some_iff.mp cut
    cases fault <;> cases same
  | searchMany vector requested =>
    refine and_assoc.mp ⟨?_, by simp⟩
    have cut : (flow.fieldFault? 4).or
        (match Reply.count ((lead flow).take 4) requested with
          | .ok count => (behind 4 flow).fieldFault? (4 * count.toNat)
          | .error fault => some fault) = some (.peerClosed expected received) := cut
    cases first : flow.fieldFault? 4 with
    | some fault =>
      rw [first, Option.some_or] at cut
      obtain ⟨⟨earlier, fields, size⟩, few⟩ := single (first.trans cut)
      exact ⟨⟨earlier, fields.trans (List.prefix_append [4] _), size⟩, few⟩
    | none =>
      rw [first, Option.none_or] at cut
      split at cut
      · rename_i count announced
        by_cases enough : 4 ≤ (lead flow).length
        · -- the count is there, and what is left of the front belongs to the body
          have width : ((lead flow).take 4).length = 4 := by
            rw [List.length_take, Nat.min_eq_left enough]
          rw [toNat_count width announced] at cut
          obtain ⟨rfl, size, few⟩ := Flow.received_lt_of_fieldFault? cut
          rw [Flow.lead_behind enough, List.length_drop] at size
          refine ⟨⟨[4], List.prefix_rfl, ?_⟩, few⟩
          rw [size]
          exact (Nat.add_sub_cancel' enough).symm
        · have short : (lead flow).length < 4 := Nat.lt_of_not_le enough
          rw [Flow.fieldFault?_of_short short] at first
          have hung : halt flow = .hung := by
            cases stops : halt flow <;> simp [stops, Halt.fault?] at first ⊢
          rw [Flow.fieldFault?_behind_of_hung short hung] at cut
          cases cut
      · rename_i fault refused
        unfold Reply.count at refused
        dsimp only at refused
        split at refused <;> cases refused
        cases cut

/-! ### Exchanges -/

theorem converse_of_hindrance (request : Request) (frame : List UInt8) (deadline : Deadline)
    (transport : Transport) (cause : IoFault)
    (ends : (request.converse frame deadline transport).1 ≠ .waiting)
    (hindered : transport.hindrance? frame.length = some cause) :
    request.converse frame deadline transport =
      (.failed (.ofIo cause), (Transport.deliver frame deadline transport).2) := by
  have sent := Transport.deliver_error? frame deadline transport
  rw [hindered] at sent
  unfold converse at ends ⊢
  rcases run : Transport.deliver frame deadline transport with ⟨ending, after⟩
  rw [run] at sent
  cases ending with
  | waiting =>
    rw [Activity.bind_of_waiting run] at ends
    exact absurd rfl ends
  | done value => cases sent (by simp)
  | failed fault =>
    cases sent (by simp)
    exact Activity.bind_of_failed run

theorem converse_of_sent (request : Request) (frame : List UInt8) (deadline : Deadline)
    (transport : Transport) (ends : (request.converse frame deadline transport).1 ≠ .waiting)
    (free : transport.hindrance? frame.length = none) :
    (request.converse frame deadline transport).1.error? =
      request.replyFault? (ofScript transport.reads) := by
  have sent := Transport.deliver_error? frame deadline transport
  rw [free] at sent
  unfold converse at ends ⊢
  rcases run : Transport.deliver frame deadline transport with ⟨ending, after⟩
  rw [run] at sent
  cases ending with
  | waiting =>
    rw [Activity.bind_of_waiting run] at ends
    exact absurd rfl ends
  | failed fault => cases sent (by simp)
  | done value =>
    have reads : after.reads = transport.reads :=
      (Transport.deliver_keeps_reads frame).of_run run
    rw [Activity.bind_of_done run] at ends ⊢
    rw [← reads]
    exact request.reply_failsBy deadline after ends

end Request

def Outcome.isCutOff {α : Type} : Outcome α → Bool
  | .abandoned | .failed (.timeout _) => true
  | .answered _ | .failed _ => false

/-- How a turn ends in which this frame is sent for the request, over a transport that was like this
before. -/
structure Turn.ByFirstFault (request : Request) (frame : List UInt8) (before : Transport)
    (turn : Turn request.Answer) : Prop where
  unsent : ∀ cause, before.hindrance? frame.length = some cause →
    turn.outcome = .failed (if cause.kind.isDisconnect then .peerClosed 0 0 else .io cause) ∧
      turn.link.transport.reads = before.reads ∧
      ∃ trace : Trace, trace.Between before turn.link.transport ∧ ∀ act ∈ trace, act.isRead = false
  unanswered : before.hindrance? frame.length = none →
    ∀ fault, request.replyFault? (ofScript before.reads) = some fault → turn.outcome = .failed fault
  answered : before.hindrance? frame.length = none →
    request.replyFault? (ofScript before.reads) = none → ∃ answer, turn.outcome = .answered answer
  /-- The counts of a reply that is cut off are those of the field in which this happens, and a
  select never ends so. -/
  counts : before.hindrance? frame.length = none →
    ∀ expected received, turn.outcome = .failed (.peerClosed expected received) →
      (∃ earlier : List Nat,
        earlier ++ [expected] <+: request.fieldLengths (lead (ofScript before.reads)) ∧
        (lead (ofScript before.reads)).length = Request.totalLength earlier + received) ∧
      received < expected ∧ ∀ database dimension, request ≠ .select database dimension

theorem Link.transact_byFirstFault (link : Link) (request : Request) (frame : List UInt8)
    (patience : Patience) (uncut : (link.transact request frame patience).outcome.isCutOff = false) :
    (link.transact request frame patience).ByFirstFault request frame link.transport := by
  have stopped := request.converse_of_hindrance frame (link.deadline patience) link.transport
  have sent := request.converse_of_sent frame (link.deadline patience) link.transport
  unfold transact at uncut ⊢
  unfold deadline at stopped sent
  dsimp only at uncut ⊢
  rcases run : request.converse frame (some (link.transport.clock + patience.budget link.limit.ticks))
    link.transport with ⟨ending, after⟩
  rw [run] at uncut stopped sent
  cases ending with
  | waiting =>
    -- such a turn was cut off
    dsimp only at uncut
    split at uncut
    · cases uncut
    · cases uncut
  | done answer =>
    refine ⟨?_, ?_, ?_, ?_⟩
    · intro cause hindered
      cases stopped cause (by simp) hindered
    · intro free fault cut
      cases (sent (by simp) free).trans cut
    · intro _ _
      exact ⟨answer, rfl⟩
    · intro _ expected received impossible
      cases impossible
  | failed fault =>
    refine ⟨?_, ?_, ?_, ?_⟩
    · intro cause hindered
      obtain ⟨⟨⟩, rfl⟩ := Prod.mk.inj (stopped cause (by simp) hindered)
      obtain ⟨trace, between, unread⟩ := Transport.deliver_leaves frame
        (some (link.transport.clock + patience.budget link.limit.ticks)) link.transport
      exact ⟨rfl, Transport.deliver_keeps_reads frame _ _, trace, between, unread⟩
    · intro free fault cut
      cases (sent (by simp) free).trans cut
      rfl
    · intro free whole
      cases (sent (by simp) free).trans whole
    · intro free expected received outcome
      cases outcome
      exact Request.cut_of_replyFault? (sent (by simp) free).symm

/-- The first fault of an exchange determines its error, for every request on a link and for every
opening, whatever the transport does, unless the exchange is cut off by time.

If the frame meets a failure on its writes or on its flush, then nothing is read, and the error is
that failure, or a peer that went away with zero counts. Interrupted writes do not count, an
interrupted flush does, and a write that takes no byte is a failure. Otherwise the error comes from
what ends the stream before the reply is complete: a peer that went away in a field of so many bytes
behind so many of them, a rejection if it was a select, or the failure itself if it is of another
kind. Without any fault the request is answered. -/
theorem first_fault_decides :
    (∀ (link : Link) (request : Request) (frame : List UInt8) (patience : Patience),
      link.Begins request frame → (link.exchange request patience).outcome.isCutOff = false →
      (link.exchange request patience).ByFirstFault request frame link.transport) ∧
    ∀ (opening : Opening) (frame : List UInt8), opening.request.frame = .ok frame →
      opening.turn.outcome.isCutOff = false →
      Turn.ByFirstFault opening.request frame opening.transport opening.turn := by
  constructor
  · intro link request frame patience begins uncut
    have polled : patience ≠ .never := by
      rintro rfl
      cases uncut
    have begun : link.exchange request patience = link.transact request frame patience := by
      rw [link.exchange_eq request polled, begins.ready]
      dsimp only
      rw [Link.start, begins.framed]
      dsimp only
      rw [if_pos begins.held]
    rw [begun] at uncut ⊢
    exact link.transact_byFirstFault request frame patience uncut
  · intro opening frame framed uncut
    have polled : opening.patience ≠ .never := by
      intro never
      rw [opening.turn_never never] at uncut
      cases uncut
    have begun : opening.fresh.start opening.request opening.patience =
        opening.fresh.transact opening.request frame opening.patience := by
      rw [Link.start, opening.frameFor_request, framed]
      rfl
    rw [opening.turn_eq polled, begun] at uncut ⊢
    dsimp only at uncut ⊢
    -- an opening that fails drops its transport, but leaves it as the exchange did
    have decided := opening.fresh.transact_byFirstFault opening.request frame opening.patience
    generalize opening.fresh.transact opening.request frame opening.patience = turn
      at decided uncut ⊢
    obtain ⟨outcome, link, notes⟩ := turn
    cases outcome with
    | answered answer => exact decided uncut
    | failed fault | abandoned =>
      obtain ⟨unsent, unanswered, answered, counts⟩ := decided uncut
      exact ⟨unsent, unanswered, answered, counts⟩

def faltering : Opening :=
  { patience := .unbounded
    transport := { Transport.ofReads [.failure ⟨.interrupted, "interrupted"⟩,
        .answer (.data [49, 3, 0]), .answer (.data [0, 0, 7, 0, 0, 0, 8]),
        .failure ⟨.connectionReset, "reset"⟩] with
      writes := [.answer 3, .failure ⟨.interrupted, "interrupted"⟩, .answer 100] }
    address := .standard, selection := ⟨"points", 2⟩, limit := Link.standardLimit }

theorem faltering_first_fault :
    (∃ answer : Unit, faltering.turn.outcome = .answered answer) ∧
      (faltering.turn.link.exchange (.searchMany [0, 0] 3) .unbounded).outcome =
        .failed (.peerClosed 12 5) := by
  obtain ⟨exchanges, openings⟩ := first_fault_decides
  have first := openings faltering [4, 6, 0, 0, 0, 112, 111, 105, 110, 116, 115, 2, 0, 0, 0] rfl
    (by decide +kernel)
  have begins : faltering.turn.link.Begins (.searchMany [0, 0] 3)
      [7, 3, 0, 0, 0, 0, 0, 0, 0, 0, 0, 0, 0] := by
    have selection : faltering.turn.link.selection = ⟨"points", 2⟩ := by decide +kernel
    refine ⟨by decide +kernel, by decide +kernel, ?_⟩
    rw [Request.frameFor_eq, selection]
    rfl
  have second := exchanges _ _ _ .unbounded begins (by decide +kernel)
  exact ⟨first.answered (by decide +kernel) (by decide +kernel),
    second.unanswered (by decide +kernel) _ (by decide +kernel)⟩

def interruptedOnce : Link :=
  { address := .standard, selection := ⟨"alpha", 3⟩, phase := .ready, limit := Link.standardLimit
    transport := { Transport.ofReads [.answer (.data [49])] with
      writes := [.failure ⟨.interrupted, "scripted failure"⟩] }
    custody := .held }

/-- A failed write does not always decide: one that is interrupted is made again, and the request may
be answered all the same. -/
theorem interrupted_write_answered :
    ¬ ∀ (link : Link) (request : Request) (frame : List UInt8) (cause : IoFault),
      link.Begins request frame → link.transport.writes.head? = some (.failure cause) →
      (link.exchange request .unbounded).outcome.isCutOff = false →
      (link.exchange request .unbounded).outcome = .failed (.ofIo cause) := by
  intro decides
  have begins : interruptedOnce.Begins (.delete 5) [3, 5, 0, 0, 0] := by
    refine ⟨rfl, rfl, ?_⟩
    rw [Request.frameFor_eq]
    rfl
  have failed := decides _ _ _ _ begins rfl (by decide +kernel)
  have answered : (show Outcome Bool from
      (interruptedOnce.exchange (.delete 5) .unbounded).outcome) = .answered true := by
    decide +kernel
  cases failed.symm.trans answered

end VectorLink
