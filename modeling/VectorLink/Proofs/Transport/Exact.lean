import VectorLink.Proofs.Transport.Flow

/-! Reading exactly so many bytes.

A stream begins with some bytes, and something ends them: an end of the stream, a failure, or a
hang. That alone decides how the reading of a known length goes, in whatever pieces the bytes come
and in however many steps a buffer grows. So two ways of reading a field are the same, and a field
may be read in two parts.
-/

set_option autoImplicit false

namespace VectorLink

inductive Halt where
  | ended
  | broken (cause : IoFault)
  | hung
  deriving DecidableEq, Repr

/-- The shortage that this is when so many bytes have come. A hang is none, since nothing comes
of it. -/
def Halt.shortage? (received : Nat) : Halt → Option Shortage
  | ended => some (.ended received)
  | broken cause => some (.ofFailure received cause)
  | hung => none

def Halt.fault? (expected received : Nat) : Halt → Option Fault
  | ended => some (.peerClosed expected received)
  | broken cause =>
    some (if cause.kind.isDisconnect then .peerClosed expected received else .io cause)
  | hung => none

theorem Halt.map_fault_shortage? (expected received : Nat) (halt : Halt) :
    (halt.shortage? received).map (Shortage.fault expected) = halt.fault? expected received := by
  cases halt with
  | ended => rfl
  | broken cause =>
    simp only [shortage?, fault?, Shortage.ofFailure, Option.map_some]
    split <;> rfl
  | hung => rfl

def Shortage.behind (earlier : Nat) : Shortage → Shortage
  | ended received => ended (received + earlier)
  | broken cause => broken cause

theorem Shortage.ofFailure_behind (earlier received : Nat) (cause : IoFault) :
    (ofFailure received cause).behind earlier = ofFailure (received + earlier) cause := by
  unfold ofFailure
  split <;> rfl

namespace Flow

/-! ### The front of a stream -/

def lead : Flow → List UInt8
  | .answer (some byte) :: rest => byte :: lead rest
  | .pause _ :: rest => lead rest
  | [] | .answer none :: _ | .failure _ :: _ | .hang :: _ => []

def halt : Flow → Halt
  | .answer (some _) :: rest | .pause _ :: rest => halt rest
  | [] | .answer none :: _ => .ended
  | .failure cause :: _ => .broken cause
  | .hang :: _ => .hung

/-- What stands right behind so many bytes or, if there are not so many in front, behind what ends
them. Nothing is ever behind a hang. -/
def behind : Nat → Flow → Flow
  | 0, flow => flow
  | _ + 1, [] => []
  | length + 1, .answer (some _) :: rest => behind length rest
  | length + 1, .pause _ :: rest => behind (length + 1) rest
  | _ + 1, .answer none :: rest | _ + 1, .failure _ :: rest => rest
  | _ + 1, .hang :: rest => .hang :: rest

@[simp] theorem behind_zero (flow : Flow) : behind 0 flow = flow := by
  unfold behind
  rfl

theorem bytes_behind (length : Nat) (flow : Flow) :
    bytes flow = (lead flow).take length ++ bytes (behind length flow) := by
  fun_induction behind length flow with
  | case1 flow => rfl
  | case2 length => rfl
  | case3 length byte rest ih => exact congrArg (byte :: ·) ih
  | case4 length millis rest ih => exact ih
  | case5 length rest => rfl
  | case6 length cause rest => rfl
  | case7 length rest => rfl

theorem lead_behind {length : Nat} {flow : Flow} (enough : length ≤ (lead flow).length) :
    lead (behind length flow) = (lead flow).drop length := by
  fun_induction behind length flow with
  | case1 flow => rfl
  | case3 length byte rest ih => exact ih (Nat.le_of_succ_le_succ enough)
  | case4 length millis rest ih => exact ih enough
  | case2 length | case5 length rest | case6 length cause rest | case7 length rest =>
    exact absurd enough (by simp [lead])

/-! ### Draughts off a stream -/

/-- How the reading of so many bytes ends: with the bytes at the front of the stream if these are
enough, and otherwise with what ends them. -/
def reading (length : Nat) (flow : Flow) : Ending Shortage (List UInt8) :=
  if length ≤ (lead flow).length then .done ((lead flow).take length)
  else match (halt flow).shortage? (lead flow).length with
    | some shortage => .failed shortage
    | none => .waiting

inductive Reads (length : Nat) (flow : Flow) : Ending Shortage (List UInt8) → Prop where
  | enough : length ≤ (lead flow).length → Reads length flow (.done ((lead flow).take length))
  | short {shortage : Shortage} : (lead flow).length < length →
      (halt flow).shortage? (lead flow).length = some shortage → Reads length flow (.failed shortage)
  | hung : (lead flow).length < length → halt flow = .hung → Reads length flow .waiting

theorem reading_cases (length : Nat) (flow : Flow) : Reads length flow (reading length flow) := by
  unfold reading
  by_cases enough : length ≤ (lead flow).length
  · rw [if_pos enough]
    exact .enough enough
  · rw [if_neg enough]
    have short : (lead flow).length < length := Nat.lt_of_not_le enough
    cases stops : halt flow with
    | ended => exact .short short (by rw [stops]; rfl)
    | broken cause => exact .short short (by rw [stops]; rfl)
    | hung => exact .hung short stops

def Drawn.onTop (earlier : List UInt8) (drawn : Drawn) : Drawn :=
  { drawn with ending := match drawn.ending with
      | .done got => .done (got ++ earlier)
      | .failed shortage => .failed (shortage.behind earlier.length)
      | .waiting => .waiting }

variable {deadline : Deadline}

theorem draw_onTop (clock missing : Nat) (got earlier : List UInt8) (flow : Flow) :
    draw deadline clock missing (got ++ earlier) flow =
      (draw deadline clock missing got flow).onTop earlier := by
  fun_induction draw deadline clock missing got flow with
  | case1 clock got flow =>
    rw [draw_zero]
    rfl
  | case2 clock missing got => simp [draw, Drawn.onTop, Shortage.behind]
  | case3 clock missing got byte rest ih => exact ih
  | case4 clock missing got rest => simp [draw, Drawn.onTop, Shortage.behind]
  | case5 clock missing got cause rest =>
    simp [draw, Drawn.onTop, Shortage.ofFailure_behind]
  | case6 clock missing got millis rest inTime ih => exact (if_pos inTime).trans ih
  | case7 clock missing got millis rest late stop => exact if_neg late
  | case8 clock missing got rest => rfl

theorem draw_eq_onTop (clock missing : Nat) (got : List UInt8) (flow : Flow) :
    draw deadline clock missing got flow = (draw deadline clock missing [] flow).onTop got :=
  draw_onTop clock missing [] got flow

theorem reading_cons (length : Nat) (byte : UInt8) (rest : Flow) :
    reading (length + 1) (.answer (some byte) :: rest) =
      match reading length rest with
      | .done all => .done (byte :: all)
      | .failed shortage => .failed (shortage.behind 1)
      | .waiting => .waiting := by
  unfold reading
  simp only [lead, halt, List.length_cons, Nat.add_le_add_iff_right, List.take_succ_cons]
  by_cases enough : length ≤ (lead rest).length
  · rw [if_pos enough, if_pos enough]
  · rw [if_neg enough, if_neg enough]
    cases halt rest with
    | ended => rfl
    | broken cause => simp only [Halt.shortage?, Shortage.ofFailure_behind]
    | hung => rfl

-- Unless it is cut off by time, a draught goes as the front of the stream says.
theorem draw_reading {clock missing : Nat} {flow : Flow}
    (ends : (draw deadline clock missing [] flow).ending ≠ .waiting ∨ deadline = none) :
    Transport.inOrder (draw deadline clock missing [] flow).ending = reading missing flow ∧
      (draw deadline clock missing [] flow).left = behind missing flow := by
  -- along the stream: a byte is one less to come, a pause moves the clock, all else stops the
  -- draught
  fun_induction behind missing flow generalizing clock with
  | case1 flow => simp [reading, Transport.inOrder]
  | case2 missing => exact ⟨rfl, rfl⟩
  | case3 missing byte rest ih =>
    have later : draw deadline clock (missing + 1) [] (.answer (some byte) :: rest) =
        (draw deadline clock missing [] rest).onTop [byte] :=
      draw_eq_onTop clock missing [byte] rest
    rw [later] at ends ⊢
    have ends : (draw deadline clock missing [] rest).ending ≠ .waiting ∨ deadline = none := by
      refine ends.imp_left fun ends waits => ends ?_
      simp [Drawn.onTop, waits]
    obtain ⟨ending, left⟩ := ih ends
    refine ⟨?_, left⟩
    rw [reading_cons, ← ending]
    simp only [Drawn.onTop]
    cases (draw deadline clock missing [] rest).ending <;> simp [Transport.inOrder]
  | case4 missing millis rest ih =>
    by_cases inTime : deadline.Admits (clock + millis)
    · have later : draw deadline clock (missing + 1) [] (.pause millis :: rest) =
          draw deadline (clock + millis) (missing + 1) [] rest := if_pos inTime
      rw [later] at ends ⊢
      exact ih ends
    · have late : (draw deadline clock (missing + 1) [] (.pause millis :: rest)).ending = .waiting := by
        rw [draw, if_neg inTime]
      rcases ends with ends | rfl
      · exact absurd late ends
      · exact absurd (by rintro limit ⟨⟩) inTime
  | case5 missing rest => exact ⟨rfl, rfl⟩
  | case6 missing cause rest => exact ⟨rfl, rfl⟩
  | case7 missing rest => exact ⟨rfl, rfl⟩

end Flow

namespace Activity

variable {ε ε' α : Type}

/-- Two runs that end alike, at the same time, and leave the same stream. -/
structure SameRun (first second : Ending ε α × Transport) : Prop where
  ending : first.1 = second.1
  clock : first.2.clock = second.2.clock
  flow : Flow.ofScript first.2.reads = Flow.ofScript second.2.reads

theorem SameRun.mapError {first second : Activity ε α} {deadline : Deadline} {transport : Transport}
    (same : SameRun (first deadline transport) (second deadline transport)) (restate : ε → ε') :
    SameRun (first.mapError restate deadline transport)
      (second.mapError restate deadline transport) := by
  rcases run : first deadline transport with ⟨ending, after⟩
  rcases other : second deadline transport with ⟨ending', after'⟩
  rw [run, other] at same
  obtain ⟨rfl, clock, flow⟩ := same
  unfold Activity.mapError
  rw [run, other]
  cases ending <;> exact ⟨rfl, clock, flow⟩

end Activity

namespace Transport

open Activity (SameRun)
open VectorLink.Flow (ofScript draw lead halt behind)

/-! ### Reading fields -/

theorem of_drawn_eq {ending : Ending Shortage (List UInt8)} {after : Transport} {draught : Flow.Drawn}
    (same : drawn (ending, after) = draught.inOrder) :
    ending = inOrder draught.ending ∧ after.clock = draught.clock ∧
      ofScript after.reads = draught.left :=
  (Flow.Drawn.mk.injEq ..).mp same

def Draws (length : Nat) (activity : Activity Shortage (List UInt8)) : Prop :=
  ∀ deadline transport, drawn (activity deadline transport) =
    (draw deadline transport.clock length [] (ofScript transport.reads)).inOrder

variable {length : Nat} {activity other : Activity Shortage (List UInt8)}

theorem Draws.reading (draws : Draws length activity) (deadline : Deadline) (transport : Transport)
    (ends : (activity deadline transport).1 ≠ .waiting ∨ deadline = none) :
    (activity deadline transport).1 = Flow.reading length (ofScript transport.reads) ∧
      ofScript (activity deadline transport).2.reads =
        behind length (ofScript transport.reads) := by
  obtain ⟨ending, -, flow⟩ := of_drawn_eq (draws deadline transport)
  rw [ending] at ends ⊢
  rw [flow]
  refine Flow.draw_reading (ends.imp_left fun ends waits => ends ?_)
  rw [waits]
  rfl

theorem Draws.sameRun (draws : Draws length activity) (draws' : Draws length other)
    (deadline : Deadline) (transport : Transport) :
    SameRun (activity deadline transport) (other deadline transport) := by
  have same := (draws deadline transport).trans (draws' deadline transport).symm
  obtain ⟨ending, clock, flow⟩ := (Flow.Drawn.mk.injEq ..).mp same
  exact ⟨ending, clock, flow⟩

theorem Draws.received (draws : Draws length activity) (reading : activity.Reading)
    (deadline : Deadline) (transport : Transport)
    (ends : (activity deadline transport).1 ≠ .waiting ∨ deadline = none) :
    (activity deadline transport).2.received =
      transport.received ++ (lead (ofScript transport.reads)).take length := by
  have kept := reading_keeps read_keeps_stream reading deadline transport
  unfold stream at kept
  rw [(draws.reading deadline transport ends).2, Flow.bytes_behind length (ofScript transport.reads),
    ← List.append_assoc] at kept
  exact List.append_cancel_right kept

/-- How the reading of a field of so many bytes goes, when nothing cuts it short: a client gets the
first bytes of the stream if so many come, and otherwise the fault of what ends them. Nothing else is
taken off the stream, and for no byte nothing is done at all. -/
structure Exact (length : Nat) (before : Transport) (run : Ending Fault (List UInt8) × Transport) :
    Prop where
  done_iff : ∀ bytes, run.1 = .done bytes ↔
    length ≤ (lead (ofScript before.reads)).length ∧
      bytes = (lead (ofScript before.reads)).take length
  failed_iff : ∀ fault, run.1 = .failed fault ↔
    (lead (ofScript before.reads)).length < length ∧
      (halt (ofScript before.reads)).fault? length (lead (ofScript before.reads)).length = some fault
  waiting_iff : run.1 = .waiting ↔
    (lead (ofScript before.reads)).length < length ∧ halt (ofScript before.reads) = .hung
  left : ofScript run.2.reads = behind length (ofScript before.reads)
  received : run.2.received =
    before.received ++ (lead (ofScript before.reads)).take length
  idle : length = 0 → run.2 = before

theorem Draws.exact (draws : Draws length activity) (reading : activity.Reading)
    (idle : length = 0 → ∀ transport, (activity none transport).2 = transport)
    (transport : Transport) :
    Exact length transport (activity.mapError (Shortage.fault length) none transport) := by
  obtain ⟨goes, left⟩ := draws.reading none transport (.inr rfl)
  have received := draws.received reading none transport (.inr rfl)
  have idle := fun zero => idle zero transport
  rcases run : activity none transport with ⟨ending, after⟩
  rw [run] at goes left received idle
  -- the front of the stream suffices, or something ends it, or it hangs: each clause in each case
  have cases := Flow.reading_cases length (ofScript transport.reads)
  rw [← show ending = _ from goes] at cases
  cases cases with
  | enough enough =>
    rw [Activity.mapError_of_done run]
    refine ⟨?_, ?_, ?_, left, received, idle⟩
    · simp [enough, eq_comm]
    · simp [Nat.not_lt.mpr enough]
    · simp [Nat.not_lt.mpr enough]
  | short short stops =>
    rw [Activity.mapError_of_failed run]
    have fault := Halt.map_fault_shortage? length (lead (ofScript transport.reads)).length
      (halt (ofScript transport.reads))
    rw [stops] at fault
    refine ⟨?_, ?_, ?_, left, received, idle⟩
    · simp [short]
    · simp [short, ← fault]
    · simp only [reduceCtorEq, false_iff, not_and]
      intro _ hung
      rw [hung] at stops
      cases stops
  | hung short hung =>
    rw [Activity.mapError_of_waiting run]
    refine ⟨?_, ?_, ?_, left, received, idle⟩
    · simp [short]
    · simp [hung, Halt.fault?]
    · simp [short, hung]

theorem readWhole_idle {length : Nat} (zero : length = 0) (transport : Transport) :
    (readWhole length none transport).2 = transport := by
  subst zero
  unfold readWhole
  rw [readOn, dif_neg (by decide)]

def readSplit (first later : Nat) : Activity Shortage (List UInt8 × List UInt8) := do
  let front ← readWhole first
  let back ← Activity.mapError (Shortage.behind first) (readWhole later)
  return (front, back)

def splitRead (first later : Nat) : Activity Shortage (List UInt8 × List UInt8) := do
  let all ← readWhole (first + later)
  return (all.take first, all.drop first)

theorem length_of_readWhole {length : Nat} {deadline : Deadline} {transport after : Transport}
    {bytes : List UInt8} (run : readWhole length deadline transport = (.done bytes, after)) :
    bytes.length = length := by
  obtain ⟨trace, -, -, same, size⟩ := (readWhole_leaves length).of_run run
  rw [same, List.nil_append, size]

theorem readSplit_sameRun (first later : Nat) (deadline : Deadline) (transport : Transport) :
    SameRun (readSplit first later deadline transport)
      (splitRead first later deadline transport) := by
  have whole := drawn_readWhole (first + later) deadline transport
  have front := drawn_readWhole first deadline transport
  rw [Nat.add_comm, Flow.draw_add, Nat.add_comm] at whole
  generalize draw deadline transport.clock first [] (ofScript transport.reads) = drawn at whole front
  obtain ⟨ending, clock, flow⟩ := drawn
  unfold readSplit splitRead
  rcases one : readWhole first deadline transport with ⟨ending', middle⟩
  rcases both : readWhole (first + later) deadline transport with ⟨result, last⟩
  rw [one] at front
  rw [both] at whole
  obtain ⟨rfl, rfl, rfl⟩ := of_drawn_eq front
  cases ending with
  | failed shortage =>
    obtain ⟨rfl, time, left⟩ := of_drawn_eq whole
    rw [Activity.bind_of_failed one, Activity.bind_of_failed both]
    exact ⟨rfl, time.symm, left.symm⟩
  | waiting =>
    obtain ⟨rfl, time, left⟩ := of_drawn_eq whole
    rw [Activity.bind_of_waiting one, Activity.bind_of_waiting both]
    exact ⟨rfl, time.symm, left.symm⟩
  | done got =>
    have size : got.reverse.length = first := length_of_readWhole one
    have back := drawn_readWhole later deadline middle
    -- the whole goes on as the second part does, on top of the first
    have whole : Transport.drawn (result, last) = ((draw deadline middle.clock later []
        (ofScript middle.reads)).onTop got).inOrder := by
      rw [whole, ← Flow.draw_eq_onTop]
      rfl
    generalize draw deadline middle.clock later [] (ofScript middle.reads) = drawn at whole back
    obtain ⟨ending, clock, flow⟩ := drawn
    rw [Activity.bind_of_done one]
    rcases two : readWhole later deadline middle with ⟨ending', final⟩
    rw [two] at back
    obtain ⟨rfl, rfl, rfl⟩ := of_drawn_eq back
    obtain ⟨rfl, time, left⟩ := of_drawn_eq whole
    cases ending with
    | failed shortage =>
      rw [Activity.bind_of_failed (Activity.mapError_of_failed two), Activity.bind_of_failed both]
      rw [List.length_reverse] at size
      exact ⟨congrArg (fun earlier => Ending.failed (shortage.behind earlier)) size.symm, time.symm,
        left.symm⟩
    | waiting =>
      rw [Activity.bind_of_waiting (Activity.mapError_of_waiting two),
        Activity.bind_of_waiting both]
      exact ⟨rfl, time.symm, left.symm⟩
    | done more =>
      rw [Activity.bind_of_done (Activity.mapError_of_done two), Activity.bind_of_done both]
      have order : (more ++ got).reverse = got.reverse ++ more.reverse := List.reverse_append
      have take : (more ++ got).reverse.take first = got.reverse := by
        rw [order, List.take_left' size]
      have drop : (more ++ got).reverse.drop first = more.reverse := by
        rw [order, List.drop_left' size]
      refine ⟨?_, time.symm, left.symm⟩
      show Ending.done (got.reverse, more.reverse) =
        Ending.done ((more ++ got).reverse.take first, (more ++ got).reverse.drop first)
      rw [take, drop]

/-- Reading exactly so many bytes. Whether a buffer is there at once or grows in steps, and however
the stream is cut, the reading goes as the front of the stream says: it brings exactly the first bytes
if so many come before the stream ends, fails or hangs, and otherwise fails with the count of those
that came. The two ways of reading are the same on every stream and under every deadline, and to
read one field behind another is to read both as one and to split that. -/
theorem reading_exact (length : Nat) (transport : Transport) :
    Exact length transport
        (Activity.mapError (Shortage.fault length) (readWhole length) none transport) ∧
      (∀ deadline, SameRun
        (Activity.mapError (Shortage.fault length) (readField length) deadline transport)
        (Activity.mapError (Shortage.fault length) (readWhole length) deadline transport)) ∧
      ∀ later deadline, SameRun (readSplit length later deadline transport)
        (splitRead length later deadline transport) := by
  refine ⟨?_, ?_, ?_⟩
  · exact Draws.exact (drawn_readWhole length) (.whole length) readWhole_idle transport
  · intro deadline
    exact (Draws.sameRun (drawn_readField length) (drawn_readWhole length) deadline
      transport).mapError _
  · intro later deadline
    exact readSplit_sameRun length later deadline transport

end Transport

end VectorLink
