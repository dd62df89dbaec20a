import VectorLink.Proofs.Transport.Exact

/-! What of a stream arrives in time.

A reader with a deadline cannot tell a wait that ends too late from one that never ends. So there is
for every deadline a stream without any pauses that is read just as the stream at hand is: the bytes
at its front are those that arrive in time, and how a field is read depends on nothing else.
-/

set_option autoImplicit false

namespace VectorLink

namespace Flow

/-- A stream as a reader with this deadline sees it from this moment on. Waits that end in time are
not seen, and the first that does not is the last thing seen. -/
def timely (deadline : Deadline) : Nat → Flow → Flow
  | _, [] => []
  | clock, .answer byte :: rest => .answer byte :: timely deadline clock rest
  | clock, .failure cause :: rest => .failure cause :: timely deadline clock rest
  | clock, .pause millis :: rest =>
    if deadline.Admits (clock + millis) then timely deadline (clock + millis) rest else [.hang]
  | _, .hang :: _ => [.hang]

theorem lead_timely_prefix (deadline : Deadline) (clock : Nat) (flow : Flow) :
    lead (timely deadline clock flow) <+: lead flow := by
  induction flow generalizing clock with
  | nil => exact List.prefix_rfl
  | cons event rest ih =>
    cases event with
    | answer byte =>
      cases byte with
      | none => exact List.prefix_rfl
      | some byte => exact List.cons_prefix_cons.mpr ⟨rfl, ih clock⟩
    | failure cause => exact List.prefix_rfl
    | pause millis =>
      rw [timely]
      split
      · exact ih (clock + millis)
      · exact List.nil_prefix
    | hang => exact List.prefix_rfl

theorem bytes_draw (deadline : Deadline) (clock missing : Nat) (got : List UInt8) (flow : Flow) :
    bytes flow = (lead (timely deadline clock flow)).take missing ++
      bytes (draw deadline clock missing got flow).left := by
  fun_induction draw deadline clock missing got flow with
  | case1 clock got flow => rw [List.take_zero, List.nil_append]
  | case2 clock missing got => rfl
  | case3 clock missing got byte rest ih => exact congrArg (byte :: ·) ih
  | case4 clock missing got rest => rfl
  | case5 clock missing got cause rest => rfl
  | case6 clock missing got millis rest inTime ih =>
    rw [timely, if_pos inTime]
    exact ih
  | case7 clock missing got millis rest late stop =>
    rw [timely, if_neg late]
    rfl
  | case8 clock missing got rest => rfl

theorem draw_timely (deadline : Deadline) (clock now missing : Nat) (got : List UInt8)
    (flow : Flow) :
    (draw deadline clock missing got flow).ending =
        (draw none now missing got (timely deadline clock flow)).ending ∧
      ((draw deadline clock missing got flow).ending ≠ .waiting →
        timely deadline (draw deadline clock missing got flow).clock
            (draw deadline clock missing got flow).left =
          (draw none now missing got (timely deadline clock flow)).left) := by
  fun_induction draw deadline clock missing got flow with
  | case1 clock got flow => simp
  | case2 clock missing got => exact ⟨rfl, fun _ => rfl⟩
  | case3 clock missing got byte rest ih => exact ih
  | case4 clock missing got rest => exact ⟨rfl, fun _ => rfl⟩
  | case5 clock missing got cause rest => exact ⟨rfl, fun _ => rfl⟩
  | case6 clock missing got millis rest inTime ih =>
    rw [timely, if_pos inTime]
    exact ih
  | case7 clock missing got millis rest late stop =>
    rw [timely, if_neg late]
    exact ⟨rfl, fun waits => absurd rfl waits⟩
  | case8 clock missing got rest => exact ⟨rfl, fun waits => absurd rfl waits⟩

theorem draw_reading_timely (deadline : Deadline) (clock missing : Nat) (flow : Flow) :
    Transport.inOrder (draw deadline clock missing [] flow).ending =
        reading missing (timely deadline clock flow) ∧
      ((draw deadline clock missing [] flow).ending ≠ .waiting →
        timely deadline (draw deadline clock missing [] flow).clock
            (draw deadline clock missing [] flow).left =
          behind missing (timely deadline clock flow)) := by
  obtain ⟨same, later⟩ := draw_timely deadline clock 0 missing [] flow
  have free : Transport.inOrder (draw none 0 missing [] (timely deadline clock flow)).ending =
        reading missing (timely deadline clock flow) ∧
      (draw none 0 missing [] (timely deadline clock flow)).left =
        behind missing (timely deadline clock flow) := draw_reading (.inr rfl)
  constructor
  · rw [same, free.1]
  · intro ends
    rw [later ends, free.2]

end Flow

namespace Transport

open VectorLink.Flow (ofScript lead timely behind)

def inTime (deadline : Deadline) (transport : Transport) : Flow :=
  timely deadline transport.clock (ofScript transport.reads)

/-- The bytes that arrive before the deadline passes and before the stream ends, fails or hangs. -/
def arrivals (deadline : Deadline) (transport : Transport) : List UInt8 :=
  lead (transport.inTime deadline)

theorem arrivals_prefix (deadline : Deadline) (transport : Transport) :
    transport.arrivals deadline <+: lead (ofScript transport.reads) :=
  Flow.lead_timely_prefix deadline transport.clock _

/-- How the reading of so many bytes goes under a deadline. -/
inductive Arrives {ε : Type} (length : Nat) (deadline : Deadline) (before : Transport) :
    Ending ε (List UInt8) × Transport → Prop where
  | enough {after : Transport} : length ≤ (before.arrivals deadline).length →
      after.arrivals deadline = (before.arrivals deadline).drop length →
      after.received = before.received ++ (before.arrivals deadline).take length →
      Arrives length deadline before (.done ((before.arrivals deadline).take length), after)
  | short {after : Transport} {ending : Ending ε (List UInt8)} :
      (before.arrivals deadline).length < length →
      after.received = before.received ++ before.arrivals deadline →
      (∀ bytes, ending ≠ .done bytes) → Arrives length deadline before (ending, after)

theorem Arrives.mapError {ε ε' : Type} {length : Nat} {deadline : Deadline} {before : Transport}
    {activity : Activity ε (List UInt8)}
    (arrives : Arrives length deadline before (activity deadline before)) (restate : ε → ε') :
    Arrives length deadline before (Activity.mapError restate activity deadline before) := by
  rcases run : activity deadline before with ⟨ending, after⟩
  rw [run] at arrives
  cases arrives with
  | enough enough left received =>
    rw [Activity.mapError_of_done run]
    exact .enough enough left received
  | short short received unfinished =>
    cases ending with
    | done bytes => exact absurd rfl (unfinished bytes)
    | failed shortage =>
      rw [Activity.mapError_of_failed run]
      exact .short short received nofun
    | waiting =>
      rw [Activity.mapError_of_waiting run]
      exact .short short received nofun

variable {length : Nat} {activity : Activity Shortage (List UInt8)}

theorem Draws.received_arrivals (draws : Draws length activity) (reading : activity.Reading)
    (deadline : Deadline) (transport : Transport) :
    (activity deadline transport).2.received =
      transport.received ++ (transport.arrivals deadline).take length := by
  have kept := reading_keeps read_keeps_stream reading deadline transport
  have left := (of_drawn_eq (draws deadline transport)).2.2
  unfold stream at kept
  rw [left, Flow.bytes_draw deadline transport.clock length [] (ofScript transport.reads),
    ← List.append_assoc] at kept
  exact List.append_cancel_right kept

theorem Draws.arrives (draws : Draws length activity) (reading : activity.Reading)
    (deadline : Deadline) (transport : Transport) :
    Arrives length deadline transport (activity deadline transport) := by
  have received := draws.received_arrivals reading deadline transport
  have all (short : (transport.arrivals deadline).length < length) :
      (activity deadline transport).2.received =
        transport.received ++ transport.arrivals deadline := by
    rw [received, List.take_of_length_le (Nat.le_of_lt short)]
  obtain ⟨ends, clock, left⟩ := of_drawn_eq (draws deadline transport)
  obtain ⟨goes, later⟩ := Flow.draw_reading_timely deadline transport.clock length
    (ofScript transport.reads)
  have cases := Flow.reading_cases length (transport.inTime deadline)
  rw [← show _ = Flow.reading length (transport.inTime deadline) from ends.trans goes] at cases
  rcases run : activity deadline transport with ⟨ending, after⟩
  rw [run] at ends clock left received all cases
  cases cases with
  | enough enough =>
    apply Arrives.enough enough
    -- a reading that is complete leaves the part of the stream in time behind what it has taken
    · have done : (Flow.draw deadline transport.clock length []
          (ofScript transport.reads)).ending ≠ .waiting := by
        intro waits
        rw [waits] at ends
        cases ends
      have front : after.inTime deadline = behind length (transport.inTime deadline) := by
        unfold inTime
        rw [clock, left]
        exact later done
      unfold arrivals
      rw [front, Flow.lead_behind enough]
    · exact received
  | short short stops => exact .short short (all short) (by simp)
  | hung short hung => exact .short short (all short) (by simp)

end Transport

end VectorLink
