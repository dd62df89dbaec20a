import VectorLink.Proofs.Transport.Kept
import VectorLink.Proofs.Transport.Pieces

/-! What stops a frame on its way out.

The scripts of a transport tell before anything is sent which failure a frame will meet first, if
any: pauses only take time, a write that takes some bytes brings the frame nearer to its end, and an
interrupted write is made again. Unless it is cut off by time, sending a frame ends with exactly that
failure, and without one it goes through. Nothing is read meanwhile.
-/

set_option autoImplicit false

namespace VectorLink

def Ending.error? {ε α : Type} : Ending ε α → Option ε
  | .failed error => some error
  | .done _ | .waiting => none

namespace Event

/-- The failure that stops a frame with so many bytes left, whose writes meet these events. A write
that takes no byte is one. -/
def obstacle? : Nat → List (Event Nat) → Option IoFault
  | 0, _ | _ + 1, [] | _ + 1, .hang :: _ => none
  | _ + 1, .answer 0 :: _ => some .wroteNothing
  | left + 1, .answer (most + 1) :: rest => obstacle? (left - most) rest
  | left + 1, .failure cause :: rest =>
    if cause.kind = .interrupted then obstacle? (left + 1) rest else some cause
  | left + 1, .pause _ :: rest => obstacle? (left + 1) rest

/-- The failure of a flush that meets these events. An interruption is one here. -/
def setback? : List (Event Unit) → Option IoFault
  | [] | .answer _ :: _ | .hang :: _ => none
  | .failure cause :: _ => some cause
  | .pause _ :: rest => setback? rest

@[simp] theorem obstacle?_zero (events : List (Event Nat)) : obstacle? 0 events = none := by
  unfold obstacle?
  rfl

theorem obstacle?_meet (deadline : Deadline) (clock left : Nat) (events : List (Event Nat)) :
    let meeting := meet (fun _ => false) deadline clock events
    meeting.encounter ≠ .waiting →
      obstacle? (left + 1) events =
        match meeting.encounter with
        | .answer 0 => some .wroteNothing
        | .answer (most + 1) => obstacle? (left - most) meeting.rest
        | .failure cause =>
          if cause.kind = .interrupted then obstacle? (left + 1) meeting.rest else some cause
        | .waiting | .exhausted => none := by
  dsimp only
  intro ends
  fun_induction meet (fun _ => false) deadline clock events with
  | case1 clock => rfl
  | case2 clock value rest idle => cases idle
  | case3 clock value rest => cases value <;> rfl
  | case4 clock cause rest => rfl
  | case5 clock millis rest inTime ih => exact ih ends
  | case6 clock millis rest late => exact absurd rfl ends
  | case7 clock rest => exact absurd rfl ends

theorem setback?_meet (deadline : Deadline) (clock : Nat) (events : List (Event Unit)) :
    let meeting := meet (fun _ => false) deadline clock events
    meeting.encounter ≠ .waiting →
      setback? events =
        match meeting.encounter with
        | .failure cause => some cause
        | .answer _ | .waiting | .exhausted => none := by
  dsimp only
  intro ends
  fun_induction meet (fun _ => false) deadline clock events with
  | case1 clock => rfl
  | case2 clock value rest idle => cases idle
  | case3 clock value rest => rfl
  | case4 clock cause rest => rfl
  | case5 clock millis rest inTime ih => exact ih ends
  | case6 clock millis rest late => exact absurd rfl ends
  | case7 clock rest => exact absurd rfl ends

end Event

namespace Transport

open Event (obstacle? setback?)

def obstacleBehind (bytes : List UInt8) : Ending IoFault Nat × Transport → Option IoFault
  | (.done 0, _) => some .wroteNothing
  | (.done (taken + 1), after) => obstacle? (bytes.drop (taken + 1)).length after.writes
  | (.failed cause, after) =>
    if cause.kind = .interrupted then obstacle? bytes.length after.writes else some cause
  | (.waiting, _) => none

theorem obstacle?_write {bytes : List UInt8} {deadline : Deadline} {transport after : Transport}
    {ending : Ending IoFault Nat}
    (some_left : bytes ≠ []) (step : write bytes deadline transport = (ending, after))
    (ends : ending ≠ .waiting) :
    obstacle? bytes.length transport.writes = obstacleBehind bytes (ending, after) := by
  obtain ⟨fewer, size⟩ := Nat.exists_eq_succ_of_ne_zero (mt List.length_eq_zero_iff.mp some_left)
  have meets := Event.obstacle?_meet deadline transport.clock fewer transport.writes
  unfold write at step
  dsimp only at step meets
  rw [size]
  cases met : (Event.meet (fun _ => false) deadline transport.clock transport.writes).encounter with
  | answer most =>
    rw [met] at step
    obtain ⟨rfl, rfl⟩ := Prod.mk.inj step
    rw [meets (by simp [met]), met]
    cases most with
    | zero => simp [obstacleBehind]
    | succ most =>
      -- the write takes as many bytes as it may, or all
      have taken : min (most + 1) bytes.length = min most fewer + 1 := by omega
      have left : (bytes.drop (min most fewer + 1)).length = fewer - most := by
        rw [List.length_drop]
        omega
      simp only [taken, obstacleBehind, left, note]
  | failure cause =>
    rw [met] at step
    obtain ⟨rfl, rfl⟩ := Prod.mk.inj step
    rw [meets (by simp [met]), met]
    simp [obstacleBehind, size]
  | exhausted =>
    rw [met] at step
    obtain ⟨rfl, rfl⟩ := Prod.mk.inj step
    rw [meets (by simp [met]), met]
    simp [size, obstacleBehind]
  | waiting =>
    rw [met] at step
    exact absurd (Prod.mk.inj step).1.symm ends

theorem writeWhole_error? (frame : List UInt8) (deadline : Deadline) (transport : Transport)
    (ends : (writeWhole frame deadline transport).1 ≠ .waiting) :
    (writeWhole frame deadline transport).1.error? = obstacle? frame.length transport.writes := by
  fun_induction writeWhole frame deadline transport with
  | case1 transport => simp [Ending.error?]
  | case2 frame transport left after step =>
    rw [obstacle?_write left step (by simp)]
    rfl
  | case3 frame transport left taken after step ih =>
    rw [obstacle?_write left step (by simp)]
    exact ih ends
  | case4 frame transport left cause after step interrupted ih =>
    rw [obstacle?_write left step (by simp)]
    exact (ih ends).trans (if_pos interrupted).symm
  | case5 frame transport left cause after step final =>
    rw [obstacle?_write left step (by simp)]
    exact (if_neg final).symm
  | case6 frame transport left after step => exact absurd rfl ends

theorem flush_error? (deadline : Deadline) (transport : Transport)
    (ends : (flush deadline transport).1 ≠ .waiting) :
    (flush deadline transport).1.error? = setback? transport.flushes := by
  have meets := Event.setback?_meet deadline transport.clock transport.flushes
  unfold flush at ends ⊢
  dsimp only at ends meets ⊢
  cases met : (Event.meet (fun _ => false) deadline transport.clock transport.flushes).encounter with
  | waiting => simp [met] at ends
  | answer _ | failure cause | exhausted =>
    rw [meets (by simp [met]), met]
    rfl

/-- The first failure that a frame of so many bytes meets, on its writes or behind them on its
flush. -/
def hindrance? (transport : Transport) (length : Nat) : Option IoFault :=
  (obstacle? length transport.writes).or (setback? transport.flushes)

theorem deliver_error? (frame : List UInt8) (deadline : Deadline) (transport : Transport)
    (ends : (deliver frame deadline transport).1 ≠ .waiting) :
    (deliver frame deadline transport).1.error? =
      (transport.hindrance? frame.length).map Fault.ofIo := by
  unfold deliver at ends ⊢
  have written := writeWhole_error? frame deadline transport
  unfold hindrance?
  rcases writing : writeWhole frame deadline transport with ⟨ending, middle⟩
  rw [writing] at written
  cases ending with
  | waiting =>
    rw [Activity.mapError_of_waiting (Activity.bind_of_waiting writing)] at ends
    exact absurd rfl ends
  | failed cause =>
    rw [Activity.mapError_of_failed (Activity.bind_of_failed writing), ← written (by simp)]
    rfl
  | done value =>
    -- the writes have left the script of the flushes alone, so its first failure is still the one
    have flushes : middle.flushes = transport.flushes :=
      (writeWhole_keeps (write_keeps fun _ _ _ _ => rfl) frame).of_run writing
    have flushed := flush_error? deadline middle
    rw [← written (by simp), ← flushes]
    rcases flushing : flush deadline middle with ⟨ending, after⟩
    rw [flushing] at flushed
    have sending : (do writeWhole frame; flush : Activity IoFault Unit) deadline transport =
        (ending, after) := (Activity.bind_of_done writing).trans flushing
    cases ending with
    | waiting =>
      rw [Activity.mapError_of_waiting sending] at ends
      exact absurd rfl ends
    | failed cause =>
      rw [Activity.mapError_of_failed sending, ← flushed (by simp)]
      rfl
    | done value =>
      rw [Activity.mapError_of_done sending, ← flushed (by simp)]
      rfl

theorem deliver_keeps_reads (frame : List UInt8) : (deliver frame).Keeps Transport.reads :=
  deliver_keeps (write_keeps fun _ _ _ _ => rfl) (flush_keeps fun _ _ _ _ => rfl) frame

theorem deliver_leaves (frame : List UInt8) :
    (deliver frame).Leaves fun trace _ => ∀ act ∈ trace, act.isRead = false := by
  have unread {writes : Trace} (only : writes.OnlyWrites) : ∀ act ∈ writes, act.isRead = false := by
    intro act member
    have isWrite := only act member
    cases act <;> simp [Act.isWrite, Act.isRead] at isWrite ⊢
  have sends : (do writeWhole frame; flush : Activity IoFault Unit).Leaves
      fun trace _ => ∀ act ∈ trace, act.isRead = false := by
    refine (writeWhole_leaves frame).bind ?_ ?_ ?_
    · exact fun trace cause writes => unread writes.1
    · exact fun trace writes => unread writes.1
    · intro writes value written
      refine flush_leaves.mono ?_
      rintro trace ending rfl act member
      rcases List.mem_append.mp member with member | member
      · exact unread written.1 act member
      · rw [List.mem_singleton.mp member]
        rfl
  exact sends.mapError (fun _ _ unread => unread) (fun _ _ unread => unread) (fun _ unread => unread)

end Transport

end VectorLink
