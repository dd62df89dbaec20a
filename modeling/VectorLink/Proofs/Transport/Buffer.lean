import VectorLink.Proofs.Transport.Arrival

/-! How large the buffer of a reading gets.

The length of a field may be a number that the peer made up, so the buffer must not be as long as
the field before its bytes are there. Every read is made for a window at the end of the buffer, right
behind what has been received. The invariant of both loops ties the three together: bytes received
and window make up the buffer, the window is never empty, and it is never wider than one step of
growth. So the buffer is ahead of the bytes by one step at most, whatever length was announced.
-/

set_option autoImplicit false

namespace VectorLink

namespace Trace

/-- For every read that is issued in a trace, this holds of the number of bytes received before it,
the length of the buffer, and the width of the window at its end. -/
def EachRead (trace : Trace) (holds : (received buffer window : Nat) → Prop) : Prop :=
  ∀ (earlier later : Trace) (buffer window : Nat),
    trace = earlier ++ .asked buffer window :: later → holds earlier.input.length buffer window

variable {trace first later : Trace} {holds weaker : (received buffer window : Nat) → Prop}

theorem eachRead_nil : EachRead [] holds := by
  intro earlier later buffer window split
  simp at split

theorem EachRead.mono (each : trace.EachRead holds)
    (implies : ∀ received buffer window, holds received buffer window →
      weaker received buffer window) : trace.EachRead weaker := by
  intro earlier later buffer window split
  apply implies
  exact each earlier later buffer window split

theorem EachRead.cons {act : Act}
    (head : ∀ buffer window, act = .asked buffer window → holds 0 buffer window)
    (tail : trace.EachRead fun received => holds (act.input.length + received)) :
    EachRead (act :: trace) holds := by
  intro earlier later buffer window split
  cases earlier with
  | nil =>
    cases split
    exact head buffer window rfl
  | cons other earlier =>
    cases split
    rw [input_cons, List.length_append]
    exact tail earlier later buffer window rfl

theorem EachRead.append (front : first.EachRead holds)
    (back : later.EachRead fun received => holds (first.input.length + received)) :
    (first ++ later).EachRead holds := by
  induction first generalizing holds with
  | nil => simpa using back
  | cons act first ih =>
    apply EachRead.cons
    · intro buffer window asks
      exact front [] first buffer window (congrArg (· :: first) asks)
    · apply ih
      · intro earlier later buffer window split
        have holds := front (act :: earlier) later buffer window (congrArg (act :: ·) split)
        rwa [input_cons, List.length_append] at holds
      · simpa only [input_cons, List.length_append, Nat.add_assoc] using back

theorem Between.unique {before after : Transport} (one : first.Between before after)
    (two : later.Between before after) : first = later := by
  unfold Between at one two
  rw [one] at two
  exact List.reverse_inj.mp (List.append_cancel_right two)

theorem receivedIn_append (trace : Trace) (history : List Act) :
    Transport.receivedIn (trace.reverse ++ history) =
      Transport.receivedIn history ++ trace.input := by
  induction trace generalizing history with
  | nil => simp
  | cons act trace ih =>
    have one : Transport.receivedIn (act :: history) =
        Transport.receivedIn history ++ act.input := by
      cases act <;> simp [Transport.receivedIn, Act.input]
    rw [List.reverse_cons, List.append_assoc, List.singleton_append, ih, one, input_cons,
      List.append_assoc]

theorem Between.received_eq {before after : Transport} (between : trace.Between before after) :
    after.received = before.received ++ trace.input := by
  unfold Between at between
  rw [Transport.received, between, receivedIn_append, Transport.received]

end Trace

theorem Activity.Leaves.and {ε α : Type} {activity : Activity ε α}
    {one two : Trace → Ending ε α → Prop} (left : activity.Leaves one) (right : activity.Leaves two) :
    activity.Leaves fun trace ending => one trace ending ∧ two trace ending := by
  intro deadline transport
  obtain ⟨trace, between, holds⟩ := left deadline transport
  obtain ⟨other, between', holds'⟩ := right deadline transport
  cases between.unique between'
  exact ⟨trace, between, holds, holds'⟩

namespace Transport

open VectorLink.Flow (ofScript lead)

/-! ### One read after another -/

def ReadActs (buffer window : Nat) (trace : Trace) : Ending IoFault (List UInt8) → Prop
  | .done bytes => trace = [.asked buffer window, .received bytes]
  | .failed _ | .waiting => trace = [.asked buffer window]

theorem read_acts (buffer window : Nat) : (read buffer window).Leaves (ReadActs buffer window) := by
  intro deadline transport
  unfold read
  dsimp only
  split
  · rename_i bytes _
    refine ⟨[.asked buffer window, .received (bytes.take (transport.reach window))], ?_, rfl⟩
    split <;> rfl
  · exact ⟨[.asked buffer window, .received []], rfl, rfl⟩
  · exact ⟨[.asked buffer window, .received []], rfl, rfl⟩
  · exact ⟨[.asked buffer window], rfl, rfl⟩
  · exact ⟨[.asked buffer window], rfl, rfl⟩

def Fills (length missing received buffer window : Nat) : Prop :=
  buffer = length ∧ 0 < window ∧ received + window = missing

theorem Fills.first {length missing : Nat} (positive : missing ≠ 0) :
    ∀ buffer window, Act.asked length missing = .asked buffer window →
      Fills length missing 0 buffer window := by
  rintro buffer window ⟨⟩
  exact ⟨rfl, Nat.pos_of_ne_zero positive, Nat.zero_add _⟩

theorem ReadActs.eachRead {length missing : Nat} {trace : Trace}
    {ending : Ending IoFault (List UInt8)} (acts : ReadActs length missing trace ending)
    (positive : missing ≠ 0) : trace.EachRead (Fills length missing) := by
  cases ending with
  | done bytes =>
    cases acts
    exact .cons (Fills.first positive) (.cons (by simp) Trace.eachRead_nil)
  | failed cause | waiting =>
    cases acts
    exact .cons (Fills.first positive) Trace.eachRead_nil

theorem ReadActs.input_eq {length missing : Nat} {trace : Trace} {bytes : List UInt8}
    (acts : ReadActs length missing trace (.done bytes)) : trace.input = bytes := by
  cases acts
  exact List.append_nil bytes

-- While a buffer is filled its length stays, and each read is made for all that is missing.
theorem fill_eachRead (buffer window : Nat) (got : List UInt8) :
    Activity.Leaves (fun deadline => fill buffer deadline window got)
      fun trace _ => trace.EachRead (Fills buffer window) := by
  intro deadline transport
  dsimp only
  fun_induction fill buffer deadline window got transport with
  | case1 got transport => exact ⟨[], rfl, Trace.eachRead_nil⟩
  | case2 window got transport missing after step =>
    obtain ⟨trace, between, acts⟩ := (read_acts buffer window).of_run step
    exact ⟨trace, between, acts.eachRead missing⟩
  | case3 window got transport missing byte more after step ih =>
    obtain ⟨trace, between, acts⟩ := (read_acts buffer window).of_run step
    obtain ⟨later, rest, each⟩ := ih
    refine ⟨trace ++ later, between.append rest, (acts.eachRead missing).append (each.mono ?_)⟩
    -- what is counted from behind this read is counted from before it by one read more
    rintro received length left ⟨same, positive, makes⟩
    rw [acts.input_eq]
    refine ⟨same, positive, ?_⟩
    simp only [List.length_cons]
    omega
  | case4 window got transport missing cause after step interrupted ih =>
    obtain ⟨trace, between, acts⟩ := (read_acts buffer window).of_run step
    obtain ⟨later, rest, each⟩ := ih
    refine ⟨trace ++ later, between.append rest, (acts.eachRead missing).append ?_⟩
    cases acts
    simpa [Act.input] using each
  | case5 window got transport missing cause after step final gone =>
    obtain ⟨trace, between, acts⟩ := (read_acts buffer window).of_run step
    exact ⟨trace, between, acts.eachRead missing⟩
  | case6 window got transport missing cause after step final there =>
    obtain ⟨trace, between, acts⟩ := (read_acts buffer window).of_run step
    exact ⟨trace, between, acts.eachRead missing⟩
  | case7 window got transport missing after step =>
    obtain ⟨trace, between, acts⟩ := (read_acts buffer window).of_run step
    exact ⟨trace, between, acts.eachRead missing⟩

/-! ### A buffer that grows -/

/-- A read behind so many bytes of a field of this length: the window is right behind them, it is
not empty, it is one step of growth at most, and it does not go beyond the field. -/
structure Follows (length received buffer window : Nat) : Prop where
  positive : 0 < window
  near : window ≤ growth
  behind : received + window = buffer
  within : buffer ≤ length

theorem Fills.follows {length start received buffer window : Nat} (more : start < length)
    (fills : Fills (min length (start + growth)) (min length (start + growth) - start)
      received buffer window) : Follows length (start + received) buffer window := by
  obtain ⟨rfl, positive, makes⟩ := fills
  constructor <;> omega

theorem readOn_eachRead (length start : Nat) (got : List UInt8) :
    Activity.Leaves (fun deadline => readOn length deadline start got)
      fun trace _ => trace.EachRead fun received => Follows length (start + received) := by
  intro deadline transport
  dsimp only
  fun_induction readOn length deadline start got transport with
  | case1 start got transport more buffer all after step ih =>
    obtain ⟨trace, between, fills, reads⟩ := ((fill_eachRead buffer (buffer - start) got).and
      (fill_leaves buffer (buffer - start) got)).of_run step
    obtain ⟨later, rest, each⟩ := ih
    have size : trace.input.length = buffer - start := reads.2.2
    have forward : start ≤ buffer := by omega
    refine ⟨trace ++ later, between.append rest,
      (fills.mono fun _ _ _ => Fills.follows more).append (each.mono ?_)⟩
    -- the next step starts where this one has filled the buffer
    intro received length window follows
    rwa [size, ← Nat.add_assoc, Nat.add_sub_cancel' forward]
  | case2 start got transport more buffer shortage after step =>
    obtain ⟨trace, between, fills⟩ := (fill_eachRead buffer (buffer - start) got).of_run step
    exact ⟨trace, between, fills.mono fun _ _ _ => Fills.follows more⟩
  | case3 start got transport more buffer after step =>
    obtain ⟨trace, between, fills⟩ := (fill_eachRead buffer (buffer - start) got).of_run step
    exact ⟨trace, between, fills.mono fun _ _ _ => Fills.follows more⟩
  | case4 start got transport full => exact ⟨[], rfl, Trace.eachRead_nil⟩

theorem readWhole_eachRead (length : Nat) :
    (readWhole length).Leaves fun trace _ => trace.EachRead (Follows length) := by
  apply (readOn_eachRead length 0 []).mono
  intro trace ending each
  simpa only [Nat.zero_add] using each

/-- Memory follows the data. However long a field is said to be and whatever the stream does, each
read of it is made for at least one byte, for none beyond the field and for 65536 at most, and the
buffer is then no longer than the field and at most 65536 bytes longer than what has been received.
So a peer that announces a long field and delivers few bytes of it never gets a buffer that is more
than 65536 bytes longer than those few. All that arrives in time is read through these windows. -/
theorem buffer_follows_data (length : Nat) (deadline : Deadline) (transport : Transport) :
    ∃ trace : Trace, trace.Between transport (readWhole length deadline transport).2 ∧
      trace.input = (transport.arrivals deadline).take length ∧
      (trace.EachRead fun received buffer window =>
        1 ≤ window ∧ window ≤ min 65536 (length - received) ∧ received + window ≤ length ∧
          buffer ≤ received + 65536 ∧ buffer ≤ length) ∧
      ∀ buffer window, .asked buffer window ∈ trace →
        buffer ≤ (lead (ofScript transport.reads)).length + 65536 := by
  obtain ⟨trace, between, each⟩ := readWhole_eachRead length deadline transport
  have received := Draws.received_arrivals (drawn_readWhole length) (.whole length) deadline transport
  rw [between.received_eq] at received
  have input : trace.input = (transport.arrivals deadline).take length :=
    List.append_cancel_left received
  refine ⟨trace, between, input, each.mono ?_, ?_⟩
  · rintro received buffer window ⟨positive, near, behind, within⟩
    have step : growth = 65536 := rfl
    omega
  · intro buffer window asked
    obtain ⟨earlier, later, split⟩ := List.append_of_mem asked
    obtain ⟨positive, near, behind, within⟩ := each earlier later buffer window split
    have step : growth = 65536 := rfl
    -- what came before this read is part of what came at all
    have before : Trace.input earlier <+: trace.input := by
      rw [split, Trace.input_append]
      exact List.prefix_append ..
    have came : trace.input <+: lead (ofScript transport.reads) := by
      rw [input]
      exact (List.take_prefix ..).trans (transport.arrivals_prefix deadline)
    have few := (before.trans came).length_le
    omega

end Transport

end VectorLink
