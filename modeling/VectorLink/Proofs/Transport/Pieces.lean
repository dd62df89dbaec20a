import VectorLink.Proofs.Transport.Trace

/-! What single calls and whole frames and fields leave in the history of a transport.

A frame that is not written in full leaves a proper beginning of itself. A field that is read in
full leaves exactly its own bytes, and one that is not leaves fewer.
-/

set_option autoImplicit false

namespace VectorLink.Transport

variable {ε : Type}

/-! ### Writing -/

theorem write_leaves (offered : List UInt8) :
    (write offered).Leaves fun trace ending =>
      match ending with
      | .done taken => trace = [.wrote (offered.take taken)]
      | _ => trace = [] := by
  intro deadline transport
  unfold write
  dsimp only
  split
  · rename_i most _
    have same : offered.take (min most offered.length) = offered.take most := by
      rw [← List.take_take, List.take_length]
    exact ⟨[.wrote (offered.take most)], rfl, congrArg (fun bytes => [Act.wrote bytes]) same.symm⟩
  · exact ⟨[.wrote offered], rfl,
      congrArg (fun bytes => [Act.wrote bytes]) List.take_length.symm⟩
  · exact ⟨[], rfl, rfl⟩
  · exact ⟨[], rfl, rfl⟩

def writeBehind (bytes : List UInt8) (deadline : Deadline) :
    Ending IoFault Nat × Transport → Ending IoFault Unit × Transport
  | (.done 0, after) => (.failed .wroteNothing, after)
  | (.done (taken + 1), after) => writeWhole (bytes.drop (taken + 1)) deadline after
  | (.failed cause, after) =>
    if cause.kind = .interrupted then writeWhole bytes deadline after else (.failed cause, after)
  | (.waiting, after) => (.waiting, after)

theorem writeWhole_eq {bytes : List UInt8} (left : bytes ≠ []) (deadline : Deadline)
    (transport : Transport) :
    writeWhole bytes deadline transport =
      writeBehind bytes deadline (write bytes deadline transport) := by
  rw [writeWhole, dif_neg left]
  split <;> rename_i step <;> rw [step] <;> rfl

/-- What writing a frame leaves: all of it, or less than all. -/
def WritesOf (frame : List UInt8) (trace : Trace) (ending : Ending ε Unit) : Prop :=
  trace.OnlyWrites ∧
    match ending with
    | .done () => trace.output = frame
    | _ => trace.output <+: frame ∧ trace.output ≠ frame

theorem WritesOf.cons {bytes : List UInt8} {taken : Nat} {trace : Trace} {ending : Ending ε Unit}
    (later : WritesOf (bytes.drop taken) trace ending) :
    WritesOf bytes (.wrote (bytes.take taken) :: trace) ending := by
  obtain ⟨writes, rest⟩ := later
  have first : Trace.OnlyWrites [.wrote (bytes.take taken)] := by simp [Trace.OnlyWrites, Act.isWrite]
  refine ⟨first.append writes, ?_⟩
  have whole := List.take_append_drop taken bytes
  cases ending with
  | done value =>
    show bytes.take taken ++ Trace.output trace = bytes
    rw [show Trace.output trace = bytes.drop taken from rest, whole]
  | failed _ | waiting =>
    obtain ⟨⟨left, cut⟩, short⟩ := rest
    show bytes.take taken ++ Trace.output trace <+: bytes ∧ bytes.take taken ++ Trace.output trace ≠ bytes
    refine ⟨⟨left, by rw [List.append_assoc, cut, whole]⟩, ?_⟩
    intro same
    exact short (List.append_cancel_left (same.trans whole.symm))

theorem writesOf_nil {bytes : List UInt8} {ending : Ending ε Unit} (left : bytes ≠ [])
    (unfinished : ending ≠ .done ()) : WritesOf bytes [] ending := by
  refine ⟨Trace.onlyWrites_nil, ?_⟩
  cases ending with
  | done value => exact absurd rfl unfinished
  | failed _ | waiting => exact ⟨List.nil_prefix, fun same => left same.symm⟩

theorem writeWhole_leaves (frame : List UInt8) :
    Activity.Leaves (writeWhole frame) (WritesOf frame) := by
  intro deadline transport
  fun_induction writeWhole frame deadline transport with
  | case1 transport => exact ⟨[], rfl, Trace.onlyWrites_nil, rfl⟩
  | case2 frame transport left after step =>
    -- the write ended well, but with no byte taken
    obtain ⟨_, between, rfl⟩ := (write_leaves frame).of_run step
    exact ⟨_, between, (writesOf_nil (by simpa using left) (by simp)).cons⟩
  | case3 frame transport left taken after step ih =>
    obtain ⟨_, between, rfl⟩ := (write_leaves frame).of_run step
    obtain ⟨later, rest, writes⟩ := ih
    exact ⟨_, between.append rest, writes.cons⟩
  | case4 frame transport left cause after step interrupted ih =>
    obtain ⟨_, between, rfl⟩ := (write_leaves frame).of_run step
    obtain ⟨later, rest, writes⟩ := ih
    exact ⟨_, between.append rest, writes⟩
  | case5 frame transport left cause after step final =>
    obtain ⟨_, between, rfl⟩ := (write_leaves frame).of_run step
    exact ⟨_, between, writesOf_nil left (by simp)⟩
  | case6 frame transport left after step =>
    obtain ⟨_, between, rfl⟩ := (write_leaves frame).of_run step
    exact ⟨_, between, writesOf_nil left (by simp)⟩

theorem flush_leaves : flush.Leaves fun trace _ => trace = [.flushed] := by
  intro deadline transport
  unfold flush
  dsimp only
  split <;> exact ⟨[.flushed], rfl, rfl⟩

theorem shutdown_leaves : shutdown.Leaves fun trace _ => trace = [.shutDown] := by
  intro deadline transport
  unfold shutdown
  dsimp only
  split <;> exact ⟨[.shutDown], rfl, rfl⟩

/-! ### Reading -/

theorem read_leaves (buffer window : Nat) :
    (read buffer window).Leaves fun trace ending =>
      trace.OnlyReads ∧
        match ending with
        | .done bytes => trace.input = bytes ∧ bytes.length ≤ window
        | _ => trace.input = [] := by
  have asking : Trace.OnlyReads [.asked buffer window] := by simp [Trace.OnlyReads, Act.isRead]
  have bringing (bytes : List UInt8) : Trace.OnlyReads [.asked buffer window, .received bytes] := by
    simp [Trace.OnlyReads, Act.isRead]
  intro deadline transport
  have near : transport.reach window ≤ window := by
    unfold reach
    split <;> omega
  unfold read
  dsimp only
  split
  · rename_i bytes _
    refine ⟨[.asked buffer window, .received (bytes.take (transport.reach window))], ?_,
      bringing _, ?_, ?_⟩
    · split <;> rfl
    · exact List.append_nil _
    · rw [List.length_take]
      omega
  · exact ⟨[.asked buffer window, .received []], rfl, bringing _, rfl, Nat.zero_le _⟩
  · exact ⟨[.asked buffer window, .received []], rfl, bringing _, rfl, Nat.zero_le _⟩
  · exact ⟨[.asked buffer window], rfl, asking, rfl⟩
  · exact ⟨[.asked buffer window], rfl, asking, rfl⟩

/-- What reading `length` bytes behind those of `earlier` leaves: all of them, or less than all. -/
def ReadsOn (length : Nat) (earlier : List UInt8) (trace : Trace) (ending : Ending ε (List UInt8)) :
    Prop :=
  trace.OnlyReads ∧
    match ending with
    | .done all => all = earlier ++ trace.input ∧ trace.input.length = length
    | _ => trace.input.length < length

theorem readsOn_zero (earlier : List UInt8) :
    ReadsOn 0 earlier [] (.done earlier : Ending ε (List UInt8)) :=
  ⟨Trace.onlyReads_nil, (List.append_nil earlier).symm, rfl⟩

theorem readsOn_short {length : Nat} {earlier : List UInt8} {trace : Trace}
    {ending : Ending ε (List UInt8)} (reads : trace.OnlyReads) (short : trace.input.length < length)
    (unfinished : ∀ all, ending ≠ .done all) : ReadsOn length earlier trace ending := by
  refine ⟨reads, ?_⟩
  cases ending with
  | done all => exact absurd rfl (unfinished all)
  | failed _ | waiting => exact short

theorem ReadsOn.append {length : Nat} {earlier : List UInt8} {first later : Trace}
    {ending : Ending ε (List UInt8)} (reads : first.OnlyReads) (within : first.input.length ≤ length)
    (rest : ReadsOn (length - first.input.length) (earlier ++ first.input) later ending) :
    ReadsOn length earlier (first ++ later) ending := by
  obtain ⟨readsLater, rest⟩ := rest
  refine ⟨reads.append readsLater, ?_⟩
  cases ending with
  | done all =>
    obtain ⟨same, size⟩ := rest
    refine ⟨?_, ?_⟩
    · rw [same, Trace.input_append, List.append_assoc]
    · rw [Trace.input_append, List.length_append]
      omega
  | failed _ | waiting =>
    have size : later.input.length < length - first.input.length := rest
    show (first ++ later : Trace).input.length < length
    rw [Trace.input_append, List.length_append]
    omega

theorem readsOn_of_empty_read {buffer window : Nat} {earlier : List UInt8} {deadline : Deadline}
    {transport after : Transport} {reading : Ending IoFault (List UInt8)}
    {ending : Ending ε (List UInt8)} (missing : window ≠ 0)
    (step : read buffer window deadline transport = (reading, after))
    (empty : ∀ bytes, reading = .done bytes → bytes = [])
    (unfinished : ∀ all, ending ≠ .done all) :
    ∃ trace : Trace, trace.Between transport after ∧ ReadsOn window earlier trace ending := by
  obtain ⟨trace, between, reads, brought⟩ := (read_leaves buffer window).of_run step
  have input : trace.input = [] := by
    cases reading with
    | done bytes => exact brought.1.trans (empty bytes rfl)
    | failed _ | waiting => exact brought
  refine ⟨trace, between, readsOn_short reads ?_ unfinished⟩
  rw [input]
  exact Nat.pos_of_ne_zero missing

def inOrder : Ending ε (List UInt8) → Ending ε (List UInt8)
  | .done got => .done got.reverse
  | .failed error => .failed error
  | .waiting => .waiting

theorem fill_leaves (buffer window : Nat) (got : List UInt8) :
    Activity.Leaves (fun deadline => fill buffer deadline window got)
      (fun trace ending => ReadsOn window got.reverse trace (inOrder ending)) := by
  intro deadline transport
  dsimp only
  fun_induction fill buffer deadline window got transport with
  | case1 got transport => exact ⟨[], rfl, readsOn_zero got.reverse⟩
  | case2 window got transport missing after step =>
    exact readsOn_of_empty_read missing step (by simp) (by simp [inOrder])
  | case3 window got transport missing byte more after step ih =>
    obtain ⟨trace, between, reads, input, size⟩ := (read_leaves buffer window).of_run step
    obtain ⟨later, rest, ending⟩ := ih
    refine ⟨trace ++ later, between.append rest, ReadsOn.append reads (input ▸ size) ?_⟩
    have order : (more.reverseAux (byte :: got)).reverse = got.reverse ++ trace.input := by
      simp [input, List.reverseAux_eq]
    rw [← order, input]
    exact ending
  | case4 window got transport missing cause after step interrupted ih =>
    -- an interrupted read brings nothing and is made again
    obtain ⟨trace, between, reads, input⟩ := (read_leaves buffer window).of_run step
    obtain ⟨later, rest, ending⟩ := ih
    have nothing : trace.input = [] := input
    refine ⟨trace ++ later, between.append rest, ReadsOn.append reads (by simp [nothing]) ?_⟩
    simpa [nothing] using ending
  | case5 window got transport missing cause after step _ gone =>
    exact readsOn_of_empty_read missing step (by simp) (by simp [inOrder])
  | case6 window got transport missing cause after step _ _ =>
    exact readsOn_of_empty_read missing step (by simp) (by simp [inOrder])
  | case7 window got transport missing after step =>
    exact readsOn_of_empty_read missing step (by simp) (by simp [inOrder])

theorem readField_leaves (length : Nat) : (readField length).Leaves (ReadsOn length []) := by
  intro deadline transport
  unfold readField
  rcases run : fill length deadline length [] transport with ⟨ending, after⟩
  obtain ⟨trace, between, reads⟩ := (fill_leaves length length []).of_run run
  cases ending with
  | done got => exact ⟨trace, between, reads⟩
  | failed _ | waiting => exact ⟨trace, between, reads⟩

theorem readOn_leaves (length start : Nat) (got : List UInt8) :
    Activity.Leaves (fun deadline => readOn length deadline start got)
      (ReadsOn (length - start) got.reverse) := by
  intro deadline transport
  dsimp only
  fun_induction readOn length deadline start got transport with
  | case1 start got transport more buffer all after step ih =>
    have near : buffer ≤ length := Nat.min_le_left ..
    obtain ⟨trace, between, reads, same, size⟩ :=
      (fill_leaves buffer (buffer - start) got).of_run step
    obtain ⟨later, rest, ending⟩ := ih
    refine ⟨trace ++ later, between.append rest, ReadsOn.append reads (by omega) ?_⟩
    -- the buffer is full, so the next step begins where it ends
    have left : length - start - trace.input.length = length - buffer := by
      rw [size]
      have : start ≤ buffer := Nat.le_min.mpr ⟨Nat.le_of_lt more, Nat.le_add_right ..⟩
      omega
    rw [left, ← same]
    exact ending
  | case2 start got transport more buffer shortage after step =>
    have near : buffer ≤ length := Nat.min_le_left ..
    obtain ⟨trace, between, reads, short⟩ := (fill_leaves buffer (buffer - start) got).of_run step
    have short : trace.input.length < buffer - start := short
    exact ⟨trace, between, readsOn_short reads (by omega) (by simp)⟩
  | case3 start got transport more buffer after step =>
    have near : buffer ≤ length := Nat.min_le_left ..
    obtain ⟨trace, between, reads, short⟩ := (fill_leaves buffer (buffer - start) got).of_run step
    have short : trace.input.length < buffer - start := short
    exact ⟨trace, between, readsOn_short reads (by omega) (by simp)⟩
  | case4 start got transport full =>
    have filled : length - start = 0 := by omega
    exact ⟨[], rfl, filled ▸ readsOn_zero got.reverse⟩

theorem readWhole_leaves (length : Nat) : (readWhole length).Leaves (ReadsOn length []) :=
  readOn_leaves length 0 []

end VectorLink.Transport
