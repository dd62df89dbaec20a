import VectorLink.Proofs.Transport.Flow

/-! Two transports that differ in nothing but how their stream is cut.

Such transports stay alike whatever is done to them, and nothing that is done to them tells them
apart: single reads would, but a field is read as a whole.
-/

set_option autoImplicit false

namespace VectorLink

open VectorLink.Flow (ofScript)

/-- The transports have the same stream before them, and have accepted the same bytes. The sizes of
reads and the reads of the past may differ. -/
structure Transport.Alike (first second : Transport) : Prop where
  flow : ofScript first.reads = ofScript second.reads
  writes : first.writes = second.writes
  flushes : first.flushes = second.flushes
  shutdowns : first.shutdowns = second.shutdowns
  clock : first.clock = second.clock
  written : first.written = second.written

open Transport (Alike)

namespace Activity

variable {ε ε' α β : Type}

def Agree (first second : Ending ε α × Transport) : Prop :=
  first.1 = second.1 ∧ Alike first.2 second.2

/-- An activity that does not tell transports apart that are alike. -/
def Uniform (activity : Activity ε α) : Prop :=
  ∀ (deadline : Deadline) (first second : Transport), Alike first second →
    Agree (activity deadline first) (activity deadline second)

theorem Uniform.of_run {activity : Activity ε α} {deadline : Deadline}
    {first second after : Transport} {ending : Ending ε α} (uniform : activity.Uniform)
    (alike : Alike first second) (run : activity deadline first = (ending, after)) :
    ∃ other : Transport, activity deadline second = (ending, other) ∧ Alike after other := by
  have agree := uniform deadline first second alike
  rcases run' : activity deadline second with ⟨ending', other⟩
  rw [run, run'] at agree
  obtain ⟨rfl, alike'⟩ := agree
  exact ⟨other, rfl, alike'⟩

theorem uniform_pure (value : α) : (pure value : Activity ε α).Uniform :=
  fun _ _ _ alike => ⟨rfl, alike⟩

theorem uniform_fail (error : ε) : (fail error : Activity ε α).Uniform :=
  fun _ _ _ alike => ⟨rfl, alike⟩

theorem Uniform.mapError {activity : Activity ε α} (uniform : activity.Uniform)
    (restate : ε → ε') : (mapError restate activity).Uniform := by
  intro deadline first second alike
  rcases run : activity deadline first with ⟨ending, after⟩
  obtain ⟨other, run', alike'⟩ := uniform.of_run alike run
  cases ending with
  | done value =>
    rw [mapError_of_done run, mapError_of_done run']
    exact ⟨rfl, alike'⟩
  | failed error =>
    rw [mapError_of_failed run, mapError_of_failed run']
    exact ⟨rfl, alike'⟩
  | waiting =>
    rw [mapError_of_waiting run, mapError_of_waiting run']
    exact ⟨rfl, alike'⟩

theorem Uniform.bind {first : Activity ε α} {next : α → Activity ε β} (uniform : first.Uniform)
    (all : ∀ value, (next value).Uniform) : (first >>= next).Uniform := by
  intro deadline one two alike
  rcases run : first deadline one with ⟨ending, after⟩
  obtain ⟨other, run', alike'⟩ := uniform.of_run alike run
  cases ending with
  | done value =>
    rw [bind_of_done run, bind_of_done run']
    exact all value deadline after other alike'
  | failed error =>
    rw [bind_of_failed run, bind_of_failed run']
    exact ⟨rfl, alike'⟩
  | waiting =>
    rw [bind_of_waiting run, bind_of_waiting run']
    exact ⟨rfl, alike'⟩

end Activity

open Activity (Agree)

namespace Transport

/-! ### Writing -/

theorem write_uniform (offered : List UInt8) : (write offered).Uniform := by
  intro deadline first second alike
  unfold write
  dsimp only
  rw [← alike.writes, ← alike.clock]
  have after (bytes : List UInt8) :
      writtenIn first.history ++ bytes = writtenIn second.history ++ bytes :=
    congrArg (· ++ bytes) alike.written
  split
  · exact ⟨rfl, alike.flow, rfl, alike.flushes, alike.shutdowns, rfl, after _⟩
  · exact ⟨rfl, alike.flow, rfl, alike.flushes, alike.shutdowns, rfl, after _⟩
  · exact ⟨rfl, alike.flow, rfl, alike.flushes, alike.shutdowns, rfl, alike.written⟩
  · exact ⟨rfl, alike.flow, rfl, alike.flushes, alike.shutdowns, rfl, alike.written⟩

theorem flush_uniform : flush.Uniform := by
  intro deadline first second alike
  unfold flush
  dsimp only
  rw [← alike.flushes, ← alike.clock]
  split <;> exact ⟨rfl, alike.flow, alike.writes, rfl, alike.shutdowns, rfl, alike.written⟩

theorem shutdown_uniform : shutdown.Uniform := by
  intro deadline first second alike
  unfold shutdown
  dsimp only
  rw [← alike.shutdowns, ← alike.clock]
  split <;> exact ⟨rfl, alike.flow, alike.writes, alike.flushes, rfl, rfl, alike.written⟩

theorem writeWhole_uniform (frame : List UInt8) : Activity.Uniform (writeWhole frame) := by
  intro deadline first second alike
  fun_induction writeWhole frame deadline first generalizing second with
  | case1 first =>
    rw [writeWhole, dif_pos rfl]
    exact ⟨rfl, alike⟩
  | case2 frame first left after step =>
    obtain ⟨other, step', alike'⟩ := (write_uniform frame).of_run alike step
    rw [writeWhole_eq left deadline second, step']
    exact ⟨rfl, alike'⟩
  | case3 frame first left taken after step ih =>
    obtain ⟨other, step', alike'⟩ := (write_uniform frame).of_run alike step
    rw [writeWhole_eq left deadline second, step']
    exact ih other alike'
  | case4 frame first left cause after step interrupted ih =>
    obtain ⟨other, step', alike'⟩ := (write_uniform frame).of_run alike step
    rw [writeWhole_eq left deadline second, step', writeBehind, if_pos interrupted]
    exact ih other alike'
  | case5 frame first left cause after step final =>
    obtain ⟨other, step', alike'⟩ := (write_uniform frame).of_run alike step
    rw [writeWhole_eq left deadline second, step', writeBehind, if_neg final]
    exact ⟨rfl, alike'⟩
  | case6 frame first left after step =>
    obtain ⟨other, step', alike'⟩ := (write_uniform frame).of_run alike step
    rw [writeWhole_eq left deadline second, step']
    exact ⟨rfl, alike'⟩

theorem deliver_uniform (frame : List UInt8) : (deliver frame).Uniform :=
  ((writeWhole_uniform frame).bind fun _ => flush_uniform).mapError Fault.ofIo

/-! ### Reading -/

theorem uniform_of_drawn {activity : Activity Shortage (List UInt8)} {length : Nat}
    (draws : ∀ deadline transport, drawn (activity deadline transport) =
      (Flow.draw deadline transport.clock length [] (ofScript transport.reads)).inOrder)
    (reading : activity.Reading) : activity.Uniform := by
  intro deadline first second alike
  have same : drawn (activity deadline first) = drawn (activity deadline second) := by
    rw [draws, draws, alike.clock, alike.flow]
  obtain ⟨ending, clock, flow⟩ := (Flow.Drawn.mk.injEq ..).mp same
  have keeps {γ : Type} {part : Transport → γ}
      (reads : ∀ buffer window, (read buffer window).Keeps part)
      (before : part first = part second) :
      part (activity deadline first).2 = part (activity deadline second).2 := by
    rw [reading_keeps reads reading, reading_keeps reads reading, before]
  exact ⟨ending, flow, keeps (read_keeps fun _ _ _ _ => rfl) alike.writes,
    keeps (read_keeps fun _ _ _ _ => rfl) alike.flushes,
    keeps (read_keeps fun _ _ _ _ => rfl) alike.shutdowns, clock,
    keeps read_keeps_written alike.written⟩

theorem reading_uniform {ε α : Type} {activity : Activity ε α} (reading : activity.Reading) :
    activity.Uniform := by
  induction reading with
  | pure value => exact Activity.uniform_pure value
  | fail error => exact Activity.uniform_fail error
  | field length => exact uniform_of_drawn (drawn_readField length) (.field length)
  | whole length => exact uniform_of_drawn (drawn_readWhole length) (.whole length)
  | mapError restate _ ih => exact ih.mapError restate
  | bind _ _ first rest => exact first.bind rest

end Transport

end VectorLink
