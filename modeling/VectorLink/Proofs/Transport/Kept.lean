import VectorLink.Proofs.Transport.Trace

/-! What dealings with a transport leave as it is.

Each call of a transport uses up one of its scripts and adds to its history; the rest stays. What
the single calls keep is kept by everything that is made of them, so it has to be looked at only
there.
-/

set_option autoImplicit false

namespace VectorLink

variable {γ : Type}

namespace Activity

variable {ε ε' α β : Type} {part : Transport → γ}

def Keeps (activity : Activity ε α) (part : Transport → γ) : Prop :=
  ∀ (deadline : Deadline) (transport : Transport),
    part (activity deadline transport).2 = part transport

theorem Keeps.of_run {activity : Activity ε α} {deadline : Deadline} {before after : Transport}
    {ending : Ending ε α} (keeps : activity.Keeps part)
    (run : activity deadline before = (ending, after)) : part after = part before := by
  have same := keeps deadline before
  rwa [run] at same

theorem keeps_pure (value : α) : (pure value : Activity ε α).Keeps part := fun _ _ => rfl

theorem keeps_fail (error : ε) : (fail error : Activity ε α).Keeps part := fun _ _ => rfl

theorem Keeps.mapError {activity : Activity ε α} (keeps : activity.Keeps part) (restate : ε → ε') :
    (mapError restate activity).Keeps part := by
  intro deadline transport
  rcases run : activity deadline transport with ⟨ending, after⟩
  cases ending with
  | done value => rw [mapError_of_done run, keeps.of_run run]
  | failed error => rw [mapError_of_failed run, keeps.of_run run]
  | waiting => rw [mapError_of_waiting run, keeps.of_run run]

theorem Keeps.bind {first : Activity ε α} {next : α → Activity ε β} (keeps : first.Keeps part)
    (all : ∀ value, (next value).Keeps part) : (first >>= next).Keeps part := by
  intro deadline transport
  rcases run : first deadline transport with ⟨ending, after⟩
  cases ending with
  | done value => rw [bind_of_done run, all value deadline after, keeps.of_run run]
  | failed error => rw [bind_of_failed run, keeps.of_run run]
  | waiting => rw [bind_of_waiting run, keeps.of_run run]

end Activity

/-- Activities that do nothing to a transport but read fields from it. -/
inductive Activity.Reading : {ε α : Type} → Activity ε α → Prop where
  | pure {ε α : Type} (value : α) : Reading (pure value : Activity ε α)
  | fail {ε α : Type} (error : ε) : Reading (fail error : Activity ε α)
  | field (length : Nat) : Reading (Transport.readField length)
  | whole (length : Nat) : Reading (Transport.readWhole length)
  | mapError {ε ε' α : Type} {activity : Activity ε α} (restate : ε → ε') : Reading activity →
      Reading (Activity.mapError restate activity)
  | bind {ε α β : Type} {first : Activity ε α} {next : α → Activity ε β} : Reading first →
      (∀ value, Reading (next value)) → Reading (first >>= next)

theorem Activity.reading_ofExcept {ε α : Type} (result : Except ε α) :
    Reading (ofExcept result) := by
  cases result with
  | ok value => exact .pure value
  | error error => exact .fail error

namespace Transport

variable {part : Transport → γ}

/-! ### Single calls -/

theorem write_keeps (blind : ∀ transport writes clock history,
      part { transport with writes, clock, history } = part transport) (offered : List UInt8) :
    (write offered).Keeps part := by
  intro deadline transport
  unfold write
  dsimp only
  split <;> exact blind transport _ _ _

theorem flush_keeps (blind : ∀ transport flushes clock history,
      part { transport with flushes, clock, history } = part transport) : flush.Keeps part := by
  intro deadline transport
  unfold flush
  dsimp only
  split <;> exact blind transport _ _ _

theorem read_keeps (blind : ∀ transport reads clock history,
      part { transport with reads, clock, history } = part transport) (buffer window : Nat) :
    (read buffer window).Keeps part := by
  intro deadline transport
  unfold read
  dsimp only
  split
  · split <;> exact blind transport _ _ _
  all_goals exact blind transport _ _ _

/-! ### What is made of them -/

theorem writeWhole_keeps (writes : ∀ offered, (write offered).Keeps part) (frame : List UInt8) :
    Activity.Keeps (writeWhole frame) part := by
  intro deadline transport
  fun_induction writeWhole frame deadline transport with
  | case1 transport => rfl
  | case2 frame transport left after step => exact (writes frame).of_run step
  | case3 frame transport left taken after step ih => exact ih.trans ((writes frame).of_run step)
  | case4 frame transport left cause after step interrupted ih =>
    exact ih.trans ((writes frame).of_run step)
  | case5 frame transport left cause after step final => exact (writes frame).of_run step
  | case6 frame transport left after step => exact (writes frame).of_run step

theorem deliver_keeps (writes : ∀ offered, (write offered).Keeps part) (flushes : flush.Keeps part)
    (frame : List UInt8) : (deliver frame).Keeps part :=
  ((writeWhole_keeps writes frame).bind fun _ => flushes).mapError Fault.ofIo

theorem fill_keeps (reads : ∀ buffer window, (read buffer window).Keeps part)
    (buffer window : Nat) (got : List UInt8) :
    Activity.Keeps (fun deadline => fill buffer deadline window got) part := by
  intro deadline transport
  dsimp only
  fun_induction fill buffer deadline window got transport with
  | case1 got transport => rfl
  | case2 window got transport missing after step => exact (reads buffer window).of_run step
  | case3 window got transport missing byte more after step ih =>
    exact ih.trans ((reads buffer window).of_run step)
  | case4 window got transport missing cause after step interrupted ih =>
    exact ih.trans ((reads buffer window).of_run step)
  | case5 window got transport missing cause after step _ gone =>
    exact (reads buffer window).of_run step
  | case6 window got transport missing cause after step _ _ =>
    exact (reads buffer window).of_run step
  | case7 window got transport missing after step => exact (reads buffer window).of_run step

theorem readField_keeps (reads : ∀ buffer window, (read buffer window).Keeps part)
    (length : Nat) : (readField length).Keeps part := by
  intro deadline transport
  unfold readField
  rcases run : fill length deadline length [] transport with ⟨ending, after⟩
  have same := (fill_keeps reads length length []).of_run run
  cases ending <;> exact same

theorem readOn_keeps (reads : ∀ buffer window, (read buffer window).Keeps part)
    (length start : Nat) (got : List UInt8) :
    Activity.Keeps (fun deadline => readOn length deadline start got) part := by
  intro deadline transport
  dsimp only
  fun_induction readOn length deadline start got transport with
  | case1 start got transport more buffer all after step ih =>
    exact ih.trans ((fill_keeps reads buffer (buffer - start) got).of_run step)
  | case2 start got transport more buffer shortage after step =>
    exact (fill_keeps reads buffer (buffer - start) got).of_run step
  | case3 start got transport more buffer after step =>
    exact (fill_keeps reads buffer (buffer - start) got).of_run step
  | case4 start got transport full => rfl

theorem reading_keeps {ε α : Type} (reads : ∀ buffer window, (read buffer window).Keeps part)
    {activity : Activity ε α} (reading : activity.Reading) : activity.Keeps part := by
  induction reading with
  | pure value => exact Activity.keeps_pure value
  | fail error => exact Activity.keeps_fail error
  | field length => exact readField_keeps reads length
  | whole length => exact readOn_keeps reads length 0 []
  | mapError restate _ ih => exact ih.mapError restate
  | bind _ _ first rest => exact first.bind rest

end Transport

end VectorLink
