import VectorLink.Proofs.Transport.Flow

/-! How dealings with a transport are built from its single calls.

Whatever a client does to a transport comes down to single writes, flushes and reads, and to what is
done next when one of them has ended. `Activity.Built` says so once, the loops included: a loop is
what its unrollings agree on as soon as they are long enough for the transport at hand. A property
of activities that single calls have, and that is handed on from one call to the next, then holds
of every exchange.
-/

set_option autoImplicit false

namespace VectorLink

namespace Activity

variable {ε ε' α β : Type}

def resume (first : Activity ε α) (next : Except ε α → Activity ε' β) : Activity ε' β :=
  fun deadline transport =>
    match first deadline transport with
    | (.done value, after) => next (.ok value) deadline after
    | (.failed error, after) => next (.error error) deadline after
    | (.waiting, after) => (.waiting, after)

theorem resume_of_waiting {first : Activity ε α} {next : Except ε α → Activity ε' β}
    {deadline : Deadline} {transport : Transport}
    (waits : (first deadline transport).1 = .waiting) :
    (first.resume next deadline transport).1 = .waiting := by
  unfold resume
  rcases run : first deadline transport with ⟨ending, after⟩
  rw [run] at waits
  cases waits
  rfl

theorem bind_eq_resume (first : Activity ε α) (next : α → Activity ε β) :
    first >>= next = first.resume fun
      | .ok value => next value
      | .error error => fail error := by
  funext deadline transport
  show Activity.bind first next deadline transport = _
  unfold Activity.bind resume
  rcases first deadline transport with ⟨value | error | _, after⟩ <;> rfl

theorem mapError_eq_resume (restate : ε → ε') (activity : Activity ε α) :
    mapError restate activity = activity.resume fun
      | .ok value => pure value
      | .error error => fail (restate error) := by
  funext deadline transport
  unfold mapError resume
  rcases activity deadline transport with ⟨value | error | _, after⟩ <;> rfl

/-- Activities that are built from single writes, flushes and reads. -/
inductive Built : {ε α : Type} → Activity ε α → Prop where
  | pure {ε α : Type} (value : α) : Built (pure value : Activity ε α)
  | fail {ε α : Type} (error : ε) : Built (fail error : Activity ε α)
  | write (offered : List UInt8) : Built (Transport.write offered)
  | flush : Built Transport.flush
  | read (buffer window : Nat) : Built (Transport.read buffer window)
  | resume {ε ε' α β : Type} {first : Activity ε α} {next : Except ε α → Activity ε' β} :
      Built first → (∀ result, Built (next result)) → Built (first.resume next)
  /-- Every transport is served by all unrollings from some length on. -/
  | loop {ε α : Type} {unrolled : Nat → Activity ε α} {activity : Activity ε α} :
      (∀ turns, Built (unrolled turns)) →
      (∀ transport, ∃ enough, ∀ turns, enough ≤ turns →
        ∀ deadline, unrolled turns deadline transport = activity deadline transport) →
      Built activity

theorem Built.bind {first : Activity ε α} {next : α → Activity ε β} (built : first.Built)
    (all : ∀ value, (next value).Built) : (first >>= next).Built := by
  rw [bind_eq_resume]
  refine .resume built ?_
  rintro (error | value)
  · exact .fail error
  · exact all value

theorem Built.mapError {activity : Activity ε α} (built : activity.Built) (restate : ε → ε') :
    (mapError restate activity).Built := by
  rw [mapError_eq_resume]
  refine .resume built ?_
  rintro (error | value)
  · exact .fail _
  · exact .pure value

/-- What holds of the unrollings of a loop on two transports holds of the loop, since one number of
turns is enough for both. -/
theorem exists_unrolled {unrolled : Nat → Activity ε α} {activity : Activity ε α}
    (agree : ∀ transport, ∃ enough, ∀ turns, enough ≤ turns →
      ∀ deadline, unrolled turns deadline transport = activity deadline transport)
    (first second : Transport) :
    ∃ turns, (∀ deadline, unrolled turns deadline first = activity deadline first) ∧
      ∀ deadline, unrolled turns deadline second = activity deadline second := by
  obtain ⟨one, left⟩ := agree first
  obtain ⟨two, right⟩ := agree second
  exact ⟨max one two, left _ (Nat.le_max_left ..), right _ (Nat.le_max_right ..)⟩

end Activity

namespace Transport

open Activity (Built Reading)

/-! ### Writing -/

def writeUpTo : Nat → List UInt8 → Activity IoFault Unit
  | 0, _ => pure ()
  | turns + 1, bytes =>
    if bytes = [] then pure ()
    else (write bytes).resume fun
      | .ok 0 => Activity.fail .wroteNothing
      | .ok (taken + 1) => writeUpTo turns (bytes.drop (taken + 1))
      | .error cause =>
        if cause.kind = .interrupted then writeUpTo turns bytes else Activity.fail cause

theorem writeUpTo_built (turns : Nat) (bytes : List UInt8) : (writeUpTo turns bytes).Built := by
  induction turns generalizing bytes with
  | zero => exact .pure ()
  | succ turns ih =>
    unfold writeUpTo
    split
    · exact .pure ()
    · refine .resume (.write bytes) fun result => ?_
      split
      · exact .fail _
      · exact ih _
      · split
        · exact ih bytes
        · exact .fail _

-- Each turn takes bytes off the frame or an event off the script.
theorem writeUpTo_eq {turns : Nat} {bytes : List UInt8} {transport : Transport}
    (enough : bytes.length + transport.writes.length < turns) (deadline : Deadline) :
    writeUpTo turns bytes deadline transport = writeWhole bytes deadline transport := by
  induction turns generalizing bytes transport with
  | zero => omega
  | succ turns ih =>
    unfold writeUpTo
    by_cases left : bytes = []
    · rw [if_pos left, writeWhole, dif_pos left]
      rfl
    rw [if_neg left, writeWhole_eq left]
    have positive := List.length_pos_iff.mpr left
    have fewer := length_writes_write_le bytes deadline transport
    unfold Activity.resume
    rcases step : write bytes deadline transport with ⟨ending, after⟩
    rw [step] at fewer
    cases ending with
    | done taken =>
      cases taken with
      | zero => rfl
      | succ taken =>
        refine ih ?_
        rw [List.length_drop]
        dsimp only at fewer
        omega
    | failed cause =>
      have used := length_writes_write_lt (congrArg Prod.fst step)
      rw [step] at used
      simp only [writeBehind]
      split
      · refine ih ?_
        dsimp only at used
        omega
      · rfl
    | waiting => rfl

theorem writeWhole_built (bytes : List UInt8) : Built (writeWhole bytes) := by
  refine .loop (fun turns => writeUpTo_built turns bytes) fun transport => ?_
  exact ⟨bytes.length + transport.writes.length + 1, fun turns enough => writeUpTo_eq enough⟩

theorem deliver_built (frame : List UInt8) : (deliver frame).Built :=
  ((writeWhole_built frame).bind fun _ => .flush).mapError Fault.ofIo

/-! ### Reading -/

def fillUpTo (buffer : Nat) : Nat → Nat → List UInt8 → Activity Shortage (List UInt8)
  | 0, _, got => pure got
  | turns + 1, window, got =>
    if window = 0 then pure got
    else (read buffer window).resume fun
      | .ok [] => Activity.fail (.ended got.length)
      | .ok (byte :: more) =>
        fillUpTo buffer turns (window - (more.length + 1)) (more.reverseAux (byte :: got))
      | .error cause =>
        if cause.kind = .interrupted then fillUpTo buffer turns window got
        else Activity.fail (.ofFailure got.length cause)

theorem fillUpTo_built (buffer turns window : Nat) (got : List UInt8) :
    (fillUpTo buffer turns window got).Built := by
  induction turns generalizing window got with
  | zero => exact .pure got
  | succ turns ih =>
    unfold fillUpTo
    split
    · exact .pure got
    · refine .resume (.read buffer window) fun result => ?_
      split
      · exact .fail _
      · exact ih _ _
      · split
        · exact ih window got
        · exact .fail _

def fillBehind (buffer : Nat) (deadline : Deadline) (window : Nat) (got : List UInt8) :
    Ending IoFault (List UInt8) × Transport → Ending Shortage (List UInt8) × Transport
  | (.done [], after) => (.failed (.ended got.length), after)
  | (.done (byte :: more), after) =>
    fill buffer deadline (window - (more.length + 1)) (more.reverseAux (byte :: got)) after
  | (.failed cause, after) =>
    if cause.kind = .interrupted then fill buffer deadline window got after
    else (.failed (.ofFailure got.length cause), after)
  | (.waiting, after) => (.waiting, after)

theorem fill_eq {window : Nat} (missing : window ≠ 0) (buffer : Nat) (deadline : Deadline)
    (got : List UInt8) (transport : Transport) :
    fill buffer deadline window got transport =
      fillBehind buffer deadline window got (read buffer window deadline transport) := by
  rw [fill, dif_neg missing]
  split <;> rename_i step <;> rw [step]
  · rfl
  · rfl
  · simp only [fillBehind, Shortage.ofFailure]
    split
    · rfl
    · split <;> rfl
  · rfl

-- Each turn takes a byte off the window or an event off the script.
theorem fillUpTo_eq {turns window : Nat} {transport : Transport}
    (enough : window + transport.reads.length < turns) (buffer : Nat) (got : List UInt8)
    (deadline : Deadline) :
    fillUpTo buffer turns window got deadline transport =
      fill buffer deadline window got transport := by
  induction turns generalizing window got transport with
  | zero => omega
  | succ turns ih =>
    unfold fillUpTo
    by_cases full : window = 0
    · rw [if_pos full, fill, dif_pos full]
      rfl
    rw [if_neg full, fill_eq full]
    have fewer := length_reads_read_le buffer window deadline transport
    unfold Activity.resume
    rcases step : read buffer window deadline transport with ⟨ending, after⟩
    rw [step] at fewer
    cases ending with
    | done bytes =>
      cases bytes with
      | nil => rfl
      | cons byte more =>
        refine ih ?_ _
        dsimp only at fewer
        omega
    | failed cause =>
      have used := length_reads_read_lt (congrArg Prod.fst step)
      rw [step] at used
      simp only [fillBehind]
      split
      · refine ih ?_ _
        dsimp only at used
        omega
      · rfl
    | waiting => rfl

theorem fill_built (buffer window : Nat) (got : List UInt8) :
    Built fun deadline => fill buffer deadline window got := by
  refine .loop (fun turns => fillUpTo_built buffer turns window got) fun transport => ?_
  exact ⟨window + transport.reads.length + 1, fun turns enough => fillUpTo_eq enough buffer got⟩

theorem readField_built (length : Nat) : (readField length).Built := by
  have same : readField length =
      Activity.resume (fun deadline => fill length deadline length []) fun
        | .ok got => pure got.reverse
        | .error shortage => Activity.fail shortage := by
    funext deadline transport
    unfold readField Activity.resume
    dsimp only
    rcases fill length deadline length [] transport with ⟨ending, after⟩
    cases ending <;> rfl
  rw [same]
  refine .resume (fill_built length length []) ?_
  rintro (shortage | got)
  · exact .fail shortage
  · exact .pure _

theorem readOn_built (length start : Nat) (got : List UInt8) :
    Built fun deadline => readOn length deadline start got := by
  -- by how much of the field is not in the buffer yet, which one more step of growth makes less
  induction left : length - start using Nat.strongRecOn generalizing start got with
  | ind left ih =>
    by_cases more : start < length
    · have same : (fun deadline => readOn length deadline start got) =
          Activity.resume
            (fun deadline => fill (min length (start + growth)) deadline
              (min length (start + growth) - start) got) fun
            | .ok all => fun deadline => readOn length deadline (min length (start + growth)) all
            | .error shortage => Activity.fail shortage := by
        funext deadline transport
        rw [readOn, dif_pos more]
        unfold Activity.resume
        dsimp only
        rcases fill (min length (start + growth)) deadline (min length (start + growth) - start) got
          transport with ⟨ending, after⟩
        cases ending <;> rfl
      rw [same]
      refine .resume (fill_built ..) ?_
      rintro (shortage | all)
      · exact .fail shortage
      · have grows : 0 < growth := by decide
        exact ih _ (by omega) _ all rfl
    · have same : (fun deadline => readOn length deadline start got) =
          (pure got.reverse : Activity Shortage (List UInt8)) := by
        funext deadline transport
        rw [readOn, dif_neg more]
        rfl
      rw [same]
      exact .pure _

theorem reading_built {ε α : Type} {activity : Activity ε α} (reading : activity.Reading) :
    activity.Built := by
  induction reading with
  | pure value => exact .pure value
  | fail error => exact .fail error
  | field length => exact readField_built length
  | whole length => exact readOn_built length 0 []
  | mapError restate _ ih => exact ih.mapError restate
  | bind _ _ first rest => exact first.bind rest

end Transport

end VectorLink
