import VectorLink.Proofs.Transport.Flow

/-! Dealings with a transport that does what is asked of it.

`Activity.Takes` says that an activity, when the stream begins with certain bytes, takes exactly
these for a value and leaves the stream right behind them. A transport that accepts all writes gets
a frame out in full, in however many pieces.
-/

set_option autoImplicit false

namespace VectorLink

open VectorLink.Flow (ofScript ofBytes)

namespace Activity

variable {ε ε' α β : Type}

/-- Wherever the stream begins with these bytes, the activity takes them for the value and leaves
the rest of the stream. -/
def Takes (activity : Activity ε α) (bytes : List UInt8) (value : α) : Prop :=
  ∀ (deadline : Deadline) (transport : Transport) (rest : Flow),
    ofScript transport.reads = ofBytes bytes ++ rest →
      ∃ after : Transport,
        activity deadline transport = (.done value, after) ∧ ofScript after.reads = rest

theorem takes_pure (value : α) : (pure value : Activity ε α).Takes [] value :=
  fun _ transport _ flow => ⟨transport, rfl, flow⟩

theorem takes_ofExcept {result : Except ε α} {value : α} (ok : result = .ok value) :
    (ofExcept result).Takes [] value := by
  rw [ok]
  exact takes_pure value

theorem Takes.mapError {activity : Activity ε α} {bytes : List UInt8} {value : α}
    (takes : activity.Takes bytes value) (restate : ε → ε') :
    (mapError restate activity).Takes bytes value := by
  intro deadline transport rest flow
  obtain ⟨after, run, left⟩ := takes deadline transport rest flow
  exact ⟨after, mapError_of_done run, left⟩

theorem Takes.bind {first : Activity ε α} {next : α → Activity ε β} {front back : List UInt8}
    {between : α} {value : β} (one : first.Takes front between)
    (two : (next between).Takes back value) : (first >>= next).Takes (front ++ back) value := by
  intro deadline transport rest flow
  rw [Flow.ofBytes_append, List.append_assoc] at flow
  obtain ⟨middle, run, left⟩ := one deadline transport _ flow
  obtain ⟨after, run', left'⟩ := two deadline middle rest left
  exact ⟨after, (bind_of_done run).trans run', left'⟩

end Activity

namespace Transport

theorem draw_takes {deadline : Deadline} {transport : Transport} {bytes : List UInt8} {rest : Flow}
    (flow : ofScript transport.reads = ofBytes bytes ++ rest) :
    (Flow.draw deadline transport.clock bytes.length [] (ofScript transport.reads)).inOrder =
      ⟨.done bytes, transport.clock, rest⟩ := by
  rw [flow, Flow.draw_ofBytes _ _ _ _ _ (Nat.le_refl _), Nat.sub_self, Flow.draw_zero,
    List.append_nil]
  simp [Flow.Drawn.inOrder, inOrder]

theorem takes_of_drawn {activity : Activity Shortage (List UInt8)} {length : Nat}
    (draws : ∀ deadline transport, drawn (activity deadline transport) =
      (Flow.draw deadline transport.clock length [] (ofScript transport.reads)).inOrder)
    {bytes : List UInt8} (size : bytes.length = length) : activity.Takes bytes bytes := by
  intro deadline transport rest flow
  have same := draws deadline transport
  rw [← size, draw_takes flow] at same
  rcases run : activity deadline transport with ⟨ending, after⟩
  rw [run] at same
  obtain ⟨rfl, -, left⟩ := (Flow.Drawn.mk.injEq ..).mp same
  exact ⟨after, rfl, left⟩

theorem readField_takes {bytes : List UInt8} {length : Nat} (size : bytes.length = length) :
    (readField length).Takes bytes bytes := takes_of_drawn (drawn_readField length) size

theorem readWhole_takes {bytes : List UInt8} {length : Nat} (size : bytes.length = length) :
    (readWhole length).Takes bytes bytes := takes_of_drawn (drawn_readWhole length) size

/-! ### Writes that are accepted -/

/-- Every write takes something, and no flush fails or waits. -/
structure Accepting (transport : Transport) : Prop where
  writes : ∀ event ∈ transport.writes, ∃ most : Nat, 0 < most ∧ event = .answer most
  flushes : ∀ event ∈ transport.flushes, event = .answer ()

theorem Accepting.write {transport : Transport} (accepting : transport.Accepting)
    {offered : List UInt8} (left : offered ≠ []) (deadline : Deadline) :
    ∃ (taken : Nat) (after : Transport),
      Transport.write offered deadline transport = (.done (taken + 1), after) ∧ after.Accepting := by
  have positive := List.length_pos_iff.mpr left
  unfold Transport.write
  cases script : transport.writes with
  | nil =>
    have all : offered.length = offered.length - 1 + 1 := by omega
    refine ⟨offered.length - 1, _, congrArg (fun taken => (Ending.done taken, _)) all, ?_⟩
    exact ⟨by simp [Event.meet, note], accepting.flushes⟩
  | cons event rest =>
    have later := List.forall_mem_cons.mp (script ▸ accepting.writes)
    obtain ⟨⟨most, something, rfl⟩, rest⟩ := later
    have some : min most offered.length = min most offered.length - 1 + 1 := by omega
    refine ⟨min most offered.length - 1, _, congrArg (fun taken => (Ending.done taken, _)) some, ?_⟩
    exact ⟨rest, accepting.flushes⟩

theorem Accepting.writeWhole {transport : Transport} (accepting : transport.Accepting)
    (frame : List UInt8) (deadline : Deadline) :
    ∃ after : Transport,
      Transport.writeWhole frame deadline transport = (.done (), after) ∧ after.Accepting := by
  -- each write takes something, so the induction is on what is left of the frame
  induction size : frame.length using Nat.strongRecOn generalizing frame transport with
  | ind length ih =>
    by_cases left : frame = []
    · rw [Transport.writeWhole, dif_pos left]
      exact ⟨transport, rfl, accepting⟩
    · obtain ⟨taken, after, step, accepting⟩ := accepting.write left deadline
      have shorter : (frame.drop (taken + 1)).length < length := by
        have := List.length_pos_iff.mpr left
        rw [List.length_drop]
        omega
      rw [writeWhole_eq left, step]
      exact ih _ shorter accepting (frame.drop (taken + 1)) rfl

theorem Accepting.flush {transport : Transport} (accepting : transport.Accepting)
    (deadline : Deadline) :
    ∃ after : Transport,
      Transport.flush deadline transport = (.done (), after) ∧ after.Accepting := by
  unfold Transport.flush
  cases script : transport.flushes with
  | nil => exact ⟨_, rfl, accepting.writes, by simp [Event.meet, note]⟩
  | cons event rest =>
    have later := List.forall_mem_cons.mp (script ▸ accepting.flushes)
    obtain ⟨rfl, rest⟩ := later
    exact ⟨_, rfl, accepting.writes, rest⟩

theorem Accepting.deliver {transport : Transport} (accepting : transport.Accepting)
    (frame : List UInt8) (deadline : Deadline) :
    ∃ after : Transport,
      Transport.deliver frame deadline transport = (.done (), after) ∧ after.Accepting := by
  obtain ⟨middle, writing, accepting⟩ := accepting.writeWhole frame deadline
  obtain ⟨after, flushing, accepting⟩ := accepting.flush deadline
  exact ⟨after, Activity.mapError_of_done ((Activity.bind_of_done writing).trans flushing), accepting⟩

end Transport

end VectorLink
