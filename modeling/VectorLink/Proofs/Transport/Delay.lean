import VectorLink.Proofs.Transport.Built

/-! Delays, and what a deadline makes of them.

A pause on a script takes time and does nothing else. Three things follow for everything that is
built from the calls of a transport. Without a deadline, the time it takes is the sum of the pauses
that it uses up. With one, it goes exactly as without, or is cut off, depending on that sum alone.
And if it is not cut off, the pauses might as well not have been there.
-/

set_option autoImplicit false

namespace VectorLink

/-! ### Scripts -/

namespace Event

variable {α : Type}

def delay : Event α → Nat
  | pause millis => millis
  | answer _ | failure _ | hang => 0

def delays : List (Event α) → Nat
  | [] => 0
  | event :: rest => event.delay + delays rest

def isPause : Event α → Bool
  | pause _ => true
  | answer _ | failure _ | hang => false

def calm (events : List (Event α)) : List (Event α) := events.filter fun event => !event.isPause

@[simp] theorem delays_nil : delays ([] : List (Event α)) = 0 := rfl

@[simp] theorem delays_cons (event : Event α) (rest : List (Event α)) :
    delays (event :: rest) = event.delay + delays rest := rfl

theorem admits_none (moment : Nat) : Deadline.Admits none moment := by
  rintro limit ⟨⟩

theorem admits_some (limit moment : Nat) : Deadline.Admits (some limit) moment ↔ moment ≤ limit :=
  ⟨fun admits => admits limit rfl, by rintro within _ ⟨⟩; exact within⟩

/-- How a call goes for which no deadline is set: the time it takes is the delay that it uses up,
and only a hang keeps it waiting. -/
theorem meet_none (idle : α → Bool) (clock : Nat) (events : List (Event α)) :
    clock ≤ (meet idle none clock events).clock ∧
      (meet idle none clock events).clock + delays (meet idle none clock events).rest =
        clock + delays events ∧
      ((meet idle none clock events).encounter = .waiting →
        (meet idle none clock events).rest.head? = some .hang) := by
  fun_induction meet idle none clock events with
  | case1 clock => simp
  | case2 clock value rest idle ih => simpa [delay] using ih
  | case3 clock value rest busy => simp [delay]
  | case4 clock cause rest => simp [delay]
  | case5 clock millis rest inTime ih =>
    obtain ⟨forward, spent, hung⟩ := ih
    refine ⟨by omega, ?_, hung⟩
    rw [spent, delays_cons, delay, Nat.add_assoc]
  | case6 clock millis rest late => exact absurd (admits_none _) late
  | case7 clock rest => simp

/-- How a deadline shows that has not passed yet: not at all, if the call ends in time without it,
and by cutting it off if it does not. -/
theorem meet_some (idle : α → Bool) {clock limit : Nat} (early : clock ≤ limit)
    (events : List (Event α)) :
    ((meet idle none clock events).encounter ≠ .waiting →
        (meet idle none clock events).clock ≤ limit →
        meet idle (some limit) clock events = meet idle none clock events) ∧
      ((meet idle none clock events).encounter = .waiting ∨
          limit < (meet idle none clock events).clock →
        (meet idle (some limit) clock events).encounter = .waiting) := by
  induction events generalizing clock with
  | nil => simp [meet, early]
  | cons event rest ih =>
    cases event with
    | answer value =>
      by_cases skipped : idle value
      · simpa only [meet, if_pos skipped] using ih early
      · simp [meet, skipped, early]
    | failure cause => simp [meet, early]
    | pause millis =>
      simp only [meet, if_pos (admits_none _), admits_some]
      by_cases within : clock + millis ≤ limit
      · simpa only [if_pos within] using ih within
      · -- the wait is cut short, and without a deadline the call would come out of it too late
        have forward := (meet_none idle (clock + millis) rest).1
        rw [if_neg within]
        exact ⟨fun _ inTime => absurd (Nat.le_trans forward inTime) within, fun _ => rfl⟩
    | hang => simp [meet]

theorem meet_now (idle : α → Bool) (clock now : Nat) (events : List (Event α)) :
    (meet idle none now events).encounter = (meet idle none clock events).encounter ∧
      (meet idle none now events).rest = (meet idle none clock events).rest := by
  induction events generalizing clock now with
  | nil => exact ⟨rfl, rfl⟩
  | cons event rest ih =>
    cases event with
    | answer value =>
      by_cases skipped : idle value
      · simpa only [meet, if_pos skipped] using ih clock now
      · simp [meet, skipped]
    | failure cause => exact ⟨rfl, rfl⟩
    | pause millis => simpa only [meet, if_pos (admits_none _)] using ih _ _
    | hang => exact ⟨rfl, rfl⟩

theorem meet_calm (idle : α → Bool) (deadline : Deadline) (clock : Nat) (events : List (Event α))
    (ends : (meet idle deadline clock events).encounter ≠ .waiting) (other : Deadline) (now : Nat) :
    meet idle other now (calm events) =
      ⟨(meet idle deadline clock events).encounter, now,
        calm (meet idle deadline clock events).rest⟩ := by
  fun_induction meet idle deadline clock events with
  | case1 clock => rfl
  | case2 clock value rest skipped ih =>
    show meet idle other now (.answer value :: calm rest) = _
    rw [meet, if_pos skipped, ih ends]
  | case3 clock value rest busy =>
    show meet idle other now (.answer value :: calm rest) = _
    rw [meet, if_neg busy]
  | case4 clock cause rest => rfl
  | case5 clock millis rest inTime ih => exact ih ends
  | case6 clock millis rest late stop => exact absurd rfl ends
  | case7 clock rest => exact absurd rfl ends

end Event

/-! ### Single calls -/

namespace Transport

def delays (transport : Transport) : Nat :=
  Event.delays transport.reads + Event.delays transport.writes + Event.delays transport.flushes

def Hung (transport : Transport) : Prop :=
  transport.reads.head? = some .hang ∨ transport.writes.head? = some .hang ∨
    transport.flushes.head? = some .hang

/-- The transport without the pauses of its reads, writes and flushes. -/
def calm (transport : Transport) : Transport :=
  { transport with
    reads := Event.calm transport.reads
    writes := Event.calm transport.writes
    flushes := Event.calm transport.flushes }

def Calmed (first second : Transport) : Prop :=
  ∃ clock : Nat, second = { first.calm with clock }

end Transport

open Transport (Calmed)

namespace Activity

variable {ε α : Type}

/-- A run for which no deadline was set: the time it took is the delay that it used up, and it waits
at a hang only. -/
structure Elapsed (before : Transport) (run : Ending ε α × Transport) : Prop where
  forward : before.clock ≤ run.2.clock
  spent : run.2.clock + run.2.delays = before.clock + before.delays
  hung : run.1 = .waiting → run.2.Hung

/-- The second run is the first with a deadline: the same if the first ends in time, and cut off if
not. -/
structure Curtailed (limit : Nat) (free bounded : Ending ε α × Transport) : Prop where
  inTime : free.1 ≠ .waiting → free.2.clock ≤ limit → bounded = free
  late : free.1 = .waiting ∨ limit < free.2.clock → bounded.1 = .waiting

/-- The second run is the first without the pauses. -/
structure Calming (first second : Ending ε α × Transport) : Prop where
  ending : second.1 = first.1
  after : Calmed first.2 second.2

theorem elapsed_self {ending : Ending ε α} (ends : ending ≠ .waiting) (transport : Transport) :
    Elapsed transport (ending, transport) :=
  ⟨Nat.le_refl _, rfl, fun waits => absurd waits ends⟩

theorem curtailed_self {limit : Nat} {ending : Ending ε α} {transport : Transport}
    (early : transport.clock ≤ limit) (ends : ending ≠ .waiting) :
    Curtailed limit (ending, transport) (ending, transport) := by
  refine ⟨fun _ _ => rfl, ?_⟩
  rintro (waits | late)
  · exact absurd waits ends
  · exact absurd early (Nat.not_le_of_lt late)

end Activity

namespace Transport

open Activity (Built Elapsed Curtailed Calming elapsed_self curtailed_self)

/-! ### Time without a deadline -/

theorem write_elapsed (offered : List UInt8) (transport : Transport) :
    Elapsed transport (write offered none transport) := by
  obtain ⟨forward, spent, hung⟩ :=
    Event.meet_none (fun _ => false) transport.clock transport.writes
  unfold write
  dsimp only
  split <;> rename_i met <;> refine ⟨forward, ?_, ?_⟩
  case h_4.refine_2 => exact fun _ => .inr (.inl (hung met))
  all_goals simp [delays, note]
  all_goals omega

theorem flush_elapsed (transport : Transport) : Elapsed transport (flush none transport) := by
  obtain ⟨forward, spent, hung⟩ :=
    Event.meet_none (fun _ => false) transport.clock transport.flushes
  unfold flush
  dsimp only
  split <;> rename_i met <;> refine ⟨forward, ?_, ?_⟩
  case h_4.refine_2 => exact fun _ => .inr (.inr (hung met))
  all_goals simp [delays, note]
  all_goals omega

theorem read_elapsed (buffer window : Nat) (transport : Transport) :
    Elapsed transport (read buffer window none transport) := by
  obtain ⟨forward, spent, hung⟩ :=
    Event.meet_none Delivery.isEmptyData transport.clock transport.reads
  unfold read
  dsimp only
  split <;> rename_i met
  · -- what is left of a delivery stays in front, and is no delay
    split <;> refine ⟨forward, ?_, by simp⟩ <;> simp [delays, note, Event.delay] <;> omega
  all_goals refine ⟨forward, ?_, ?_⟩
  case h_5.refine_2 => exact fun _ => .inl (hung met)
  all_goals simp [delays, note]
  all_goals omega

theorem built_elapsed {ε α : Type} {activity : Activity ε α} (built : activity.Built)
    (transport : Transport) : Elapsed transport (activity none transport) := by
  induction built generalizing transport with
  | pure value => exact elapsed_self (by simp) transport
  | fail error => exact elapsed_self (by simp) transport
  | write offered => exact write_elapsed offered transport
  | flush => exact flush_elapsed transport
  | read buffer window => exact read_elapsed buffer window transport
  | @resume _ _ _ _ first next _ _ one rest =>
    have start := one transport
    unfold Activity.resume
    rcases run : first none transport with ⟨ending, middle⟩
    rw [run] at start
    have behind (result) : Elapsed transport (next result none middle) := by
      obtain ⟨forward, spent, hung⟩ := rest result middle
      exact ⟨Nat.le_trans start.forward forward, spent.trans start.spent, hung⟩
    cases ending with
    | done value => exact behind (.ok value)
    | failed error => exact behind (.error error)
    | waiting => exact ⟨start.forward, start.spent, fun _ => start.hung rfl⟩
  | loop _ agree each =>
    obtain ⟨turns, same, -⟩ := Activity.exists_unrolled agree transport transport
    rw [← same]
    exact each turns transport

/-! ### Time with a deadline -/

structure Meets {ε α β : Type} (call : Activity ε α) (transport : Transport)
    (meeting : Deadline → Meeting β) : Prop where
  clock : ∀ deadline, (call deadline transport).2.clock = (meeting deadline).clock
  waiting_iff : ∀ deadline,
    (call deadline transport).1 = .waiting ↔ (meeting deadline).encounter = .waiting
  same : ∀ first second, meeting first = meeting second →
    call first transport = call second transport

theorem Meets.curtailed {ε α β : Type} {call : Activity ε α} {transport : Transport}
    {idle : β → Bool} {events : List (Event β)} {limit : Nat}
    (meets : Meets call transport fun deadline =>
      Event.meet idle deadline transport.clock events)
    (early : transport.clock ≤ limit) :
    Curtailed limit (call none transport) (call (some limit) transport) := by
  obtain ⟨inTime, late⟩ := Event.meet_some idle early events
  constructor
  · intro ends soon
    rw [meets.clock] at soon
    exact meets.same _ _ (inTime (fun waits => ends ((meets.waiting_iff _).mpr waits)) soon)
  · intro exceeds
    rw [meets.waiting_iff, meets.clock] at exceeds
    exact (meets.waiting_iff _).mpr (late exceeds)

theorem write_meets (offered : List UInt8) (transport : Transport) :
    Meets (write offered) transport fun deadline =>
      Event.meet (fun _ => false) deadline transport.clock transport.writes := by
  constructor
  · intro deadline
    unfold write
    dsimp only
    split <;> rfl
  · intro deadline
    unfold write
    dsimp only
    split <;> rename_i met <;> simp [met]
  · intro first second same
    unfold write
    rw [same]

theorem flush_meets (transport : Transport) :
    Meets flush transport fun deadline =>
      Event.meet (fun _ => false) deadline transport.clock transport.flushes := by
  constructor
  · intro deadline
    unfold flush
    dsimp only
    split <;> rfl
  · intro deadline
    unfold flush
    dsimp only
    split <;> rename_i met <;> simp [met]
  · intro first second same
    unfold flush
    rw [same]

theorem read_meets (buffer window : Nat) (transport : Transport) :
    Meets (read buffer window) transport fun deadline =>
      Event.meet Delivery.isEmptyData deadline transport.clock transport.reads := by
  constructor
  · intro deadline
    unfold read
    dsimp only
    split
    · split <;> rfl
    all_goals rfl
  · intro deadline
    unfold read
    dsimp only
    split <;> rename_i met <;> simp [met]
  · intro first second same
    unfold read
    rw [same]

theorem built_curtailed {ε α : Type} {activity : Activity ε α} (built : activity.Built)
    {limit : Nat} {transport : Transport} (early : transport.clock ≤ limit) :
    Curtailed limit (activity none transport) (activity (some limit) transport) := by
  induction built generalizing transport with
  | pure value => exact curtailed_self early (by simp)
  | fail error => exact curtailed_self early (by simp)
  | write offered => exact (write_meets offered transport).curtailed early
  | flush => exact (flush_meets transport).curtailed early
  | read buffer window => exact (read_meets buffer window transport).curtailed early
  | @resume _ _ _ _ first next _ others one rest =>
    obtain ⟨inTime, late⟩ := one early
    unfold Activity.resume
    rcases free : first none transport with ⟨ending, middle⟩
    rcases bounded : first (some limit) transport with ⟨other, after⟩
    rw [free, bounded] at inTime late
    by_cases soon : ending ≠ .waiting ∧ middle.clock ≤ limit
    · obtain ⟨rfl, rfl⟩ := Prod.mk.inj (inTime soon.1 soon.2)
      cases other with
      | done value => exact rest (.ok value) soon.2
      | failed error => exact rest (.error error) soon.2
      | waiting => exact absurd rfl soon.1
    · -- the first part is cut off, and time does not go back in what follows it
      rw [Classical.not_and_iff_not_or_not, Classical.not_not, Nat.not_le] at soon
      obtain rfl : other = .waiting := late soon
      refine ⟨fun ends inTime => absurd inTime (Nat.not_le_of_lt ?_), fun _ => rfl⟩
      rcases soon with rfl | beyond
      · exact absurd rfl ends
      · cases ending with
        | done value =>
          exact Nat.lt_of_lt_of_le beyond (built_elapsed (others (.ok value)) middle).forward
        | failed error =>
          exact Nat.lt_of_lt_of_le beyond (built_elapsed (others (.error error)) middle).forward
        | waiting => exact beyond
  | loop _ agree each =>
    -- on this transport the loop is one of its unrollings, with and without a deadline
    obtain ⟨turns, same, -⟩ := Activity.exists_unrolled agree transport transport
    rw [← same, ← same]
    exact each turns early

/-! ### Without pauses -/

theorem write_calming (offered : List UInt8) {deadline : Deadline} {first second : Transport}
    (calmed : Calmed first second) (ends : (write offered deadline first).1 ≠ .waiting)
    (other : Deadline) :
    Calming (write offered deadline first) (write offered other second) := by
  obtain ⟨now, rfl⟩ := calmed
  have met := Event.meet_calm (fun _ => false) deadline first.clock first.writes
    (fun waits => ends (((write_meets offered first).waiting_iff deadline).mpr waits)) other now
  unfold write at ends ⊢
  dsimp only [calm] at ends ⊢
  rw [met]
  dsimp only
  split <;> exact ⟨rfl, now, rfl⟩

theorem flush_calming {deadline : Deadline} {first second : Transport}
    (calmed : Calmed first second) (ends : (flush deadline first).1 ≠ .waiting) (other : Deadline) :
    Calming (flush deadline first) (flush other second) := by
  obtain ⟨now, rfl⟩ := calmed
  have met := Event.meet_calm (fun _ => false) deadline first.clock first.flushes
    (fun waits => ends (((flush_meets first).waiting_iff deadline).mpr waits)) other now
  unfold flush at ends ⊢
  dsimp only [calm] at ends ⊢
  rw [met]
  dsimp only
  split <;> exact ⟨rfl, now, rfl⟩

theorem read_calming (buffer window : Nat) {deadline : Deadline} {first second : Transport}
    (calmed : Calmed first second) (ends : (read buffer window deadline first).1 ≠ .waiting)
    (other : Deadline) :
    Calming (read buffer window deadline first) (read buffer window other second) := by
  obtain ⟨now, rfl⟩ := calmed
  have met := Event.meet_calm Delivery.isEmptyData deadline first.clock first.reads
    (fun waits => ends (((read_meets buffer window first).waiting_iff deadline).mpr waits))
    other now
  unfold read at ends ⊢
  dsimp only [calm] at ends ⊢
  rw [met]
  dsimp only
  split
  · rename_i bytes _
    refine ⟨rfl, now, ?_⟩
    -- how much one read brings does not depend on the delays, nor does what it leaves
    dsimp only [reach]
    cases first.chunk with
    | none => cases bytes.drop window <;> rfl
    | some chunk => cases bytes.drop (min window (max chunk 1)) <;> rfl
  all_goals exact ⟨rfl, now, rfl⟩

theorem built_calming {ε α : Type} {activity : Activity ε α} (built : activity.Built)
    {deadline : Deadline} {first second : Transport} (calmed : Calmed first second)
    (ends : (activity deadline first).1 ≠ .waiting) (other : Deadline) :
    Calming (activity deadline first) (activity other second) := by
  induction built generalizing first second with
  | pure value => exact ⟨rfl, calmed⟩
  | fail error => exact ⟨rfl, calmed⟩
  | write offered => exact write_calming offered calmed ends other
  | flush => exact flush_calming calmed ends other
  | read buffer window => exact read_calming buffer window calmed ends other
  | @resume _ _ _ _ part next _ _ one rest =>
    -- the first part has ended too, and so the second begins on transports that are calmed
    have start := one calmed fun waits => ends (Activity.resume_of_waiting waits)
    unfold Activity.resume at ends ⊢
    rcases run : part deadline first with ⟨ending, middle⟩
    rcases run' : part other second with ⟨ending', middle'⟩
    rw [run, run'] at start
    obtain ⟨same, calmed⟩ := start
    obtain rfl : ending' = ending := same
    rw [run] at ends
    cases ending' with
    | done value => exact rest (.ok value) calmed ends
    | failed error => exact rest (.error error) calmed ends
    | waiting => exact absurd rfl ends
  | loop _ agree each =>
    obtain ⟨turns, left, right⟩ := Activity.exists_unrolled agree first second
    rw [← left] at ends
    rw [← left, ← right]
    exact each turns calmed ends

theorem shutdown_calming {first second : Transport} (calmed : Calmed first second) :
    Calming (shutdown none first) (shutdown none second) := by
  obtain ⟨now, rfl⟩ := calmed
  obtain ⟨encounter, rest⟩ := Event.meet_now (fun _ => false) first.clock now first.shutdowns
  unfold shutdown
  dsimp only [calm]
  rw [encounter, rest]
  split <;> exact ⟨rfl, _, rfl⟩

end Transport

end VectorLink
