import VectorLink.Fault

/-! What a transport does when it is called, as data.

A transport is given as the list of events that its calls meet. An event answers a call, fails it,
or makes it wait; a call that meets a wait goes on to the next event when the wait is over. Time is
virtual and passes only while something waits, so a wait is over at a known moment, and a deadline
either comes before that moment or does not.
-/

set_option autoImplicit false

namespace VectorLink

inductive Event (α : Type) where
  | answer (value : α)
  | failure (cause : IoFault)
  /-- Calls wait until this many milliseconds after the first one that meets the event. -/
  | pause (millis : Nat)
  | hang
  deriving DecidableEq, Repr

abbrev Deadline := Option Nat

/-- A wait that ends at `moment` ends in time, the exact moment of the deadline included. -/
def Deadline.Admits (deadline : Deadline) (moment : Nat) : Prop := ∀ limit ∈ deadline, moment ≤ limit

instance (deadline : Deadline) (moment : Nat) : Decidable (deadline.Admits moment) :=
  match deadline with
  | none => isTrue (by intro limit h; cases h)
  | some limit => decidable_of_iff (moment ≤ limit)
      ⟨fun h other same => by cases same; exact h, fun h => h limit rfl⟩

/-- What a call meets first on a script, once its waits are over. -/
inductive Encounter (α : Type) where
  | answer (value : α)
  | failure (cause : IoFault)
  | waiting
  | exhausted
  deriving DecidableEq, Repr

structure Meeting (α : Type) where
  encounter : Encounter α
  clock : Nat
  rest : List (Event α)
  deriving DecidableEq, Repr

/-- The first answer or failure on a script. Answers that say nothing are passed over; a wait cut
short by the deadline leaves its remainder in place. -/
def Event.meet {α : Type} (idle : α → Bool) (deadline : Deadline) :
    Nat → List (Event α) → Meeting α
  | clock, [] => ⟨.exhausted, clock, []⟩
  | clock, .answer value :: rest =>
    if idle value then meet idle deadline clock rest else ⟨.answer value, clock, rest⟩
  | clock, .failure cause :: rest => ⟨.failure cause, clock, rest⟩
  | clock, .pause millis :: rest =>
    if deadline.Admits (clock + millis) then meet idle deadline (clock + millis) rest
    else
      let stop := max clock (deadline.getD clock)
      ⟨.waiting, stop, .pause (clock + millis - stop) :: rest⟩
  | clock, .hang :: rest => ⟨.waiting, max clock (deadline.getD clock), .hang :: rest⟩

variable {α : Type}

theorem Event.length_meet_le (idle : α → Bool) (deadline : Deadline) (clock : Nat)
    (events : List (Event α)) :
    (Event.meet idle deadline clock events).rest.length ≤ events.length := by
  fun_induction Event.meet idle deadline clock events <;> grind

theorem Event.length_meet_lt (idle : α → Bool) (deadline : Deadline) (clock : Nat)
    (events : List (Event α))
    (waits : (Event.meet idle deadline clock events).encounter ≠ .waiting)
    (going : (Event.meet idle deadline clock events).encounter ≠ .exhausted) :
    (Event.meet idle deadline clock events).rest.length < events.length := by
  fun_induction Event.meet idle deadline clock events <;> grind

end VectorLink
