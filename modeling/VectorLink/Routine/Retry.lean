import VectorLink.Routine.World

/-! Connecting again where that is safe, after ever longer pauses. -/

set_option autoImplicit false

namespace VectorLink.Retry

/-- The pause after a failed attempt, in milliseconds. Attempts count from one; the pause doubles
with each of the first seventeen and stays the same from then on. -/
def pause (attempt : Nat) : Nat := 100 <<< min (attempt - 1) 16

def note (address : Address) (attempt : Nat) (fault : Fault) : Note :=
  ⟨.warn, "connect attempt failed, retrying",
    [("endpoint", address.text), ("attempt", toString attempt),
      ("delay_ms", toString (pause attempt)), ("error", fault.message)]⟩

/-- Makes attempt number `attempt` and, while each fails in a way that can be retried, up to
`further` more. -/
def attempts (address : Address) (open_ : Routine Fault Unit) :
    (further attempt : Nat) → Routine Fault Unit
  | 0, _ => open_
  | further + 1, attempt => fun world =>
    match open_ world with
    | (.ok (), world) => (.ok (), world)
    | (.error fault, world) =>
      if fault.isRetryable then
        (do
          Routine.note (note address attempt fault)
          Routine.wait (pause attempt)
          attempts address open_ further (attempt + 1)) world
      else (.error fault, world)

def connect (address : Address) (selection : Selection) (most : UInt32) : Routine Fault Unit :=
  attempts address (Routine.connect address selection Link.standardLimit) (most.toNat - 1) 1

end VectorLink.Retry
