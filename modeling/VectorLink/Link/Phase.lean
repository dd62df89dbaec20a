/-! The phases in the life of a link.

    disconnected → connecting → handshaking → ready ⇄ inFlight
                                                ↓
                                              closed
-/

set_option autoImplicit false

namespace VectorLink

inductive Phase where
  | disconnected
  | connecting
  /-- A select has been sent and its acknowledgement is outstanding. -/
  | handshaking
  | ready
  /-- Another request has been sent and its reply is not fully read. -/
  | inFlight
  | closed
  deriving DecidableEq, Repr

namespace Phase

def name : Phase → String
  | disconnected => "Disconnected"
  | connecting => "Connecting"
  | handshaking => "Handshaking"
  | ready => "Ready"
  | inFlight => "InFlight"
  | closed => "Closed"

def key : Phase → String
  | disconnected => "disconnected"
  | connecting => "connecting"
  | handshaking => "handshaking"
  | ready => "ready"
  | inFlight => "in_flight"
  | closed => "closed"

def all : List Phase := [disconnected, connecting, handshaking, ready, inFlight, closed]

def ofKey? (key : String) : Option Phase := all.find? (fun phase => phase.key = key)

def isTerminal : Phase → Bool
  | closed => true
  | _ => false

@[simp] theorem ofKey?_key (phase : Phase) : ofKey? phase.key = some phase := by
  cases phase <;> decide

end Phase

end VectorLink
