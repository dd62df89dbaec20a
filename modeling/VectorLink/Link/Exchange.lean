import VectorLink.Link.Basic

/-! Exchanges on a link, and the other calls.

An exchange begins only on a ready link. A link found in the middle of another exchange has been
abandoned there; it is closed, since the next bytes on it might be a late reply. Each exchange has
one time budget for its writes, its flush and all its reads.
-/

set_option autoImplicit false

namespace VectorLink

/-- The milliseconds after which a wait is cut short: by the time limit, or by the caller. -/
def Patience.budget (limit : Nat) : Patience → Nat
  | never => 0
  | upTo millis => min limit millis
  | unbounded => limit

def Patience.outlasts (limit : Nat) : Patience → Bool
  | never => false
  | upTo millis => limit ≤ millis
  | unbounded => true

def Patience.deadline (clock : Nat) : Patience → Deadline
  | upTo millis => some (clock + millis)
  | never | unbounded => none

namespace Link

def abort {α : Type} (link : Link) (request : Request) (frame : List UInt8) (fault : Fault) :
    Turn α :=
  ⟨.failed fault, link.discard,
    [request.startNote frame, request.failureNote link.address fault]⟩

/-- Sends a frame and reads the reply. The phase is marked before the first byte goes out, so that
an exchange dropped at any point leaves its mark. -/
def transact (link : Link) (request : Request) (frame : List UInt8) (patience : Patience) :
    Turn request.Answer :=
  let limit := link.limit.ticks
  let deadline := link.transport.clock + patience.budget limit
  match request.converse frame (some deadline) link.transport with
  | (.done answer, transport) =>
    ⟨.answered answer,
      { link with transport, phase := .ready, selection := request.selectionAfter link.selection },
      request.startNote frame :: request.endNotes link.address⟩
  | (.failed fault, transport) => abort { link with transport } request frame fault
  | (.waiting, transport) =>
    if patience.outlasts limit then
      abort { link with transport } request frame (.timeout link.limit)
    else
      ⟨.abandoned, { link with transport, phase := request.busyPhase }, [request.startNote frame]⟩

def desynchronize {α : Type} (link : Link) : Turn α :=
  ⟨.failed .desynchronized, link.discard,
    [⟨.warn, "previous request was abandoned mid-flight; closing connection",
      [("endpoint", link.address.text), ("state", link.phase.name)]⟩]⟩

def start (link : Link) (request : Request) (patience : Patience) : Turn request.Answer :=
  match request.frameFor link.selection with
  | .error fault => .still (.failed fault) link
  | .ok frame =>
    if link.custody = .held then link.transact request frame patience
    else .still (.failed .linkClosed) link

def exchange (link : Link) (request : Request) (patience : Patience) : Turn request.Answer :=
  match patience, link.phase with
  | .never, _ => .still .abandoned link
  | patience, .ready => link.start request patience
  | _, .handshaking | _, .inFlight => link.desynchronize
  | _, .disconnected | _, .connecting | _, .closed => .still (.failed .linkClosed) link

def fresh (transport : Transport) (address : Address) (selection : Selection) (limit : Span) : Link :=
  ⟨address, selection, .connecting, limit, transport, .held⟩

/-- Opens a link for a caller of this patience: the first exchange selects a database. An opening
that fails or is dropped takes its transport with it. -/
def establishFor (patience : Patience) (transport : Transport) (address : Address)
    (selection : Selection) (limit : Span) : Turn Unit :=
  let link := fresh transport address selection limit
  let turn : Turn Unit := match patience with
    | .never => .still .abandoned link
    | patience => link.start (.select selection.database selection.dimension) patience
  match turn.outcome with
  | .answered _ => turn
  | _ => { turn with link := turn.link.discard }

def establish (transport : Transport) (address : Address) (selection : Selection) (limit : Span) :
    Turn Unit :=
  establishFor .unbounded transport address selection limit

/-- What becomes of a link whose transport was given up to be shut down. The phase changes only
when the shutdown is over. -/
def released (link : Link) : Ending IoFault Unit × Transport → Turn Unit
  | (.done (), transport) =>
    ⟨.answered (), { link with transport, phase := .closed, custody := .shutDown },
      [⟨.info, "connection closed", [("endpoint", link.address.text)]⟩]⟩
  | (.failed cause, transport) =>
    ⟨.answered (), { link with transport, phase := .closed, custody := .shutDown },
      [⟨.debug, "shutdown failed", [("error", cause.text)]⟩,
        ⟨.info, "connection closed", [("endpoint", link.address.text)]⟩]⟩
  | (.waiting, transport) =>
    ⟨.abandoned, { link with transport, custody := .dropped }, []⟩

def close (link : Link) (patience : Patience) : Turn Unit :=
  match patience with
  | .never => .still .abandoned link
  | patience =>
    if link.phase.isTerminal then .still (.answered ()) link
    else if link.custody = .held then
      link.released
        (Transport.shutdown (patience.deadline link.transport.clock) link.transport)
    else .still (.answered ()) { link with phase := .closed }

def inspect {α : Type} (link : Link) (view : Link → α) (patience : Patience) : Turn α :=
  match patience with
  | .never => .still .abandoned link
  | _ => .still (.answered (view link)) link

def setLimit (link : Link) (limit : Span) (patience : Patience) : Turn Unit :=
  match patience with
  | .never => .still .abandoned link
  | _ => .still (.answered ()) { link with limit }

end Link

inductive Call where
  | exchange (request : Request)
  | close
  | setLimit (limit : Span)
  deriving DecidableEq, Repr

namespace Call

def Answer : Call → Type
  | exchange request => request.Answer
  | close | setLimit _ => Unit

end Call

namespace Link

def run (link : Link) : (call : Call) → Patience → Turn call.Answer
  | .exchange request, patience => link.exchange request patience
  | .close, patience => link.close patience
  | .setLimit limit, patience => link.setLimit limit patience

def after (link : Link) : List (Call × Patience) → Link
  | [] => link
  | (call, patience) :: rest => (link.run call patience).link.after rest

end Link

end VectorLink
