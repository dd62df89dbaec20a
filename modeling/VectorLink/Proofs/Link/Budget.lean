import VectorLink.Proofs.Link.Dealings
import VectorLink.Proofs.Link.HalfDuplex
import VectorLink.Proofs.Transport.Delay

/-! One time budget for each exchange.

The waits of an exchange, in its writes, its flush and all its reads, are held against the limit
that was in force when it began, and no other waits are. As long as every exchange stays below its
limit, a run goes as if nobody had ever waited. An exchange that exceeds its limit, or comes upon a
hang, ends in a timeout and costs the link.
-/

set_option autoImplicit false

namespace VectorLink

theorem Request.converse_built (request : Request) (frame : List UInt8) :
    (request.converse frame).Built :=
  (Transport.deliver_built frame).bind fun _ => Transport.reading_built request.reply_reading

@[simp] theorem Span.ticks_millis (millis : Nat) : (Span.mk (millis * 1000000)).ticks = millis := by
  simp only [ticks]
  omega

def Call.awaited (call : Call) : Call × Patience := (call, .unbounded)

/-! ### The waits of an exchange -/

namespace Link

def unhurried (link : Link) (request : Request) (frame : List UInt8) :
    Ending Fault request.Answer × Transport :=
  request.converse frame none link.transport

/-- The milliseconds that the exchange would wait in all: the pauses that it uses up on the scripts
of the writes, of the flushes and of the reads. -/
def waits (link : Link) (request : Request) (frame : List UInt8) : Nat :=
  link.transport.delays - (link.unhurried request frame).2.delays

def Hangs (link : Link) (request : Request) (frame : List UInt8) : Prop :=
  (link.unhurried request frame).1 = .waiting

instance (link : Link) (request : Request) (frame : List UInt8) :
    Decidable (link.Hangs request frame) :=
  match ending : (link.unhurried request frame).1 with
  | .waiting => isTrue ending
  | .done _ | .failed _ => isFalse (by simp [Hangs, ending])

/-- The exchange meets no hang, and its waits sum to less than the limit in force. -/
structure InTime (link : Link) (request : Request) (frame : List UInt8) : Prop where
  ends : ¬ link.Hangs request frame
  within : link.waits request frame < link.limit.ticks

instance (link : Link) (request : Request) (frame : List UInt8) :
    Decidable (link.InTime request frame) :=
  decidable_of_iff (¬ link.Hangs request frame ∧ link.waits request frame < link.limit.ticks)
    ⟨fun both => ⟨both.1, both.2⟩, fun inTime => ⟨inTime.ends, inTime.within⟩⟩

/-- The exchange meets a hang, or its waits sum to more than the limit in force. -/
def Overdue (link : Link) (request : Request) (frame : List UInt8) : Prop :=
  link.Hangs request frame ∨ link.limit.ticks < link.waits request frame

instance (link : Link) (request : Request) (frame : List UInt8) :
    Decidable (link.Overdue request frame) := inferInstanceAs (Decidable (_ ∨ _))

variable {link : Link} {request : Request} {frame : List UInt8}

theorem Hangs.hung (hangs : link.Hangs request frame) :
    (link.unhurried request frame).2.Hung :=
  (Transport.built_elapsed (request.converse_built frame) link.transport).hung hangs

theorem clock_unhurried (link : Link) (request : Request) (frame : List UInt8) :
    (link.unhurried request frame).2.clock = link.transport.clock + link.waits request frame := by
  obtain ⟨forward, spent, -⟩ :=
    Transport.built_elapsed (request.converse_built frame) link.transport
  unfold waits unhurried
  omega

theorem converse_curtailed (link : Link) (request : Request) (frame : List UInt8) :
    Activity.Curtailed (link.transport.clock + link.limit.ticks) (link.unhurried request frame)
      (request.converse frame (some (link.transport.clock + link.limit.ticks)) link.transport) :=
  Transport.built_curtailed (request.converse_built frame) (Nat.le_add_right ..)

theorem InTime.converse_eq (inTime : link.InTime request frame) :
    request.converse frame (some (link.transport.clock + link.limit.ticks)) link.transport =
      link.unhurried request frame := by
  refine (link.converse_curtailed request frame).inTime inTime.ends ?_
  rw [clock_unhurried]
  have within := inTime.within
  omega

theorem Overdue.converse_waiting (overdue : link.Overdue request frame) :
    (request.converse frame (some (link.transport.clock + link.limit.ticks)) link.transport).1 =
      .waiting := by
  refine (link.converse_curtailed request frame).late ?_
  rw [clock_unhurried]
  rcases overdue with hangs | exceeds
  · exact .inl hangs
  · exact .inr (by omega)

/-! ### Overdue exchanges -/

/-- What comes of a call whose exchange takes too long. -/
structure TimedOut {α : Type} (link : Link) (frame : List UInt8) (turn : Turn α) : Prop where
  outcome : turn.outcome = .failed (.timeout link.limit)
  closed : turn.link.phase = .closed
  dropped : turn.link.custody = .dropped
  selection : turn.link.selection = link.selection
  written : ∃ sent : List UInt8, sent <+: frame ∧
    turn.link.transport.written = link.transport.written ++ sent

theorem Overdue.transact (overdue : link.Overdue request frame) :
    link.TimedOut frame (link.transact request frame .unbounded) := by
  obtain ⟨-, trace, between, course⟩ := link.transact_cases request frame .unbounded
  have written : ∃ sent : List UInt8, sent <+: frame ∧
      (link.transact request frame .unbounded).link.transport.written =
        link.transport.written ++ sent :=
    ⟨trace.output, course.output_prefix, between.written_eq⟩
  have late : ∃ transport : Transport, link.transact request frame .unbounded =
      abort { link with transport } request frame (.timeout link.limit) := by
    have waits := overdue.converse_waiting
    rcases run : request.converse frame (some (link.transport.clock + link.limit.ticks))
      link.transport with ⟨ending, transport⟩
    rw [run] at waits
    cases waits
    unfold Link.transact Patience.budget
    dsimp only
    rw [run]
    exact ⟨transport, rfl⟩
  obtain ⟨transport, turn⟩ := late
  rw [turn] at written ⊢
  exact ⟨rfl, rfl, rfl, rfl, written⟩

/-! ### Exchanges in time -/

inductive Calmed (link : Link) : Link → Prop where
  | intro {transport : Transport} : link.transport.Calmed transport →
      Calmed link { link with transport }

structure CalmTurn {α : Type} (first second : Turn α) : Prop where
  outcome : second.outcome = first.outcome
  link : first.link.Calmed second.link

variable {other : Link}

-- A transport without pauses is never cut off where one with pauses is not.
theorem InTime.transact (inTime : link.InTime request frame) (calmed : link.Calmed other) :
    CalmTurn (link.transact request frame .unbounded)
      (other.transact request frame .unbounded) := by
  obtain ⟨same⟩ := calmed
  have run := inTime.converse_eq
  have ends : (request.converse frame (some (link.transport.clock + link.limit.ticks))
      link.transport).1 ≠ .waiting := run ▸ inTime.ends
  rename_i transport
  obtain ⟨ending, after⟩ := Transport.built_calming (request.converse_built frame) same ends
    (some (transport.clock + link.limit.ticks))
  unfold Link.transact Patience.budget
  dsimp only
  rcases first : request.converse frame (some (link.transport.clock + link.limit.ticks))
    link.transport with ⟨one, middle⟩
  rcases second : request.converse frame (some (transport.clock + link.limit.ticks))
    transport with ⟨two, last⟩
  rw [first] at ends
  rw [first, second] at ending after
  obtain rfl : two = one := ending
  cases two with
  | done answer => exact ⟨rfl, ⟨after⟩⟩
  | failed fault => exact ⟨rfl, ⟨after⟩⟩
  | waiting => exact absurd rfl ends

structure Begins (link : Link) (request : Request) (frame : List UInt8) : Prop where
  ready : link.phase = .ready
  held : link.custody = .held
  framed : request.frameFor link.selection = .ok frame

/-- If the call begins an exchange, then this is in time. -/
def Punctual (link : Link) : Call → Prop
  | .exchange request => ∀ frame, link.Begins request frame → link.InTime request frame
  | .close | .setLimit _ => True

theorem Calmed.turn {α : Type} (calmed : link.Calmed other) (outcome : Outcome α) :
    CalmTurn (.still outcome link) (.still outcome other) := ⟨rfl, calmed⟩

theorem Calmed.start (calmed : link.Calmed other)
    (punctual : ∀ frame, link.custody = .held → request.frameFor link.selection = .ok frame →
      link.InTime request frame) :
    CalmTurn (link.start request .unbounded) (other.start request .unbounded) := by
  have same := calmed
  obtain ⟨-⟩ := same
  unfold Link.start
  dsimp only
  cases framed : request.frameFor link.selection with
  | error fault => exact calmed.turn _
  | ok frame =>
    dsimp only
    by_cases held : link.custody = .held
    · rw [if_pos held, if_pos held]
      exact (punctual frame held framed).transact calmed
    · rw [if_neg held, if_neg held]
      exact calmed.turn _

theorem Calmed.exchange (calmed : link.Calmed other)
    (punctual : link.Punctual (.exchange request)) :
    CalmTurn (link.exchange request .unbounded) (other.exchange request .unbounded) := by
  have same : other.phase = link.phase := by
    obtain ⟨-⟩ := calmed
    rfl
  rw [exchange_eq _ _ (by simp), exchange_eq _ _ (by simp), same]
  cases phase : link.phase with
  | ready => exact calmed.start fun frame held framed => punctual frame ⟨phase, held, framed⟩
  | handshaking | inFlight =>
    obtain ⟨transports⟩ := calmed
    exact ⟨rfl, ⟨transports⟩⟩
  | disconnected | connecting | closed => exact calmed.turn _

theorem Calmed.close (calmed : link.Calmed other) :
    CalmTurn (link.close .unbounded) (other.close .unbounded) := by
  have same := calmed
  obtain ⟨transports⟩ := same
  rw [close_eq _ (by simp), close_eq _ (by simp)]
  dsimp only
  split
  · exact calmed.turn _
  split
  · obtain ⟨ending, after⟩ := Transport.shutdown_calming transports
    simp only [Patience.deadline]
    rcases first : Transport.shutdown none link.transport with ⟨one, middle⟩
    rename_i transport _ _
    rcases second : Transport.shutdown none transport with ⟨two, last⟩
    rw [first, second] at ending after
    obtain rfl : two = one := ending
    cases two <;> exact ⟨rfl, ⟨after⟩⟩
  · exact ⟨rfl, ⟨transports⟩⟩

theorem Calmed.run (calmed : link.Calmed other) {call : Call} (punctual : link.Punctual call) :
    CalmTurn (link.run call .unbounded) (other.run call .unbounded) := by
  cases call with
  | exchange request => exact calmed.exchange punctual
  | close => exact calmed.close
  | setLimit limit =>
    obtain ⟨transports⟩ := calmed
    exact ⟨rfl, ⟨transports⟩⟩

def AllPunctual (link : Link) : List Call → Prop
  | [] => True
  | call :: rest => link.Punctual call ∧ (link.run call .unbounded).link.AllPunctual rest

theorem Calmed.after (calmed : link.Calmed other) {calls : List Call}
    (punctual : link.AllPunctual calls) :
    (link.after (calls.map Call.awaited)).Calmed (other.after (calls.map Call.awaited)) := by
  induction calls generalizing link other with
  | nil => exact calmed
  | cons call rest ih => exact ih (calmed.run punctual.1).link punctual.2

/-- What can be seen of two links, the time apart, is the same. -/
structure Resembles (first second : Link) : Prop where
  phase : second.phase = first.phase
  selection : second.selection = first.selection
  limit : second.limit = first.limit
  custody : second.custody = first.custody
  written : second.transport.written = first.transport.written

theorem Calmed.resembles (calmed : link.Calmed other) : link.Resembles other := by
  obtain ⟨now, rfl⟩ := calmed
  exact ⟨rfl, rfl, rfl, rfl, rfl⟩

theorem Calmed.discard (calmed : link.Calmed other) : link.discard.Calmed other.discard := by
  obtain ⟨transports⟩ := calmed
  exact ⟨transports⟩

-- An opening keeps its link only if it is answered.
theorem CalmTurn.orDiscard {first second : Turn Unit} (calm : CalmTurn first second) :
    CalmTurn
      (match first.outcome with
        | .answered _ => first
        | _ => { first with link := first.link.discard })
      (match second.outcome with
        | .answered _ => second
        | _ => { second with link := second.link.discard }) := by
  rw [calm.outcome]
  split
  · exact calm
  · exact ⟨rfl, calm.link.discard⟩

end Link

/-! ### Openings -/

namespace Opening

variable {opening : Opening}

def calm (opening : Opening) : Opening := { opening with transport := opening.transport.calm }

structure Punctual (opening : Opening) (calls : List Call) : Prop where
  first : ∀ frame, opening.request.frame = .ok frame →
    opening.fresh.InTime opening.request frame
  others : opening.turn.link.AllPunctual calls

-- What an opening asks for carries no vector.
theorem frameFor_request (opening : Opening) (selection : Selection) :
    opening.request.frameFor selection = opening.request.frame := by
  rw [Request.frameFor_eq]
  rfl

theorem calm_turn (stays : opening.patience = .unbounded)
    (punctual : ∀ frame, opening.request.frame = .ok frame →
      opening.fresh.InTime opening.request frame) :
    Link.CalmTurn opening.turn opening.calm.turn := by
  have calmed : opening.fresh.Calmed opening.calm.fresh := ⟨opening.transport.clock, rfl⟩
  have polled : opening.patience ≠ .never := by simp [stays]
  have polled' : opening.calm.patience ≠ .never := polled
  have stays' : opening.calm.patience = .unbounded := stays
  rw [turn_eq _ polled, turn_eq _ polled', stays, stays']
  refine Link.CalmTurn.orDiscard (calmed.start fun frame _ framed => punctual frame ?_)
  rwa [frameFor_request] at framed

theorem timedOut_turn (stays : opening.patience = .unbounded) {frame : List UInt8}
    (framed : opening.request.frame = .ok frame)
    (overdue : opening.fresh.Overdue opening.request frame) :
    opening.fresh.TimedOut frame opening.turn := by
  have polled : opening.patience ≠ .never := by simp [stays]
  have begun : opening.fresh.start opening.request .unbounded =
      opening.fresh.transact opening.request frame .unbounded := by
    rw [Link.start, opening.frameFor_request, framed]
    rfl
  obtain ⟨outcome, closed, dropped, selection, written⟩ := overdue.transact
  rw [opening.turn_eq polled, stays, begun]
  dsimp only
  rw [outcome]
  exact ⟨rfl, rfl, rfl, selection, written⟩

/-- One time budget for each exchange, and delays within it show in nothing but the time. Take any
opening and any calls whose callers stay, limits being set between them.

As long as the waits of each exchange sum to less than the limit in force when it began, the
opening, every call, and what is seen of the link between calls are the same as on the transport
without its pauses. An exchange whose waits would exceed its limit, or that comes upon a hang, fails
with a timeout of exactly that limit. It leaves the link closed, the transport dropped, the
selection as it was, and on the wire a beginning of its own frame. -/
theorem one_budget (opening : Opening) (stays : opening.patience = .unbounded) (calls : List Call) :
    (opening.Punctual calls →
      opening.calm.turn.outcome = opening.turn.outcome ∧
      (opening.after (calls.map Call.awaited)).Resembles
        (opening.calm.after (calls.map Call.awaited)) ∧
      ∀ call, (opening.after (calls.map Call.awaited)).Punctual call →
        ((opening.calm.after (calls.map Call.awaited)).run call .unbounded).outcome =
          ((opening.after (calls.map Call.awaited)).run call .unbounded).outcome) ∧
    (∀ frame, opening.request.frame = .ok frame →
      opening.fresh.Overdue opening.request frame → opening.fresh.TimedOut frame opening.turn) ∧
    ∀ request frame, (opening.after (calls.map Call.awaited)).Begins request frame →
      (opening.after (calls.map Call.awaited)).Overdue request frame →
      (opening.after (calls.map Call.awaited)).TimedOut frame
        ((opening.after (calls.map Call.awaited)).exchange request .unbounded) := by
  refine ⟨?_, fun frame => timedOut_turn stays, ?_⟩
  · rintro ⟨first, others⟩
    obtain ⟨outcome, link⟩ := calm_turn stays first
    have calmed := link.after others
    exact ⟨outcome, calmed.resembles, fun call punctual => (calmed.run punctual).outcome⟩
  · intro request frame begins overdue
    rw [Link.exchange_eq _ _ (by simp), begins.ready]
    dsimp only
    rw [Link.start, begins.framed]
    dsimp only
    rw [if_pos begins.held]
    exact overdue.transact

def leisurely : Opening :=
  { patience := .unbounded
    transport := { Transport.ofReads [.pause 7, .answer (.data [6]), .pause 4,
        .answer (.data [2, 0]), .pause 5, .answer (.data [0, 0, 5, 0, 0, 0]), .pause 3,
        .answer (.data [255, 255, 255, 255]), .pause 9, .answer (.data [49]), .hang] with
      writes := [.pause 2, .answer 3, .answer 100, .pause 6, .answer 100]
      flushes := [.pause 1, .answer (), .pause 1, .answer ()] }
    address := .standard, selection := ⟨"points", 2⟩, limit := .ofParts 0 11000000 }

def leisurelyCalls : List Call :=
  [.setLimit (.ofParts 0 20000000), .exchange (.searchMany [0, 0] 3),
    .setLimit (.ofParts 0 8000000)]

theorem leisurely_budget :
    leisurely.Punctual leisurelyCalls ∧
      (leisurely.calm.after (leisurelyCalls.map Call.awaited)).phase = .ready ∧
      (leisurely.after (leisurelyCalls.map Call.awaited)).Overdue (.delete 4) [3, 4, 0, 0, 0] ∧
      ((leisurely.after (leisurelyCalls.map Call.awaited)).exchange (.delete 4)
        .unbounded).outcome = .failed (.timeout (.ofParts 0 8000000)) := by
  have opened : ∀ frame, leisurely.request.frame = .ok frame →
      leisurely.fresh.InTime leisurely.request frame := by
    rintro frame ⟨⟩
    decide +kernel
  have punctual : leisurely.Punctual leisurelyCalls := by
    refine ⟨opened, trivial, ?_, trivial, trivial⟩
    rintro frame ⟨-, -, framed⟩
    obtain ⟨⟩ := Request.frame_of_frameFor framed
    decide +kernel
  have begins : (leisurely.after (leisurelyCalls.map Call.awaited)).Begins (.delete 4)
      [3, 4, 0, 0, 0] := by
    refine ⟨by decide +kernel, by decide +kernel, ?_⟩
    rw [Request.frameFor_eq]
    rfl
  have overdue : (leisurely.after (leisurelyCalls.map Call.awaited)).Overdue (.delete 4)
      [3, 4, 0, 0, 0] := by decide +kernel
  obtain ⟨inTime, -, late⟩ := one_budget leisurely rfl leisurelyCalls
  have ready : (leisurely.after (leisurelyCalls.map Call.awaited)).phase = .ready := by
    decide +kernel
  refine ⟨punctual, (inTime punctual).2.1.phase.trans ready, overdue, ?_⟩
  exact (late _ _ begins overdue).outcome

end Opening

end VectorLink
