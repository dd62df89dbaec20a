import VectorLink.Proofs.Link.Cancellation
import VectorLink.Proofs.Link.Classification
import VectorLink.Proofs.Link.Dealings

/-! How one call moves a link through its life.

`Step` tells what a call does to the wire. `Advance` tells what it does to the three things that a
link keeps of its own, the phase, the transport and the selection, which are set one after another
and so can be found apart by the next caller. A run is a sequence of advances.
-/

set_option autoImplicit false

namespace VectorLink

def Outcome.isFailed {α : Type} : Outcome α → Bool
  | failed _ => true
  | answered _ | abandoned => false

/-- A call that leaves the phase alone whatever it is: one that is dropped before it is polled, or
one that only sets the time limit. -/
def Passive (call : Call) (patience : Patience) : Prop :=
  patience = .never ∨ ∃ limit : Span, call = .setLimit limit

namespace Link

def Closes (call : Call) (patience : Patience) : Prop := call = .close ∧ patience ≠ .never

/-- A request fails, and not for its own sake: its exchange had begun, or it has found another one
abandoned. -/
def Breaks (link : Link) (call : Call) (patience : Patience) : Prop :=
  (link.run call patience).outcome.isFailed ∧
    ((link.passage? call patience).isSome ∨ link.phase.Busy)

theorem not_closes_of_exchange {call : Call} {request : Request} {patience : Patience}
    (called : call = .exchange request) : ¬ Closes call patience := by
  rintro ⟨rfl, -⟩
  cases called

theorem Breaks.exchange {link : Link} {call : Call} {patience : Patience}
    (breaks : link.Breaks call patience) : ∃ request : Request, call = .exchange request := by
  obtain ⟨failed, -⟩ := breaks
  cases call with
  | exchange request => exact ⟨request, rfl⟩
  | close =>
    have closing := link.close_cases patience
    simp only [run] at failed
    generalize link.close patience = turn at closing failed
    cases closing <;> cases failed
  | setLimit limit => cases patience <;> cases failed

theorem Breaks.not_closes {link : Link} {call : Call} {patience : Patience}
    (breaks : link.Breaks call patience) : ¬ Closes call patience := by
  obtain ⟨request, called⟩ := breaks.exchange
  exact not_closes_of_exchange called

theorem close_abandoned_iff (link : Link) {patience : Patience} (polled : patience ≠ .never) :
    (link.close patience).outcome = .abandoned ↔
      link.phase ≠ .closed ∧ link.custody = .held ∧
        (Transport.shutdown (patience.deadline link.transport.clock) link.transport).1 =
          .waiting := by
  rw [link.close_eq polled]
  by_cases closed : link.phase = .closed
  · simp [closed, Turn.still]
  by_cases held : link.custody = .held
  · rw [if_neg closed, if_pos held]
    rcases Transport.shutdown (patience.deadline link.transport.clock) link.transport with
      ⟨ending, transport⟩
    cases ending <;> simp [released, closed, held]
  · simp [closed, held, Turn.still]

/-- What a call makes of a link, and its acts. -/
inductive Advance (link : Link) (call : Call) (patience : Patience) : Trace → Link → Prop where
  | idle (limit : Span) : (link.phase.Busy → Passive call patience) →
      ¬ link.Breaks call patience → (Closes call patience → link.phase = .closed) →
      Advance link call patience [] { link with limit }
  | settled {request : Request} {trace : Trace} {transport : Transport} {selection : Selection} :
      call = .exchange request → ¬ link.Breaks call patience →
      link.phase = .ready → link.custody = .held →
      Act.shutDown ∉ trace → transport.shutdowns = link.transport.shutdowns →
      Advance link call patience trace { link with transport, phase := .ready, selection }
  | abandoned {request : Request} {trace : Trace} {transport : Transport} :
      call = .exchange request → ¬ link.Breaks call patience → patience ≠ .never →
      (link.exchange request patience).outcome = .abandoned →
      link.phase = .ready → link.custody = .held →
      Act.shutDown ∉ trace → transport.shutdowns = link.transport.shutdowns →
      Advance link call patience trace { link with transport, phase := request.busyPhase }
  | broken {trace : Trace} {transport : Transport} : link.Breaks call patience →
      link.phase ≠ .closed → Act.shutDown ∉ trace →
      Advance link call patience trace { link with transport }.discard
  | shutDown {transport : Transport} : Closes call patience → link.phase ≠ .closed →
      link.custody = .held →
      Advance link call patience [.shutDown]
        { link with transport, phase := .closed, custody := .shutDown }
  | cutShort {transport : Transport} : Closes call patience → link.phase ≠ .closed →
      link.custody = .held →
      (Transport.shutdown (patience.deadline link.transport.clock) link.transport).1 = .waiting →
      Advance link call patience [.shutDown] { link with transport, custody := .dropped }
  /-- A close finds no transport on a link that still runs. -/
  | emptied : Closes call patience → link.phase ≠ .closed → link.custody ≠ .held →
      Advance link call patience [] { link with phase := .closed }

theorem exchange_advance (link : Link) (request : Request) (patience : Patience) :
    ∃ trace : Trace,
      trace.Between link.transport (link.exchange request patience).link.transport ∧
        Advance link (.exchange request) patience trace (link.exchange request patience).link := by
  have noClose : ¬ Closes (.exchange request) patience := not_closes_of_exchange rfl
  have exchanged := link.exchange_cases request patience
  have breaks_iff : link.Breaks (.exchange request) patience ↔
      (link.exchange request patience).outcome.isFailed ∧
        ((link.passage? (.exchange request) patience).isSome ∨ link.phase.Busy) := Iff.rfl
  -- a request that fails without having begun has found no exchange abandoned
  have idle (unbegun : link.passage? (.exchange request) patience = none)
      (still : ¬ link.phase.Busy) : Advance link (.exchange request) patience [] link := by
    refine .idle link.limit (fun busy => absurd busy still) ?_ (fun closes => absurd closes noClose)
    rintro ⟨-, begun | busy⟩
    · rw [unbegun] at begun
      cases begun
    · exact still busy
  generalize link.passage? (.exchange request) patience = passage at exchanged breaks_iff idle
  generalize called : link.exchange request patience = turn at exchanged breaks_iff ⊢
  cases exchanged with
  | unpolled never =>
    have unbroken : ¬ link.Breaks (.exchange request) patience := by
      simp [breaks_iff, Outcome.isFailed, Turn.still]
    exact ⟨[], rfl,
      .idle link.limit (fun _ => .inl never) unbroken fun closes => absurd closes noClose⟩
  | refused polled ready callers =>
    exact ⟨[], rfl, idle rfl fun busy => absurd ready busy.ne_ready⟩
  | closed polled ended =>
    refine ⟨[], rfl, idle rfl ?_⟩
    rintro (busy | busy) <;> simp [busy] at ended
  | desynchronized polled busy =>
    have going : link.phase ≠ .closed := Phase.Busy.ne_closed busy
    exact ⟨[], rfl, .broken (breaks_iff.mpr ⟨rfl, .inr busy⟩) going (by simp)⟩
  | @begun frame polled ready held framed =>
    obtain ⟨transacted, trace, between, course⟩ := link.transact_cases request frame patience
    have shutdowns := link.shutdowns_transact request frame patience
    refine ⟨trace, between, ?_⟩
    generalize link.transact request frame patience = turn
      at called transacted shutdowns breaks_iff ⊢
    cases transacted with
    | answered settled =>
      have unbroken : ¬ link.Breaks (.exchange request) patience := by
        simp [breaks_iff, Outcome.isFailed]
      exact .settled rfl unbroken ready held course.no_shutDown shutdowns
    | failed short costs =>
      exact .broken (breaks_iff.mpr ⟨rfl, .inl rfl⟩) (by simp [ready]) course.no_shutDown
    | abandoned short left =>
      have unbroken : ¬ link.Breaks (.exchange request) patience := by
        simp [breaks_iff, Outcome.isFailed]
      exact .abandoned rfl unbroken polled (congrArg Turn.outcome called) ready held
        course.no_shutDown shutdowns

theorem close_advance (link : Link) (patience : Patience) :
    ∃ trace : Trace, trace.Between link.transport (link.close patience).link.transport ∧
      Advance link .close patience trace (link.close patience).link := by
  have whole : ¬ link.Breaks .close patience := by
    intro breaks
    obtain ⟨request, ⟨⟩⟩ := breaks.exchange
  have closing := link.close_cases patience
  generalize called : link.close patience = turn at closing ⊢
  cases closing with
  | unpolled never =>
    refine ⟨[], rfl, .idle link.limit (fun _ => .inl never) whole ?_⟩
    intro closes
    exact absurd never closes.2
  | already polled closed =>
    refine ⟨[], rfl, .idle link.limit ?_ whole fun _ => closed⟩
    intro busy
    exact absurd closed busy.ne_closed
  | empty polled going lost => exact ⟨[], rfl, .emptied ⟨rfl, polled⟩ going lost⟩
  | shutDown polled going held between => exact ⟨_, between, .shutDown ⟨rfl, polled⟩ going held⟩
  | cutShort polled going held between =>
    have left : (link.close patience).outcome = .abandoned := congrArg Turn.outcome called
    exact ⟨_, between,
      .cutShort ⟨rfl, polled⟩ going held ((link.close_abandoned_iff polled).mp left).2.2⟩

theorem setLimit_advance (link : Link) (limit : Span) (patience : Patience) :
    Advance link (.setLimit limit) patience [] (link.setLimit limit patience).link := by
  have passive : Passive (.setLimit limit) patience := .inr ⟨limit, rfl⟩
  have whole : ¬ link.Breaks (.setLimit limit) patience := by
    intro breaks
    obtain ⟨request, ⟨⟩⟩ := breaks.exchange
  have noClose : Closes (.setLimit limit) patience → link.phase = .closed := by
    rintro ⟨⟨⟩, -⟩
  unfold setLimit
  split
  · exact .idle link.limit (fun _ => passive) whole noClose
  · exact .idle limit (fun _ => passive) whole noClose

theorem run_advance (link : Link) (call : Call) (patience : Patience) :
    ∃ trace : Trace, trace.Between link.transport (link.run call patience).link.transport ∧
      Advance link call patience trace (link.run call patience).link := by
  cases call with
  | exchange request => exact link.exchange_advance request patience
  | close => exact link.close_advance patience
  | setLimit limit =>
    refine ⟨[], ?_, link.setLimit_advance limit patience⟩
    cases patience <;> rfl

end Link

end VectorLink
