import VectorLink.Proofs.Link.Dealings
import VectorLink.Proofs.Link.Step
import VectorLink.Proofs.Transport.Alike

/-! How a stream is cut into reads makes no difference.

Two links whose transports have the same stream before them go through the same calls in the same
way, for good streams and for broken ones: every caller gets the same answer or the same fault, with
the same counts, or is still waiting at the same moment.
-/

set_option autoImplicit false

namespace VectorLink

theorem Request.converse_uniform (request : Request) (frame : List UInt8) :
    (request.converse frame).Uniform :=
  (Transport.deliver_uniform frame).bind fun _ => Transport.reading_uniform request.reply_reading

/-! ### Links -/

inductive Link.Alike (link : Link) : Link → Prop where
  | intro {transport : Transport} : link.transport.Alike transport →
      Alike link { link with transport }

/-- What is seen of a link between calls: itself, and what its transport has accepted and when. -/
structure Standing where
  phase : Phase
  selection : Selection
  limit : Span
  custody : Custody
  written : List UInt8
  clock : Nat
  deriving DecidableEq, Repr

def Link.standing (link : Link) : Standing :=
  ⟨link.phase, link.selection, link.limit, link.custody, link.transport.written,
    link.transport.clock⟩

structure Turn.Agree {α : Type} (first second : Turn α) : Prop where
  outcome : first.outcome = second.outcome
  notes : first.notes = second.notes
  link : first.link.Alike second.link

namespace Link

variable {first second : Link}

theorem Alike.standing (alike : first.Alike second) : first.standing = second.standing := by
  obtain ⟨same⟩ := alike
  unfold Link.standing
  dsimp only
  rw [same.written, same.clock]

theorem Alike.turn {α : Type} (alike : first.Alike second) (outcome : Outcome α)
    (notes : List Note) : Turn.Agree ⟨outcome, first, notes⟩ ⟨outcome, second, notes⟩ :=
  ⟨rfl, rfl, alike⟩

theorem Alike.transact (alike : first.Alike second) (request : Request) (frame : List UInt8)
    (patience : Patience) :
    (first.transact request frame patience).Agree (second.transact request frame patience) := by
  obtain ⟨same⟩ := alike
  unfold Link.transact
  dsimp only
  rw [← same.clock]
  rcases run : request.converse frame
    (some (first.transport.clock + patience.budget first.limit.ticks)) first.transport with ⟨ending, after⟩
  obtain ⟨other, run', same'⟩ := (request.converse_uniform frame).of_run same run
  rw [run']
  cases ending with
  | done answer => exact ⟨rfl, rfl, ⟨same'⟩⟩
  | failed fault => exact ⟨rfl, rfl, ⟨same'⟩⟩
  | waiting =>
    dsimp only
    split
    · exact ⟨rfl, rfl, ⟨same'⟩⟩
    · exact ⟨rfl, rfl, ⟨same'⟩⟩

theorem Alike.start (alike : first.Alike second) (request : Request) (patience : Patience) :
    (first.start request patience).Agree (second.start request patience) := by
  have same := alike
  obtain ⟨-⟩ := same
  unfold Link.start
  dsimp only
  cases request.frameFor first.selection with
  | error fault => exact alike.turn _ _
  | ok frame =>
    dsimp only
    split
    · exact alike.transact request frame patience
    · exact alike.turn _ _

theorem Alike.exchange (alike : first.Alike second) (request : Request) (patience : Patience) :
    (first.exchange request patience).Agree (second.exchange request patience) := by
  by_cases polled : patience = .never
  · subst polled
    exact alike.turn _ _
  rw [exchange_eq _ _ polled, exchange_eq _ _ polled]
  have phase : second.phase = first.phase := by
    obtain ⟨-⟩ := alike
    rfl
  rw [phase]
  cases first.phase with
  | ready => exact alike.start request patience
  | handshaking | inFlight =>
    obtain ⟨same⟩ := alike
    exact ⟨rfl, rfl, ⟨same⟩⟩
  | disconnected | connecting | closed => exact alike.turn _ _

theorem Alike.close (alike : first.Alike second) (patience : Patience) :
    (first.close patience).Agree (second.close patience) := by
  have same := alike
  obtain ⟨same⟩ := same
  unfold Link.close
  split
  · exact alike.turn _ _
  dsimp only
  split
  · exact alike.turn _ _
  split
  · rw [← same.clock]
    rcases run : Transport.shutdown (patience.deadline first.transport.clock) first.transport with
      ⟨ending, after⟩
    obtain ⟨other, run', same'⟩ := Transport.shutdown_uniform.of_run same run
    rw [run']
    cases ending <;> exact ⟨rfl, rfl, ⟨same'⟩⟩
  · exact ⟨rfl, rfl, ⟨same⟩⟩

theorem Alike.run (alike : first.Alike second) (call : Call) (patience : Patience) :
    (first.run call patience).Agree (second.run call patience) := by
  cases call with
  | exchange request => exact alike.exchange request patience
  | close => exact alike.close patience
  | setLimit limit =>
    simp only [Link.run, setLimit]
    split
    · exact alike.turn _ _
    · obtain ⟨same⟩ := alike
      exact ⟨rfl, rfl, ⟨same⟩⟩

theorem Alike.after (alike : first.Alike second) (calls : List (Call × Patience)) :
    (first.after calls).Alike (second.after calls) := by
  induction calls generalizing first second with
  | nil => exact alike
  | cons head rest ih => exact ih (alike.run head.1 head.2).link

theorem Alike.discard (alike : first.Alike second) : first.discard.Alike second.discard := by
  obtain ⟨same⟩ := alike
  exact ⟨same⟩

end Link

-- An opening keeps its link only if it is answered.
theorem Turn.Agree.orDiscard {first second : Turn Unit} (agree : first.Agree second) :
    Turn.Agree
      (match first.outcome with
        | .answered _ => first
        | _ => { first with link := first.link.discard })
      (match second.outcome with
        | .answered _ => second
        | _ => { second with link := second.link.discard }) := by
  rw [← agree.outcome]
  split
  · exact agree
  · exact ⟨rfl, agree.notes, agree.link.discard⟩

/-! ### Openings -/

namespace Opening

def cut (opening : Opening) (reads : List (Event Delivery)) (chunk : Option Nat) : Opening :=
  { opening with transport := { opening.transport with reads, chunk } }

variable {opening : Opening} {reads : List (Event Delivery)}

theorem fresh_alike (same : Event.condense reads = Event.condense opening.transport.reads)
    (chunk : Option Nat) : opening.fresh.Alike (opening.cut reads chunk).fresh := by
  have flow : Flow.ofScript opening.transport.reads = Flow.ofScript reads := by
    rw [← Flow.ofScript_condense, ← same, Flow.ofScript_condense]
  exact ⟨⟨flow, rfl, rfl, rfl, rfl, rfl⟩⟩

theorem turn_agree (same : Event.condense reads = Event.condense opening.transport.reads)
    (chunk : Option Nat) : opening.turn.Agree (opening.cut reads chunk).turn := by
  have alike := fresh_alike same chunk
  by_cases polled : opening.patience = .never
  · have polled' : (opening.cut reads chunk).patience = .never := polled
    rw [turn_never _ polled, turn_never _ polled']
    exact alike.discard.turn _ _
  have polled' : (opening.cut reads chunk).patience ≠ .never := polled
  rw [turn_eq _ polled, turn_eq _ polled']
  exact (alike.start opening.request opening.patience).orDiscard

/-- How the stream is cut into reads is unobservable. Take any opening and any calls, each with the
patience of its caller, and the same opening on a transport whose script of reads is the same once
adjacent data is merged and empty data and interrupted reads are left out. The opening comes out the
same; after the calls both links are in the same phase with the same select, and their transports
have accepted the same bytes at the same time; and whatever is called then ends in the same
outcome and with the same notes. -/
theorem cut_unobservable (opening : Opening) (reads : List (Event Delivery)) (chunk : Option Nat)
    (same : Event.condense reads = Event.condense opening.transport.reads)
    (calls : List (Call × Patience)) :
    (opening.cut reads chunk).turn.outcome = opening.turn.outcome ∧
      ((opening.cut reads chunk).after calls).standing = (opening.after calls).standing ∧
      ∀ (call : Call) (patience : Patience),
        (((opening.cut reads chunk).after calls).run call patience).outcome =
            ((opening.after calls).run call patience).outcome ∧
          (((opening.cut reads chunk).after calls).run call patience).notes =
            ((opening.after calls).run call patience).notes := by
  have agree := turn_agree same chunk
  have alike : (opening.after calls).Alike ((opening.cut reads chunk).after calls) :=
    agree.link.after calls
  refine ⟨agree.outcome.symm, alike.standing.symm, ?_⟩
  intro call patience
  have next := alike.run call patience
  exact ⟨next.outcome.symm, next.notes.symm⟩

def brokenOff : Opening :=
  { patience := .unbounded
    transport := .ofReads [.answer (.data [0, 7, 0, 0]), .answer .endOfStream]
    address := .standard, selection := ⟨"points", 2⟩, limit := Link.standardLimit }

def brokenPieces : List (Event Delivery) :=
  [.answer (.data [0, 7]), .failure ⟨.interrupted, "interrupted"⟩, .answer (.data []),
    .answer (.data [0, 0]), .answer .endOfStream]

theorem broken_search_cut_unobservable :
    Event.condense brokenPieces = Event.condense brokenOff.transport.reads ∧
      (((brokenOff.cut brokenPieces (some 1)).after []).run (.exchange (.search [0, 0]))
        (.upTo 5)).outcome = .failed (.peerClosed 4 3) := by
  have same : Event.condense brokenPieces = Event.condense brokenOff.transport.reads := by rfl
  have whole : (show Outcome Int32 from
      (brokenOff.turn.link.exchange (.search [0, 0]) (.upTo 5)).outcome) =
        .failed (.peerClosed 4 3) := by decide +kernel
  have search := (cut_unobservable brokenOff brokenPieces (some 1) same []).2.2
    (.exchange (.search [0, 0])) (.upTo 5)
  exact ⟨same, search.1.trans whole⟩

end Opening

end VectorLink
