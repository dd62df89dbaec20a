import VectorLink.Proofs.Link.Lifecycle

/-! What a close does whose caller may leave.

A close gives the transport up first, awaits its shutdown, and marks the phase last. If the caller
leaves while the shutdown waits, the phase is not marked: the link still says what it said before,
though its transport has gone. Nothing is read or written on it any more, and the next close that is
polled marks the phase. This is the only way in which phase and transport come apart.
-/

set_option autoImplicit false

namespace VectorLink

namespace Link

variable {link : Link}

/-- The caller of one of these calls, a close, has left during the shutdown. -/
def CutShort (link : Link) (calls : List (Call × Patience)) : Prop :=
  ∃ (before : List (Call × Patience)) (patience : Patience) (rest : List (Call × Patience)),
    calls = before ++ (.close, patience) :: rest ∧ patience ≠ .never ∧
      ((link.after before).close patience).outcome = .abandoned

theorem CutShort.cons {call : Call} {patience : Patience} {calls : List (Call × Patience)}
    (short : (link.run call patience).link.CutShort calls) :
    link.CutShort ((call, patience) :: calls) := by
  obtain ⟨before, other, rest, rfl, polled, left⟩ := short
  exact ⟨(call, patience) :: before, other, rest, rfl, polled, left⟩

theorem Whole.after (whole : link.Whole) (calls : List (Call × Patience)) :
    (link.after calls).Whole ∨ link.CutShort calls := by
  induction calls generalizing link with
  | nil => exact .inl whole
  | cons head rest ih =>
    obtain ⟨call, patience⟩ := head
    obtain ⟨trace, -, advance⟩ := link.run_advance call patience
    rcases whole.next advance with next | ⟨⟨rfl, polled⟩, held, waits⟩
    · rcases ih next with agree | short
      · exact .inl agree
      · exact .inr short.cons
    · have left := (link.close_abandoned_iff polled).mpr ⟨whole.held_iff.mp held, held, waits⟩
      exact .inr ⟨[], patience, rest, rfl, polled, left⟩

-- A closed link has given up its transport, however it came to be closed.
theorem Advance.lost_of_closed {later : Link} {call : Call} {patience : Patience} {trace : Trace}
    (advance : Advance link call patience trace later)
    (lost : link.phase = .closed → link.custody ≠ .held) (closed : later.phase = .closed) :
    later.custody ≠ .held := by
  cases advance with
  | idle limit => exact lost closed
  | settled => cases closed
  | abandoned => exact absurd closed (Request.busyPhase_busy _).ne_closed
  | broken => simp [discard]
  | shutDown => simp
  | cutShort => simp
  | emptied closes going gone => exact gone

theorem lost_of_closed (lost : link.phase = .closed → link.custody ≠ .held)
    (calls : List (Call × Patience)) (closed : (link.after calls).phase = .closed) :
    (link.after calls).custody ≠ .held := by
  induction calls generalizing link with
  | nil => exact lost closed
  | cons head rest ih =>
    obtain ⟨trace, -, advance⟩ := link.run_advance head.1 head.2
    exact ih (advance.lost_of_closed lost) closed

theorem exchange_of_custody (lost : link.custody ≠ .held) (request : Request) {patience : Patience}
    (polled : patience ≠ .never) : (link.exchange request patience).outcome.isFailed := by
  rw [link.exchange_eq request polled]
  cases link.phase with
  | ready =>
    dsimp only
    rw [start_of_custody lost]
    split <;> rfl
  | handshaking | inFlight | disconnected | connecting | closed => rfl

theorem close_of_custody (lost : link.custody ≠ .held) {patience : Patience}
    (polled : patience ≠ .never) : (link.close patience).link = { link with phase := .closed } := by
  rw [link.close_eq polled]
  by_cases closed : link.phase = .closed
  · rw [if_pos closed, ← closed]
    rfl
  · rw [if_neg closed, if_neg lost]
    rfl

structure ClosedBy (link : Link) (patience : Patience) : Prop where
  finished : (link.close patience).outcome = .answered () →
    (link.close patience).link.phase = .closed ∧ (link.close patience).link.custody ≠ .held
  /-- One that does not was waiting for the shutdown. The transport goes, and all else stays. -/
  cutShort : (link.close patience).outcome ≠ .answered () →
    (Transport.shutdown (patience.deadline link.transport.clock) link.transport).1 = .waiting ∧
      ∃ transport : Transport, Trace.Between [.shutDown] link.transport transport ∧
        (link.close patience).link = { link with transport, custody := .dropped }
  idempotent : link.phase = .closed → link.close patience = .still (.answered ()) link
  /-- Nothing is read, written or shut down behind a close, and every request fails. -/
  silent : ∀ calls : List (Call × Patience),
    Trace.Between [] (link.close patience).link.transport
        ((link.close patience).link.after calls).transport ∧
      ((link.close patience).link.after calls).custody ≠ .held ∧
      ∀ (request : Request) (other : Patience), other ≠ .never →
        (((link.close patience).link.after calls).exchange request other).outcome.isFailed
  again : ∀ other : Patience, other ≠ .never →
    ((link.close patience).link.close other).link =
      { (link.close patience).link with phase := .closed }

theorem closedBy (lost : link.phase = .closed → link.custody ≠ .held) {patience : Patience}
    (polled : patience ≠ .never) : link.ClosedBy patience := by
  have released : (link.close patience).link.custody ≠ .held := by
    have closing := link.close_cases patience
    generalize link.close patience = turn at closing
    cases closing with
    | unpolled never => exact absurd never polled
    | already _ closed => exact lost closed
    | empty _ _ gone => exact gone
    | shutDown | cutShort => simp
  constructor
  case finished =>
    intro finished
    refine ⟨?_, released⟩
    have closing := link.close_cases patience
    generalize link.close patience = turn at closing finished
    cases closing with
    | unpolled | cutShort => cases finished
    | already _ closed => exact closed
    | empty | shutDown => rfl
  case cutShort =>
    intro unfinished
    have waits := (link.close_abandoned_iff polled).mp
    have closing := link.close_cases patience
    generalize link.close patience = turn at closing unfinished waits
    cases closing with
    | unpolled never => exact absurd never polled
    | already | empty | shutDown => exact absurd rfl unfinished
    | cutShort _ going held between => exact ⟨(waits rfl).2.2, _, between, rfl⟩
  case idempotent =>
    intro closed
    rw [link.close_eq polled, if_pos closed]
  case silent =>
    intro calls
    obtain ⟨between, gone⟩ := transport_after_of_custody released calls
    exact ⟨between, gone, fun request other => exchange_of_custody gone request⟩
  case again => exact fun other => close_of_custody released

end Link

namespace Opening

/-- A close on any link that an opening and some calls have left, for every transport. When it is
finished, the link is closed. When its caller leaves during the shutdown, the transport goes and the
phase stays. So a link that is not closed may be without a transport, but only if a close of it was
cut short. -/
theorem close_releases (opening : Opening) (opened : opening.turn.outcome.isAnswered)
    (calls : List (Call × Patience)) (patience : Patience) (polled : patience ≠ .never) :
    (opening.after calls).ClosedBy patience ∧
      ((opening.after calls).custody ≠ .held → (opening.after calls).phase ≠ .closed →
        opening.turn.link.CutShort calls) := by
  obtain ⟨whole, held⟩ := whole_of_answered opened
  have lost : (opening.after calls).phase = .closed → (opening.after calls).custody ≠ .held :=
    Link.lost_of_closed (fun closed => absurd closed (whole.held_iff.mp held)) calls
  refine ⟨Link.closedBy lost polled, ?_⟩
  intro gone going
  rcases whole.after calls with agree | short
  · exact absurd (agree.held_iff.mpr going) gone
  · exact short

def lingering : Opening :=
  { patience := .unbounded
    transport := { Transport.ofReads [.answer (.data [0x31])] with shutdowns := [.hang] }
    address := .standard, selection := ⟨"alpha", 3⟩, limit := Link.standardLimit }

-- The caller of a close has left. The link is neither closed nor as it was: it says that it is
-- ready, its transport has gone, and a second close changes it once more.
example :
    lingering.turn.outcome.isAnswered ∧
      (lingering.turn.link.close (.upTo 10)).outcome = .abandoned ∧
      (lingering.turn.link.close (.upTo 10)).link.isReady ∧
      (lingering.turn.link.close (.upTo 10)).link.custody = .dropped ∧
      ((lingering.turn.link.close (.upTo 10)).link.close .unbounded).link ≠
        (lingering.turn.link.close (.upTo 10)).link := by
  decide +kernel

end Opening

end VectorLink
