import VectorLink.Proofs.Link.Step

/-! What follows on a request that its caller has walked away from.

The phase was marked before the first byte went out, so the link still says that a reply is owed.
Every later request looks at the phase first. None of them reads or writes, whatever the transport
has to offer by then: the first one ends the link, and those behind it find it closed.
-/

set_option autoImplicit false

namespace VectorLink

/-- A reply may be outstanding. -/
def Phase.Busy (phase : Phase) : Prop := phase = .handshaking ∨ phase = .inFlight

theorem Request.busyPhase_busy (request : Request) : request.busyPhase.Busy := by
  cases request with
  | select database dimension => exact .inl rfl
  | _ => exact .inr rfl

theorem Phase.Busy.ne_ready {phase : Phase} (busy : phase.Busy) : phase ≠ .ready := by
  rcases busy with rfl | rfl <;> decide

theorem Phase.Busy.ne_closed {phase : Phase} (busy : phase.Busy) : phase ≠ .closed := by
  rcases busy with rfl | rfl <;> decide

namespace Link

/-! ### The phase of a link that was abandoned -/

/-- Whether a call brings the link to its end: a request that is polled does, and a close that its
caller waits for. -/
def concludes (link : Link) : Call → Patience → Bool
  | .exchange _, patience => patience ≠ .never
  | .close, patience => (link.close patience).outcome.isAnswered
  | .setLimit _, _ => false

def concluded (link : Link) : List (Call × Patience) → Bool
  | [] => false
  | (call, patience) :: rest =>
    link.concludes call patience || (link.run call patience).link.concluded rest

theorem exchange_of_busy {link : Link} (busy : link.phase.Busy) (request : Request)
    {patience : Patience} (polled : patience ≠ .never) :
    link.exchange request patience = link.desynchronize := by
  rw [link.exchange_eq request polled]
  rcases busy with busy | busy <;> rw [busy]

theorem exchange_of_closed {link : Link} (closed : link.phase = .closed) (request : Request)
    {patience : Patience} (polled : patience ≠ .never) :
    link.exchange request patience = .still (.failed .linkClosed) link := by
  rw [link.exchange_eq request polled, closed]

theorem run_never (link : Link) (call : Call) : (link.run call .never).link = link := by
  cases call <;> rfl

theorem run_of_closed {link : Link} (closed : link.phase = .closed) (call : Call)
    (patience : Patience) : (link.run call patience).link.phase = .closed := by
  cases call with
  | exchange request =>
    by_cases polled : patience = .never
    · rw [polled, run_never, closed]
    · simp only [run, exchange_of_closed closed request polled]
      exact closed
  | close =>
    have closing := link.close_cases patience
    simp only [run]
    generalize link.close patience = turn at closing ⊢
    cases closing with
    | unpolled | already => exact closed
    | empty | shutDown => rfl
    | cutShort polled going => exact absurd closed going
  | setLimit limit =>
    simp only [run, setLimit]
    split <;> exact closed

theorem after_of_closed {link : Link} (closed : link.phase = .closed)
    (calls : List (Call × Patience)) : (link.after calls).phase = .closed := by
  induction calls generalizing link with
  | nil => exact closed
  | cons head rest ih => exact ih (run_of_closed closed head.1 head.2)

theorem run_of_busy {link : Link} (busy : link.phase.Busy) (call : Call) (patience : Patience) :
    (link.run call patience).link.phase =
      if link.concludes call patience then .closed else link.phase := by
  cases call with
  | exchange request =>
    by_cases polled : patience = .never
    · rw [polled, run_never]
      rfl
    · show (link.exchange request patience).link.phase = _
      rw [exchange_of_busy busy request polled, concludes, decide_eq_true polled]
      rfl
  | close =>
    have closing := link.close_cases patience
    show (link.close patience).link.phase =
      if (link.close patience).outcome.isAnswered then .closed else link.phase
    generalize link.close patience = turn at closing ⊢
    cases closing with
    | already polled closed => exact absurd closed busy.ne_closed
    | unpolled | empty | shutDown | cutShort => rfl
  | setLimit limit =>
    simp only [run, setLimit]
    split <;> rfl

theorem after_of_busy {link : Link} (busy : link.phase.Busy) (calls : List (Call × Patience)) :
    (link.after calls).phase = if link.concluded calls then .closed else link.phase := by
  induction calls generalizing link with
  | nil => rfl
  | cons head rest ih =>
    obtain ⟨call, patience⟩ := head
    have next := run_of_busy busy call patience
    rw [after, concluded]
    by_cases ends : link.concludes call patience
    · -- from here on the link is closed, whatever else is called
      rw [if_pos ends] at next
      rw [ends, Bool.true_or, after_of_closed next]
      rfl
    · rw [if_neg ends] at next
      rw [Bool.eq_false_iff.mpr ends, Bool.false_or, ih (next ▸ busy), next]

/-! ### What the transport would deliver makes no difference -/

end Link

def Transport.delivering (reads : List (Event Delivery)) (transport : Transport) : Transport :=
  { transport with reads }

theorem Transport.shutdown_delivering (reads : List (Event Delivery)) (deadline : Deadline)
    (transport : Transport) :
    shutdown deadline (transport.delivering reads) =
      ((shutdown deadline transport).1, (shutdown deadline transport).2.delivering reads) := by
  unfold shutdown delivering
  dsimp only
  split <;> rfl

def Link.delivering (reads : List (Event Delivery)) (link : Link) : Link :=
  { link with transport := link.transport.delivering reads }

def Turn.delivering {α : Type} (reads : List (Event Delivery)) (turn : Turn α) : Turn α :=
  { turn with link := turn.link.delivering reads }

namespace Link

theorem start_of_custody {link : Link} (lost : link.custody ≠ .held) (request : Request)
    (patience : Patience) :
    link.start request patience =
      match request.frameFor link.selection with
      | .error fault => .still (.failed fault) link
      | .ok _ => .still (.failed .linkClosed) link := by
  unfold start
  cases request.frameFor link.selection with
  | error fault => rfl
  | ok frame => exact if_neg lost

theorem Mute.exchange_delivering {link : Link} (mute : link.Mute) (reads : List (Event Delivery))
    (request : Request) (patience : Patience) :
    (link.delivering reads).exchange request patience =
      (link.exchange request patience).delivering reads := by
  by_cases polled : patience = .never
  · rw [polled]
    rfl
  rw [exchange_eq _ _ polled, exchange_eq _ _ polled]
  have same : (link.delivering reads).phase = link.phase := rfl
  rw [same]
  cases phase : link.phase with
  | ready =>
    -- the link says that it is ready, but its transport was lost to a close that was cut short
    have lost := mute phase
    have alike : (link.delivering reads).custody ≠ .held := lost
    simp only [start_of_custody lost, start_of_custody alike]
    show (match request.frameFor link.selection with
      | .error fault => _
      | .ok _ => _) = _
    split <;> rfl
  | handshaking | inFlight | disconnected | connecting | closed => rfl

theorem released_delivering (link : Link) (reads : List (Event Delivery))
    (ending : Ending IoFault Unit) (transport : Transport) :
    (link.delivering reads).released (ending, transport.delivering reads) =
      (link.released (ending, transport)).delivering reads := by
  cases ending <;> rfl

theorem close_delivering (link : Link) (reads : List (Event Delivery)) (patience : Patience) :
    (link.delivering reads).close patience = (link.close patience).delivering reads := by
  unfold close
  split
  · rfl
  by_cases closed : link.phase.isTerminal
  · have alike : (link.delivering reads).phase.isTerminal := closed
    rw [if_pos closed, if_pos alike]
    rfl
  have alike : ¬ (link.delivering reads).phase.isTerminal := closed
  rw [if_neg closed, if_neg alike]
  by_cases held : link.custody = .held
  · have alike : (link.delivering reads).custody = .held := held
    have through := Transport.shutdown_delivering reads
      (patience.deadline link.transport.clock) link.transport
    rw [if_pos held, if_pos alike]
    exact (congrArg (link.delivering reads).released through).trans
      (link.released_delivering reads _ _)
  · have alike : (link.delivering reads).custody ≠ .held := held
    rw [if_neg held, if_neg alike]
    rfl

theorem Mute.run_delivering {link : Link} (mute : link.Mute) (reads : List (Event Delivery))
    (call : Call) (patience : Patience) :
    (link.delivering reads).run call patience = (link.run call patience).delivering reads := by
  cases call with
  | exchange request => exact mute.exchange_delivering reads request patience
  | close => exact link.close_delivering reads patience
  | setLimit limit => cases patience <;> rfl

theorem Mute.after_delivering {link : Link} (mute : link.Mute) (reads : List (Event Delivery))
    (calls : List (Call × Patience)) :
    (link.delivering reads).after calls = (link.after calls).delivering reads := by
  induction calls generalizing link with
  | nil => rfl
  | cons head rest ih =>
    obtain ⟨call, patience⟩ := head
    obtain ⟨trace, -, step⟩ := mute.run_step call patience
    rw [after, mute.run_delivering]
    exact ih (mute.next step)

/-! ### Runs behind an abandoned request -/

/-- What calls are in for on a link on which a request was abandoned. -/
structure Forsaken (link : Link) (calls : List (Call × Patience)) : Prop where
  /-- Nothing is read or written; at most the transport is shut down. -/
  silent : ∃ trace : Trace, trace.Between link.transport (link.after calls).transport ∧
    (trace = [] ∨ trace = [.shutDown])
  selection : (link.after calls).selection = link.selection
  phase : (link.after calls).phase = if link.concluded calls then .closed else link.phase
  request : ∀ (request : Request) (patience : Patience), patience ≠ .never →
    ((link.after calls).exchange request patience).outcome =
        .failed (if link.concluded calls then .linkClosed else .desynchronized) ∧
      ((link.after calls).exchange request patience).link =
        if link.concluded calls then link.after calls else (link.after calls).discard
  close : ∀ patience : Patience, (link.after calls).phase ≠ .closed →
    (link.after calls).custody = .held →
      ((link.after calls).close patience).outcome.isAnswered →
        ((link.after calls).close patience).link.custody = .shutDown
  /-- The call that follows ends in one way, whatever the transport has to deliver. -/
  indifferent : ∀ (reads : List (Event Delivery)) (call : Call) (patience : Patience),
    (((link.delivering reads).after calls).run call patience).outcome =
      ((link.after calls).run call patience).outcome

theorem custody_of_close {link : Link} {patience : Patience} (going : link.phase ≠ .closed)
    (held : link.custody = .held) (answered : (link.close patience).outcome.isAnswered) :
    (link.close patience).link.custody = .shutDown := by
  have closing := link.close_cases patience
  generalize link.close patience = turn at closing answered ⊢
  cases closing with
  | unpolled | cutShort => cases answered
  | already polled closed => exact absurd closed going
  | empty polled _ lost => exact absurd held lost
  | shutDown => rfl

theorem forsaken_of_busy {link : Link} (busy : link.phase.Busy) (calls : List (Call × Patience)) :
    link.Forsaken calls := by
  have mute : link.Mute := mute_of_phase busy.ne_ready
  have phase := after_of_busy busy calls
  refine ⟨mute.trace calls, mute.selection_after calls, phase, ?_, ?_, ?_⟩
  · intro request patience polled
    by_cases concluded : link.concluded calls
    · rw [if_pos concluded] at phase
      rw [exchange_of_closed phase request polled, if_pos concluded, if_pos concluded]
      exact ⟨rfl, rfl⟩
    · rw [if_neg concluded] at phase
      rw [exchange_of_busy (phase ▸ busy) request polled, if_neg concluded, if_neg concluded]
      exact ⟨rfl, rfl⟩
  · intro patience going held answered
    exact custody_of_close going held answered
  · intro reads call patience
    have still := (mute.after_keeps (P := fun _ => True) trivial (fun _ _ => trivial) calls).1
    rw [mute.after_delivering, still.run_delivering]
    rfl

/-- A request that its caller walks away from. If it was never polled, nothing has changed. If it
was, the link keeps its transport and its selection and says that a reply is owed. From then on no
call reads or writes, on whatever transport the link then finds: the first request that is polled
fails and ends the link, and all that follow it, or a close, find it closed. -/
theorem abandoned_request_is_final (link : Link) (request : Request) (patience : Patience)
    (abandoned : (link.exchange request patience).outcome = .abandoned) :
    (patience = .never → (link.exchange request patience).link = link) ∧
      (patience ≠ .never →
        (link.exchange request patience).link.phase = request.busyPhase ∧
          (link.exchange request patience).link.selection = link.selection ∧
          (link.exchange request patience).link.custody = .held ∧
          ∀ (late : Transport) (calls : List (Call × Patience)),
            Forsaken { (link.exchange request patience).link with transport := late } calls) := by
  constructor
  · rintro rfl
    exact link.run_never (.exchange request)
  intro polled
  have exchanged := link.exchange_cases request patience
  generalize link.passage? (.exchange request) patience = passage,
    link.exchange request patience = turn at exchanged abandoned ⊢
  cases exchanged with
  | unpolled never => exact absurd never polled
  | refused | desynchronized | closed => cases abandoned
  | @begun frame _ ready held framed =>
    have transacted := (link.transact_cases request frame patience).1
    generalize link.transact request frame patience = turn at transacted abandoned ⊢
    cases transacted with
    | answered | failed => cases abandoned
    | abandoned short left =>
      exact ⟨rfl, rfl, held, fun late calls => forsaken_of_busy request.busyPhase_busy calls⟩

def unanswered : Link :=
  { address := ⟨"localhost", 7777⟩, selection := ⟨"points", 2⟩, phase := .ready
    limit := standardLimit, transport := .ofReads [.hang], custody := .held }

-- The frame of a deletion goes out, and its caller leaves before the status byte comes.
theorem abandoned_deletion_is_final :
    (unanswered.exchange (.delete 7) (.upTo 10)).outcome = .abandoned ∧
      (unanswered.exchange (.delete 7) (.upTo 10)).link.phase = .inFlight ∧
      (unanswered.exchange (.delete 7) (.upTo 10)).link.transport.written = [3, 7, 0, 0, 0] ∧
      Forsaken { (unanswered.exchange (.delete 7) (.upTo 10)).link with
        transport := .ofReads [.answer (.data [0x31])] }
          [(.exchange (.search [0, 0]), .unbounded), (.close, .unbounded)] := by
  have abandoned : (unanswered.exchange (.delete 7) (.upTo 10)).outcome = .abandoned := by
    cbv
  obtain ⟨phase, selection, held, final⟩ :=
    (abandoned_request_is_final unanswered (.delete 7) (.upTo 10) abandoned).2 (by decide)
  exact ⟨abandoned, phase, by decide +kernel, final _ _⟩

end Link

end VectorLink
