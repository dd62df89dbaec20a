import VectorLink.Proofs.Link.Advance

/-! The life of a link whose transport shuts down without waiting.

Between calls such a link has its transport exactly as long as it is not closed. A busy phase is
found only right behind a request that its caller has left, and a closed link stays as it is. The
transport is released once, by a shutdown if a close does it and without one if an exchange fails.
-/

set_option autoImplicit false

namespace VectorLink

def Event.waits {α : Type} : Event α → Bool
  | pause _ | hang => true
  | answer _ | failure _ => false

namespace Transport

/-- A shutdown that is asked for now ends at once, well or badly. -/
def Prompt (transport : Transport) : Prop :=
  ∀ event ∈ transport.shutdowns.head?, event.waits = false

theorem Prompt.of_shutdowns {before after : Transport} (prompt : before.Prompt)
    (same : after.shutdowns = before.shutdowns) : after.Prompt := by
  unfold Prompt
  rwa [same]

theorem Prompt.shutdown_ne_waiting {transport : Transport} (prompt : transport.Prompt)
    (deadline : Deadline) : (shutdown deadline transport).1 ≠ .waiting := by
  unfold Prompt at prompt
  unfold shutdown
  dsimp only
  cases script : transport.shutdowns with
  | nil => simp [Event.meet]
  | cons event rest =>
    have ends : event.waits = false := prompt event (by rw [script]; rfl)
    cases event with
    | answer value => simp [Event.meet]
    | failure cause => simp [Event.meet]
    | pause millis => cases ends
    | hang => cases ends

end Transport

namespace Request

-- A request that is refused for its own sake is not told that the link is closed.
theorem frameFor_ne_linkClosed (request : Request) (selection : Selection) :
    request.frameFor selection ≠ .error .linkClosed := by
  have unframed : request.frame ≠ .error .linkClosed := by
    cases request with
    | select database dimension =>
      simp only [frame, Frame.select]
      split <;> simp
    | _ => simp [frame]
  rw [frameFor_eq]
  split
  · split
    · exact unframed
    · simp
  · exact unframed

def selected? : Request → Option Selection
  | select database dimension => some ⟨database, dimension⟩
  | _ => none

theorem selectionAfter_eq (request : Request) (selection : Selection) :
    request.selectionAfter selection = request.selected?.getD selection := by
  cases request <;> rfl

theorem foldl_selectionAfter (requests : List Request) (selection : Selection) :
    requests.foldl selectionAfter selection =
      ((requests.filterMap selected?).getLast?).getD selection := by
  induction requests generalizing selection with
  | nil => rfl
  | cons request rest ih =>
    rw [List.foldl_cons, ih, selectionAfter_eq, List.filterMap_cons]
    cases request.selected? with
    | none => rfl
    | some asked => rw [List.getLast?_cons]; rfl

end Request

namespace Link

variable {link later : Link} {call : Call} {patience : Patience} {trace : Trace}

/-! ### The phase and the transport -/

/-- The phase and the transport of a link agree. -/
structure Whole (link : Link) : Prop where
  begun : link.phase ≠ .disconnected ∧ link.phase ≠ .connecting
  held_iff : link.custody = .held ↔ link.phase ≠ .closed

theorem whole_of_closed (closed : link.phase = .closed) (lost : link.custody ≠ .held) :
    link.Whole := by
  constructor
  · simp [closed]
  · simp [closed, lost]

/-- Only a close that is cut short sets phase and transport apart. -/
theorem Whole.next (whole : link.Whole) (advance : Advance link call patience trace later) :
    later.Whole ∨ Closes call patience ∧ link.custody = .held ∧
      (Transport.shutdown (patience.deadline link.transport.clock) link.transport).1 =
        .waiting := by
  cases advance with
  | idle limit => exact .inl ⟨whole.begun, whole.held_iff⟩
  | settled called unbroken ready held => exact .inl ⟨by simp, by simp [held]⟩
  | @abandoned request _ _ called unbroken polled left ready held =>
    have busy := request.busyPhase_busy
    refine .inl ⟨?_, by simp [held, busy.ne_closed]⟩
    rcases busy with busy | busy <;> simp [busy]
  | broken => exact .inl (whole_of_closed rfl (by simp [discard]))
  | shutDown => exact .inl (whole_of_closed rfl (by simp))
  | cutShort closes going held waits => exact .inr ⟨closes, held, waits⟩
  | emptied closes going lost => exact .inl (whole_of_closed rfl lost)

structure Sound (link : Link) : Prop extends Whole link where
  prompt : link.custody = .held → link.transport.Prompt

theorem Sound.next (sound : link.Sound) (advance : Advance link call patience trace later) :
    later.Sound := by
  refine ⟨?_, ?_⟩
  · rcases sound.toWhole.next advance with whole | ⟨closes, held, waits⟩
    · exact whole
    · exact absurd waits ((sound.prompt held).shutdown_ne_waiting _)
  · cases advance with
    | idle limit => exact sound.prompt
    | settled called unbroken ready held silent same =>
      exact fun _ => (sound.prompt held).of_shutdowns same
    | abandoned called unbroken polled left ready held silent same =>
      exact fun _ => (sound.prompt held).of_shutdowns same
    | broken | shutDown | cutShort => simp [discard]
    | emptied closes going lost => exact fun held => absurd held lost

theorem Sound.run (sound : link.Sound) (call : Call) (patience : Patience) :
    (link.run call patience).link.Sound := by
  obtain ⟨trace, -, advance⟩ := link.run_advance call patience
  exact sound.next advance

theorem Sound.after (sound : link.Sound) (calls : List (Call × Patience)) :
    (link.after calls).Sound := by
  induction calls generalizing link with
  | nil => exact sound
  | cons head rest ih => exact ih (sound.run head.1 head.2)

theorem Whole.linkClosed_iff (whole : link.Whole) (request : Request) (patience : Patience) :
    (link.exchange request patience).outcome = .failed .linkClosed ↔
      patience ≠ .never ∧ link.phase = .closed := by
  by_cases polled : patience = .never
  · subst polled
    simp [exchange, Turn.still]
  rw [link.exchange_eq request polled]
  cases phase : link.phase with
  | ready =>
    -- a ready link that is whole has its transport, and no frame and no exchange fails in this way
    have held : link.custody = .held := whole.held_iff.mpr (by simp [phase])
    simp only [start, if_pos held]
    cases framed : request.frameFor link.selection with
    | error fault =>
      have other : fault ≠ .linkClosed := by
        rintro rfl
        exact request.frameFor_ne_linkClosed _ framed
      simp [Turn.still, other]
    | ok frame =>
      have transacted := (link.transact_cases request frame patience).1
      dsimp only
      generalize link.transact request frame patience = turn at transacted ⊢
      cases transacted with
      | answered | abandoned => simp
      | @failed fault transport notes short costs =>
        have other : fault ≠ .linkClosed := by
          rintro rfl
          cases costs
        simp [other]
  | handshaking | inFlight => simp [desynchronize]
  | closed => simp [Turn.still, polled]
  | disconnected => exact absurd phase whole.begun.1
  | connecting => exact absurd phase whole.begun.2

/-! ### A closed link -/

theorem Advance.of_closed (advance : Advance link call patience trace later)
    (closed : link.phase = .closed) :
    trace = [] ∧ ∃ limit : Span, later = { link with limit } := by
  cases advance with
  | idle limit => exact ⟨rfl, limit, rfl⟩
  | settled called unbroken ready => simp [closed] at ready
  | abandoned called unbroken polled left ready => simp [closed] at ready
  | broken _ going | shutDown _ going | cutShort _ going | emptied _ going =>
    exact absurd closed going

theorem after_closed (closed : link.phase = .closed) (calls : List (Call × Patience)) :
    ∃ limit : Span, link.after calls = { link with limit } := by
  induction calls generalizing link with
  | nil => exact ⟨link.limit, rfl⟩
  | cons head rest ih =>
    obtain ⟨trace, -, advance⟩ := link.run_advance head.1 head.2
    obtain ⟨-, first, same⟩ := advance.of_closed closed
    have still : (link.run head.1 head.2).link.phase = .closed := same ▸ closed
    obtain ⟨limit, others⟩ := ih still
    refine ⟨limit, ?_⟩
    rw [after, others, same]

/-! ### Abandoned requests -/

/-- The link is busy with a request that its caller has left, and only passive calls have been made
since. -/
def Deserted (link : Link) (calls : List (Call × Patience)) : Prop :=
  ∃ (before : List (Call × Patience)) (request : Request) (patience : Patience)
    (rest : List (Call × Patience)),
    calls = before ++ (.exchange request, patience) :: rest ∧ patience ≠ .never ∧
      ((link.after before).exchange request patience).outcome = .abandoned ∧
      (link.after calls).phase = request.busyPhase ∧
      ∀ other ∈ rest, Passive other.1 other.2

theorem Deserted.cons {calls : List (Call × Patience)}
    (deserted : (link.run call patience).link.Deserted calls) :
    link.Deserted ((call, patience) :: calls) := by
  obtain ⟨before, request, other, rest, rfl, polled, left, phase, passive⟩ := deserted
  exact ⟨(call, patience) :: before, request, other, rest, rfl, polled, left, phase, passive⟩

theorem Sound.busy_cases (sound : link.Sound) (advance : Advance link call patience trace later)
    (busy : later.phase.Busy) :
    (Passive call patience ∧ later.phase = link.phase) ∨
      ∃ request : Request, call = .exchange request ∧ patience ≠ .never ∧
        (link.exchange request patience).outcome = .abandoned ∧
        later.phase = request.busyPhase := by
  cases advance with
  | idle limit passive => exact .inl ⟨passive busy, rfl⟩
  | settled => exact absurd rfl busy.ne_ready
  | abandoned called unbroken polled left => exact .inr ⟨_, called, polled, left, rfl⟩
  | broken => exact absurd rfl busy.ne_closed
  | shutDown => exact absurd rfl busy.ne_closed
  | cutShort closes going held waits =>
    exact absurd waits ((sound.prompt held).shutdown_ne_waiting _)
  | emptied => exact absurd rfl busy.ne_closed

theorem Sound.deserted_of_busy (sound : link.Sound) (calls : List (Call × Patience))
    (busy : (link.after calls).phase.Busy) :
    ((∀ other ∈ calls, Passive other.1 other.2) ∧ (link.after calls).phase = link.phase) ∨
      link.Deserted calls := by
  induction calls generalizing link with
  | nil => exact .inl ⟨by simp, rfl⟩
  | cons head rest ih =>
    obtain ⟨call, patience⟩ := head
    obtain ⟨trace, -, advance⟩ := link.run_advance call patience
    rcases ih (sound.run call patience) busy with ⟨passive, same⟩ | deserted
    · -- the first call is then the one that has set the phase, or passive as well
      rw [Link.after, same] at busy
      rcases sound.busy_cases advance busy with ⟨first, kept⟩ | ⟨request, rfl, polled, left, marked⟩
      · exact .inl ⟨List.forall_mem_cons.mpr ⟨first, passive⟩, same.trans kept⟩
      · exact .inr ⟨[], request, patience, rest, rfl, polled, left, same.trans marked, passive⟩
    · exact .inr deserted.cons

/-! ### The release of the transport -/

def releases (link : Link) : List (Call × Patience) → List Custody
  | [] => []
  | (call, patience) :: rest =>
    let next := (link.run call patience).link
    if next.custody = link.custody then next.releases rest
    else next.custody :: next.releases rest

theorem releases_of_closed (closed : link.phase = .closed) (calls : List (Call × Patience)) :
    link.releases calls = [] := by
  induction calls generalizing link with
  | nil => rfl
  | cons head rest ih =>
    obtain ⟨call, patience⟩ := head
    obtain ⟨trace, -, advance⟩ := link.run_advance call patience
    obtain ⟨-, limit, same⟩ := advance.of_closed closed
    rw [releases, same, if_pos rfl]
    exact ih closed

theorem Sound.custody_of_advance (sound : link.Sound) (held : link.custody = .held)
    (advance : Advance link call patience trace later) :
    (later.custody = .shutDown ↔ Closes call patience) ∧
      (later.custody = .dropped ↔ link.Breaks call patience) ∧
      trace.count .shutDown = if later.custody = .shutDown then 1 else 0 := by
  cases advance with
  | idle limit passive unbroken closed =>
    have noClose : ¬ Closes call patience := fun closes =>
      sound.held_iff.mp held (closed closes)
    simp [held, unbroken, noClose]
  | settled called unbroken ready _ silent =>
    simp [held, unbroken, not_closes_of_exchange called, List.count_eq_zero.mpr silent]
  | abandoned called unbroken polled left ready _ silent =>
    simp [held, unbroken, not_closes_of_exchange called, List.count_eq_zero.mpr silent]
  | broken breaks going silent =>
    simp [discard, breaks, breaks.not_closes, List.count_eq_zero.mpr silent]
  | shutDown closes going =>
    have unbroken : ¬ link.Breaks call patience := fun breaks => breaks.not_closes closes
    simp [closes, unbroken]
  | cutShort closes going _ waits =>
    exact absurd waits ((sound.prompt held).shutdown_ne_waiting _)
  | emptied closes going lost => exact absurd held lost

/-- A transport that is held is released once at most, and it is shut down once if it is released
by a shutdown and never otherwise. -/
theorem Sound.released_once (sound : link.Sound) (held : link.custody = .held)
    (calls : List (Call × Patience)) :
    (link.releases calls =
      if (link.after calls).custody = .held then [] else [(link.after calls).custody]) ∧
      ∃ trace : Trace, trace.Between link.transport (link.after calls).transport ∧
        trace.count .shutDown = if (link.after calls).custody = .shutDown then 1 else 0 := by
  induction calls generalizing link with
  | nil => exact ⟨by simp [releases, Link.after, held], [], rfl, by simp [Link.after, held]⟩
  | cons head rest ih =>
    obtain ⟨call, patience⟩ := head
    obtain ⟨first, between, advance⟩ := link.run_advance call patience
    have next := sound.run call patience
    obtain ⟨-, -, count⟩ := sound.custody_of_advance held advance
    rw [releases, Link.after]
    generalize (link.run call patience).link = middle at *
    by_cases kept : middle.custody = .held
    · obtain ⟨releases, trace, further, later⟩ := ih next kept
      rw [if_pos (kept.trans held.symm)]
      refine ⟨releases, first ++ trace, between.append further, ?_⟩
      rw [List.count_append, count, later]
      simp [kept]
    · -- the link is closed from here on
      have closed : middle.phase = .closed :=
        Decidable.not_not.mp fun going => kept (next.held_iff.mpr going)
      obtain ⟨limit, same⟩ := after_closed closed rest
      rw [if_neg (held ▸ kept), releases_of_closed closed, same]
      refine ⟨(if_neg kept).symm, first, between, count⟩

/-! ### The selection -/

theorem run_selection (link : Link) (call : Call) (patience : Patience) :
    (link.run call patience).link.selection =
      (link.settled? call patience).toList.foldl Request.selectionAfter link.selection := by
  obtain ⟨trace, -, step⟩ := link.run_step call patience
  rw [settled?_eq]
  generalize link.passage? call patience = passage, (link.run call patience).link = later at step
  cases step with
  | still | closed | shutDown => rfl
  | settled framed settled => simp [Passage.settled?, settled]
  | stopped framed short => simp [Passage.settled?, short]

theorem after_selection (link : Link) (calls : List (Call × Patience)) :
    (link.after calls).selection =
      (link.answered calls).foldl Request.selectionAfter link.selection := by
  induction calls generalizing link with
  | nil => rfl
  | cons head rest ih =>
    rw [Link.after, ih, run_selection, answered, List.foldl_append]

end Link

/-! ### Openings -/

namespace Opening

variable {opening : Opening}

theorem turn_of_answered (opened : opening.turn.outcome.isAnswered) :
    ∃ (trace : Trace) (transport : Transport),
      trace.Between opening.transport transport ∧ Act.shutDown ∉ trace ∧
      transport.shutdowns = opening.transport.shutdowns ∧
      opening.turn.link = { opening.fresh with transport, phase := .ready } := by
  have polled : opening.patience ≠ .never := by
    intro never
    rw [opening.turn_never never] at opened
    cases opened
  rw [opening.turn_eq polled] at opened ⊢
  rcases opening.fresh.start_cases opening.request polled with
    ⟨fault, -, -, refused⟩ | ⟨frame, -, framed, -, begun⟩
  · rw [refused] at opened
    cases opened
  · rw [begun] at opened ⊢
    obtain ⟨transacted, trace, between, course⟩ :=
      opening.fresh.transact_cases opening.request frame opening.patience
    have shutdowns := opening.fresh.shutdowns_transact opening.request frame opening.patience
    generalize opening.fresh.transact opening.request frame opening.patience = turn
      at opened transacted between shutdowns ⊢
    cases transacted with
    | answered settled => exact ⟨trace, _, between, course.no_shutDown, shutdowns, rfl⟩
    | failed | abandoned => cases opened

theorem whole_of_answered (opened : opening.turn.outcome.isAnswered) :
    opening.turn.link.Whole ∧ opening.turn.link.custody = .held := by
  obtain ⟨trace, transport, -, -, -, link⟩ := turn_of_answered opened
  rw [link]
  exact ⟨⟨by simp, by simp [fresh, Link.fresh]⟩, rfl⟩

theorem sound_of_answered (opened : opening.turn.outcome.isAnswered)
    (prompt : opening.transport.Prompt) : opening.turn.link.Sound := by
  refine ⟨(whole_of_answered opened).1, ?_⟩
  obtain ⟨trace, transport, -, -, same, link⟩ := turn_of_answered opened
  rw [link]
  exact fun _ => prompt.of_shutdowns same

/-- The life of a link from its opening on, as it is found after some calls. -/
structure Lifecycle (opening : Opening) (calls : List (Call × Patience)) : Prop where
  phase : (opening.after calls).phase ∈ [.handshaking, .ready, .inFlight, .closed]
  held_iff : (opening.after calls).custody = .held ↔ (opening.after calls).phase ≠ .closed
  /-- No request finds that the transport has gone unless the link is closed. -/
  linkClosed_iff : ∀ (request : Request) (patience : Patience),
    ((opening.after calls).exchange request patience).outcome = .failed .linkClosed ↔
      patience ≠ .never ∧ (opening.after calls).phase = .closed
  deserted : (opening.after calls).phase.Busy → opening.turn.link.Deserted calls
  /-- Calls on a closed link change nothing but its time limit. The transport stays as it is, with
  its history, so nothing is read, written or shut down. -/
  closed : (opening.after calls).phase = .closed → ∀ more : List (Call × Patience),
    ∃ limit : Span, (opening.after calls).after more = { opening.after calls with limit }
  /-- A close shuts the transport down, an exchange that fails drops it, and nothing else takes it
  away. -/
  release : (opening.after calls).phase ≠ .closed → ∀ (call : Call) (patience : Patience),
    let next := ((opening.after calls).run call patience).link
    (next.custody = .shutDown ↔ Link.Closes call patience) ∧
      (next.custody = .dropped ↔ (opening.after calls).Breaks call patience)
  releases : opening.turn.link.releases calls =
    if (opening.after calls).custody = .held then [] else [(opening.after calls).custody]
  shutdowns : ∃ trace : Trace,
    trace.Between opening.transport (opening.after calls).transport ∧
      trace.count .shutDown = if (opening.after calls).custody = .shutDown then 1 else 0
  /-- The selection is that of the last select that was answered. -/
  selection : ((opening.answered calls).filterMap Request.selected?).getLast? =
    some (opening.after calls).selection

theorem selection_of_answered (opened : opening.turn.outcome.isAnswered)
    (calls : List (Call × Patience)) :
    ((opening.answered calls).filterMap Request.selected?).getLast? =
      some (opening.after calls).selection := by
  obtain ⟨trace, transport, -, -, -, link⟩ := turn_of_answered opened
  have first : opening.turn.link.selection = opening.selection := by rw [link]; rfl
  have settled : opening.settled? = some opening.request := if_pos opened
  unfold answered after
  rw [settled, Option.toList_some, List.singleton_append, List.filterMap_cons,
    Link.after_selection, Request.foldl_selectionAfter, first]
  exact List.getLast?_cons

/-- The invariant of a link over every run: every transport whose shutdown does not wait, every
opening that is answered, and every sequence of calls, each ended by its answer, by a fault or by
its caller. -/
theorem lifecycle (opening : Opening) (opened : opening.turn.outcome.isAnswered)
    (prompt : opening.transport.Prompt) (calls : List (Call × Patience)) :
    opening.Lifecycle calls := by
  have start := sound_of_answered opened prompt
  have held := (whole_of_answered opened).2
  have sound : (opening.after calls).Sound := start.after calls
  obtain ⟨releases, later, further, count⟩ := start.released_once held calls
  constructor
  case phase =>
    have begun := sound.begun
    cases phase : (opening.after calls).phase with
    | disconnected => exact absurd phase begun.1
    | connecting => exact absurd phase begun.2
    | handshaking | ready | inFlight | closed => decide
  case held_iff => exact sound.held_iff
  case linkClosed_iff => exact sound.linkClosed_iff
  case deserted =>
    intro busy
    rcases start.deserted_of_busy calls busy with ⟨-, same⟩ | deserted
    · -- the opening itself has left the link ready
      obtain ⟨trace, transport, -, -, -, link⟩ := turn_of_answered opened
      have ready : opening.turn.link.phase = .ready := by rw [link]
      exact absurd (same.trans ready) busy.ne_ready
    · exact deserted
  case closed => exact Link.after_closed
  case release =>
    intro going call patience
    obtain ⟨trace, -, advance⟩ := (opening.after calls).run_advance call patience
    obtain ⟨shut, dropped, -⟩ := sound.custody_of_advance (sound.held_iff.mpr going) advance
    exact ⟨shut, dropped⟩
  case releases => exact releases
  case shutdowns =>
    -- the acts of the opening come first, and there is no shutdown among them
    obtain ⟨first, transport, between, silent, -, link⟩ := turn_of_answered opened
    have same : opening.turn.link.transport = transport := by rw [link]
    refine ⟨first ++ later, between.append (same ▸ further), ?_⟩
    rw [List.count_append, List.count_eq_zero.mpr silent, count, Nat.zero_add]
    rfl
  case selection => exact selection_of_answered opened calls

def fading : Opening :=
  { patience := .upTo 5
    transport := { Transport.ofReads [.answer (.data [6, 7]), .hang] with
      shutdowns := [.failure ⟨.notConnected, "not connected"⟩] }
    address := .standard, selection := ⟨"points", 2⟩, limit := Link.standardLimit }

def fadingCalls : List (Call × Patience) :=
  [(.exchange (.select "lines" 1), .unbounded), (.exchange (.delete 3), .upTo 10),
    (.exchange (.delete 4), .never), (.close, .unbounded)]

theorem fading_lifecycle : fading.turn.outcome.isAnswered ∧ fading.transport.Prompt ∧
    (fading.after (fadingCalls.take 3)).phase = .inFlight ∧ fading.Lifecycle (fadingCalls.take 3) ∧
    (fading.after fadingCalls).custody = .shutDown ∧ fading.Lifecycle fadingCalls := by
  have opened : fading.turn.outcome.isAnswered := by decide +kernel
  have prompt : fading.transport.Prompt := by simp [Transport.Prompt, fading, Event.waits]
  exact ⟨opened, prompt, by decide +kernel, lifecycle fading opened prompt _, by decide +kernel,
    lifecycle fading opened prompt _⟩

end Opening

end VectorLink
