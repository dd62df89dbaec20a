import VectorLink.Proofs.Link.Advance
import VectorLink.Proofs.Link.Answers
import VectorLink.Proofs.Link.HalfDuplex
import VectorLink.Proofs.Routine.Plan

/-! Sessions: one connection, requests on it, and a close.

However the network behaves, the bytes that a session puts on the wire are the frames of its
requests up to some point, and perhaps the beginning of the next frame. The first fault is the last
thing that happens, and it tells where the session stopped.
-/

set_option autoImplicit false

namespace VectorLink

/-! ### Scripts -/

namespace Event

variable {α : Type} {idle : α → Bool} {clock : Nat} {events : List (Event α)}

theorem mem_of_meet {deadline : Deadline} {value : α}
    (met : (meet idle deadline clock events).encounter = .answer value) :
    .answer value ∈ events := by
  fun_induction meet idle deadline clock events <;> grind

end Event

/-! ### Frames on the wire -/

def Selection.after (selection : Selection) (requests : List Request) : Selection :=
  requests.foldl Request.selectionAfter selection

/-- Between two states of a transport the frames of these requests were written, and then these
bytes. -/
def Wired (sent : List Request) (cut : List UInt8) (before after : Transport) : Prop :=
  ∃ (trace : Trace) (frames : List (List UInt8)), trace.Between before after ∧
    sent.map Request.frame = frames.map .ok ∧ trace.output = frames.flatten ++ cut

theorem wired_of_trace {trace : Trace} {before after : Transport}
    (between : trace.Between before after) : Wired [] trace.output before after :=
  ⟨trace, [], between, rfl, rfl⟩

theorem wired_self (transport : Transport) : Wired [] [] transport transport :=
  wired_of_trace (Trace.between_self transport)

theorem Wired.append {first second : List Request} {cut : List UInt8}
    {before middle after : Transport} (left : Wired first [] before middle)
    (right : Wired second cut middle after) : Wired (first ++ second) cut before after := by
  obtain ⟨trace, frames, between, framed, output⟩ := left
  obtain ⟨later, others, rest, more, final⟩ := right
  refine ⟨trace ++ later, frames ++ others, between.append rest, ?_, ?_⟩
  · rw [List.map_append, List.map_append, framed, more]
  · rw [Trace.output_append, output, final, List.append_nil, List.flatten_append,
      List.append_assoc]

def Request.BeginsWith (request : Request) (cut : List UInt8) : Prop :=
  ∃ frame : List UInt8, request.frame = .ok frame ∧ cut <+: frame

/-! ### One exchange -/

structure Link.Open (link : Link) : Prop where
  ready : link.phase = .ready
  held : link.custody = .held

inductive Link.Started (link : Link) (request : Request) : Turn request.Answer → Prop where
  | refused {fault : Fault} : request.frameFor link.selection = .error fault →
      Started link request (.still (.failed fault) link)
  | failed {fault : Fault} {next : Link} {notes : List Note} {cut : List UInt8} :
      fault.isMidExchange → request.BeginsWith cut → Wired [] cut link.transport next.transport →
      Started link request ⟨.failed fault, next, notes⟩
  | answered {answer : request.Answer} {next : Link} {notes : List Note} : next.Open →
      next.selection = request.selectionAfter link.selection →
      Wired [request] [] link.transport next.transport →
      Started link request ⟨.answered answer, next, notes⟩

theorem Link.started (link : Link) (held : link.custody = .held) (request : Request) :
    link.Started request (link.start request .unbounded) := by
  unfold start
  split
  · rename_i fault refused
    exact .refused refused
  rename_i frame framed
  rw [if_pos held]
  have whole := Request.frame_of_frameFor framed
  have fails (fault : Fault) (failed : (link.transact request frame .unbounded).outcome =
      .failed fault) : fault.isMidExchange := Link.isMidExchange_of_transact failed
  obtain ⟨transacted, trace, between, course⟩ := link.transact_cases request frame .unbounded
  generalize link.transact request frame .unbounded = turn at transacted between fails
  cases transacted with
  | answered settled =>
    have output := course.output_of_whole (by rw [settled]; rfl)
    refine .answered ⟨rfl, held⟩ rfl ⟨trace, [frame], between, ?_, ?_⟩
    · simp [whole]
    · simp [output]
  | failed short costs =>
    exact .failed (fails _ rfl) ⟨frame, whole, course.output_prefix⟩ (wired_of_trace between)
  | abandoned short left => exact absurd rfl left

/-! ### One deed -/

namespace Routine

variable {world : World} {line : Line} {lines : List Line} {link : Link} {others : List Link}

theorem lines_of_links (last : world.links = link :: others) :
    ∃ (line : Line) (lines : List Line), world.lines = line :: lines ∧ link = line.link ∧
      others = lines.map Line.link := by
  obtain ⟨line, lines, isLines, isLink, isOthers⟩ := List.map_eq_cons_iff.mp last
  exact ⟨line, lines, isLines, isLink.symm, isOthers.symm⟩

theorem links_of_lines (last : world.lines = line :: lines) :
    world.links = line.link :: lines.map Line.link := by
  rw [World.links, last]
  rfl

theorem ask_of_lines (last : world.lines = line :: lines) (request : Request) :
    ask request world = ((line.exchange request).result,
      world.advance lines line.link.transport.clock (line.exchange request)) := by
  unfold ask
  rw [last]

theorem hangUp_of_lines (last : world.lines = line :: lines) :
    (hangUp : Routine Fault Unit) world =
      (.ok (), world.advance lines line.link.transport.clock line.close) := by
  unfold hangUp
  rw [last]

theorem advance_still {α : Type} (last : world.lines = line :: lines) (result : Except Fault α) :
    world.advance lines line.link.transport.clock ⟨result, line, []⟩ = world := by
  cases world
  cases last
  simp [World.advance]

/-- What asking for something does to the link that was made last. -/
inductive Asked (link : Link) (others : List Link) (request : Request) (world : World) :
    Except Fault request.Answer × World → Prop where
  | refused {fault : Fault} : request.frameFor link.selection = .error fault →
      Asked link others request world (.error fault, world)
  | failed {fault : Fault} {after : World} {next : Link} {cut : List UInt8} :
      after.links = next :: others → fault.isMidExchange → request.BeginsWith cut →
      Wired [] cut link.transport next.transport →
      Asked link others request world (.error fault, after)
  | answered {answer : request.Answer} {after : World} {next : Link} :
      after.links = next :: others → next.Open →
      next.selection = request.selectionAfter link.selection →
      Wired [request] [] link.transport next.transport →
      Asked link others request world (.ok answer, after)

theorem asked (last : world.links = link :: others) (isOpen : link.Open) (request : Request) :
    Asked link others request world (ask request world) := by
  obtain ⟨⟨link, ends⟩, lines, top, rfl, rfl⟩ := lines_of_links last
  have started := link.started isOpen.held request
  have start : link.exchange request .unbounded = link.start request .unbounded := by
    rw [link.exchange_eq request (by decide), isOpen.ready]
  rw [← start, ← Line.turn_exchange ⟨link, ends⟩] at started
  rw [ask_of_lines top]
  generalize Line.exchange ⟨link, ends⟩ request = call at started
  obtain ⟨result, ⟨next, _⟩, notes⟩ := call
  cases result with
  | ok answer =>
    cases started with
    | answered stays selection wired => exact .answered rfl stays selection wired
  | error fault =>
    cases started with
    | refused refused =>
      rw [advance_still top]
      exact .refused refused
    | failed kind part wired => exact .failed rfl kind part wired

inductive Connected (world : World) (selection : Selection) :
    Except Fault Unit × World → Prop where
  | unreached {fault : Fault} {after : World} :
      (∃ (address : String) (cause : IoFault), fault = .unreachable address cause) ∨
        (∃ limit : Span, fault = .timeout limit) → after.links = world.links →
      Connected world selection (.error fault, after)
  | refused {fault : Fault} {after : World} {next : Link} {socket : Socket} :
      after.links = next :: world.links → .answer socket ∈ world.network →
      (Request.select selection.database selection.dimension).frame = .error fault →
      Wired [] [] socket.transport next.transport → Connected world selection (.error fault, after)
  | failed {fault : Fault} {after : World} {next : Link} {socket : Socket}
      {cut : List UInt8} : after.links = next :: world.links → .answer socket ∈ world.network →
      fault.isMidExchange → (Request.select selection.database selection.dimension).BeginsWith cut →
      Wired [] cut socket.transport next.transport → Connected world selection (.error fault, after)
  | opened {after : World} {next : Link} {socket : Socket} :
      after.links = next :: world.links → .answer socket ∈ world.network → next.Open →
      next.selection = selection →
      Wired [.select selection.database selection.dimension] [] socket.transport next.transport →
      Connected world selection (.ok (), after)

theorem connected (address : Address) (selection : Selection) (limit : Span) (world : World) :
    Connected world selection (connect address selection limit world) := by
  unfold connect
  dsimp only [World.note]
  split <;> rename_i met
  case h_2 => exact .unreached (.inl ⟨_, _, rfl⟩) rfl
  case h_3 => exact .unreached (.inl ⟨_, _, rfl⟩) rfl
  case h_4 => exact .unreached (.inr ⟨_, rfl⟩) rfl
  case h_1 socket =>
  have reached : .answer socket ∈ world.network := Event.mem_of_meet met
  -- the call on the line is the opening of the link, whose first exchange has three endings
  have turn := socket.turn_establish address selection limit
  unfold Link.establish Link.establishFor at turn
  dsimp only at turn
  have started := (Link.fresh socket.transport address selection limit).started rfl
    (.select selection.database selection.dimension)
  generalize (Link.fresh socket.transport address selection limit).start
    (.select selection.database selection.dimension) .unbounded = begun at started turn
  unfold establish
  generalize socket.establish address selection limit = call at turn
  obtain ⟨result, ⟨next, _⟩, notes⟩ := call
  cases result with
  | ok answer =>
    cases started with
    | refused | failed => cases turn
    | answered stays same wired =>
      cases turn
      exact .opened rfl reached stays same wired
  | error fault =>
    cases started with
    | refused refused =>
      cases turn
      exact .refused rfl reached refused (wired_self socket.transport)
    | failed kind part wired =>
      cases turn
      exact .failed rfl reached kind part wired
    | answered => cases turn

theorem hungUp (last : world.links = link :: others) :
    ∃ (after : World) (next : Link), (hangUp : Routine Fault Unit) world = (.ok (), after) ∧
      after.links = next :: others ∧ Wired [] [] link.transport next.transport := by
  obtain ⟨⟨link, ends⟩, lines, top, rfl, rfl⟩ := lines_of_links last
  have closing := link.close_cases .unbounded
  rw [← Line.turn_close ⟨link, ends⟩] at closing
  rw [hangUp_of_lines top]
  generalize Line.close ⟨link, ends⟩ = call at closing
  obtain ⟨result, ⟨next, _⟩, notes⟩ := call
  refine ⟨_, next, rfl, rfl, ?_⟩
  cases result with
  | error fault => cases closing
  | ok answer =>
    cases closing with
    | already | empty => exact wired_self _
    | shutDown _ _ _ between => exact wired_of_trace between

theorem hangUp_isOk (world : World) :
    ∃ after : World, (hangUp : Routine Fault Unit) world = (.ok (), after) := by
  unfold hangUp
  split <;> exact ⟨_, rfl⟩

/-! ### Particular answers -/

theorem outcome_ask (last : world.links = link :: others) (request : Request) :
    .ofResult (ask request world).1 = (link.exchange request .unbounded).outcome := by
  obtain ⟨line, lines, top, rfl, rfl⟩ := lines_of_links last
  rw [ask_of_lines top, ← line.turn_exchange]
  rfl

theorem searchMany_few {vector : Components} {count : UInt32} {ids : List Int32} {after : World}
    (run : searchMany vector count world = (.ok ids, after)) : ids.length ≤ count.toNat := by
  unfold searchMany at run
  cases top : world.lines with
  | nil =>
    unfold ask at run
    rw [top] at run
    cases run
  | cons line lines =>
    have answered := outcome_ask (links_of_lines top) (.searchMany vector count)
    rw [run] at answered
    exact Link.exchange_few answered.symm

theorem searchMany_violation {vector : Components} {count : UInt32} {announced : Nat}
    (last : world.links = link :: others) (announces : link.Announces vector count announced)
    (above : count.toNat < announced) :
    ∃ after : World, searchMany vector count world = (.error (.violation
      s!"search_n returned {announced} results, requested at most {count.toNat}"), after) := by
  have failed := outcome_ask last (.searchMany vector count)
  rw [announces.violation above] at failed
  exact ⟨_, Prod.ext (Outcome.ofResult_inj failed) rfl⟩

theorem search_mismatch {address : Address} {selection : Selection} {limit : Span} {opened : World}
    {vector : Components} (run : connect address selection limit world = (.ok (), opened))
    (differs : vector.length ≠ selection.dimension.toNat) :
    search vector opened =
      (.error (.dimensionMismatch selection.dimension.toNat vector.length), opened) := by
  have connected := connected address selection limit world
  rw [run] at connected
  cases connected with
  | @opened _ link _ last reached isOpen same =>
    subst same
    obtain ⟨line, lines, top, rfl, -⟩ := lines_of_links last
    unfold search
    rw [ask_of_lines top, Line.exchange_still (Link.exchange_mismatch isOpen.ready rfl differs),
      advance_still top]
    rfl

end Routine

/-! ### Whole sessions -/

namespace Plan

variable {requests : List Request} {selection : Selection} {fault : Fault}

/-- How requests on one connection break off: a request has no frame, or its exchange fails midway. -/
inductive BrokenOff (requests : List Request) (selection : Selection) (before after : Transport) :
    Fault → Prop where
  | refused (sent : List Request) {rest : List Request} {next : Request} {fault : Fault} :
      requests = sent ++ next :: rest → next.frameFor (selection.after sent) = .error fault →
      Wired sent [] before after → BrokenOff requests selection before after fault
  | midExchange (sent : List Request) {rest : List Request} {next : Request} {cut : List UInt8}
      {fault : Fault} : requests = sent ++ next :: rest → fault.isMidExchange →
      next.BeginsWith cut → Wired sent cut before after →
      BrokenOff requests selection before after fault

theorem BrokenOff.cons {first : Request} {before middle after : Transport}
    (broken : BrokenOff requests (first.selectionAfter selection) middle after fault)
    (wired : Wired [first] [] before middle) :
    BrokenOff (first :: requests) selection before after fault := by
  cases broken with
  | refused sent split refuses behind =>
    subst split
    exact .refused (first :: sent) rfl refuses (wired.append behind)
  | midExchange sent split kind part behind =>
    subst split
    exact .midExchange (first :: sent) rfl kind part (wired.append behind)

inductive Conversed (requests : List Request) (link : Link) (others : List Link) :
    Except Fault (List Done) × World → Prop where
  | done {done : List Done} {last : World} {final : Link} : last.links = final :: others →
      Wired requests [] link.transport final.transport →
      Conversed requests link others (.ok done, last)
  | failed {fault : Fault} {last : World} {final : Link} : last.links = final :: others →
      BrokenOff requests link.selection link.transport final.transport fault →
      Conversed requests link others (.error fault, last)

theorem conversed (requests : List Request) {world : World} {link : Link} {others : List Link}
    (top : world.links = link :: others) (isOpen : link.Open) :
    Conversed requests link others (carryOut (requests.map .ask ++ [.hangUp]) world) := by
  induction requests generalizing world link with
  | nil =>
    obtain ⟨after, next, run, stays, wired⟩ := Routine.hungUp top
    have hung : Deed.hangUp.carryOut world = (.ok (), after) := run
    show Conversed [] link others (carryOut [.hangUp] world)
    rw [carryOut_cons_of_ok hung rfl]
    exact .done stays wired
  | cons first requests ih =>
    have asked := Routine.asked top isOpen first
    rw [List.map_cons, List.cons_append]
    rcases run : (Deed.ask first).carryOut world with ⟨result, after⟩
    rw [show Routine.ask first world = (result, after) from run] at asked
    cases asked with
    | refused refuses =>
      rw [carryOut_cons_of_error run]
      exact .failed top (.refused [] rfl refuses (wired_self _))
    | failed stays kind part wired =>
      rw [carryOut_cons_of_error run]
      exact .failed stays (.midExchange [] rfl kind part wired)
    | answered stays isOpen selection wired =>
      -- what becomes of the others is told from the selection that this answer has left
      have conversed := ih stays isOpen
      rcases more : carryOut (requests.map .ask ++ [.hangUp]) after with ⟨_ | later, last⟩
      · rw [carryOut_cons_of_later_error run more]
        rw [more] at conversed
        cases conversed with
        | failed top broken =>
          rw [selection] at broken
          exact .failed top (broken.cons wired)
      · rw [carryOut_cons_of_ok run more]
        rw [more] at conversed
        cases conversed with
        | done top behind => exact .done top (wired.append behind)

/-- Connects, makes requests, and hangs up. -/
def session (address : Address) (selection : Selection) (limit : Span) (requests : List Request) :
    Plan :=
  .connect address selection limit :: (requests.map .ask ++ [.hangUp])

def sessionRequests (selection : Selection) (requests : List Request) : List Request :=
  .select selection.database selection.dimension :: requests

/-- How a session goes. It makes one link at most, over a socket of the network. -/
inductive Held (selection : Selection) (requests : List Request) (world : World) :
    Except Fault (List Done) × World → Prop where
  | unreached {fault : Fault} {last : World} :
      (∃ (address : String) (cause : IoFault), fault = .unreachable address cause) ∨
        (∃ limit : Span, fault = .timeout limit) → last.links = world.links →
      Held selection requests world (.error fault, last)
  | failed {fault : Fault} {last : World} {final : Link} {socket : Socket} :
      last.links = final :: world.links → .answer socket ∈ world.network →
      BrokenOff (sessionRequests selection requests) selection socket.transport final.transport
        fault →
      Held selection requests world (.error fault, last)
  | done {done : List Done} {last : World} {final : Link} {socket : Socket} :
      last.links = final :: world.links → .answer socket ∈ world.network →
      Wired (sessionRequests selection requests) [] socket.transport final.transport →
      Held selection requests world (.ok done, last)

theorem held (address : Address) (selection : Selection) (limit : Span) (requests : List Request)
    (world : World) :
    Held selection requests world (carryOut (session address selection limit requests) world) := by
  have connected := Routine.connected address selection limit world
  unfold session
  rcases run : (Deed.connect address selection limit).carryOut world with ⟨result, after⟩
  rw [show Routine.connect address selection limit world = (result, after) from run] at connected
  cases connected with
  | unreached why same =>
    rw [carryOut_cons_of_error run]
    exact .unreached why same
  | refused top reached refuses wired =>
    rw [carryOut_cons_of_error run]
    exact .failed top reached (.refused [] rfl refuses wired)
  | failed top reached kind part wired =>
    rw [carryOut_cons_of_error run]
    exact .failed top reached (.midExchange [] rfl kind part wired)
  | opened top reached isOpen selection wired =>
    have conversed := conversed requests top isOpen
    rcases more : carryOut (requests.map .ask ++ [.hangUp]) after with ⟨_ | later, last⟩
    · rw [carryOut_cons_of_later_error run more]
      rw [more] at conversed
      cases conversed with
      | failed top broken =>
        rw [selection] at broken
        exact .failed top reached (broken.cons wired)
    · rw [carryOut_cons_of_ok run more]
      rw [more] at conversed
      cases conversed with
      | done top behind => exact .done top reached (wired.append behind)

theorem session_isOk_iff (address : Address) (selection : Selection) (limit : Span)
    (requests : List Request) (world : World) :
    (∃ done last, carryOut (session address selection limit requests) world = (.ok done, last)) ↔
      ∃ done last, carryOut (.connect address selection limit :: requests.map .ask) world =
        (.ok done, last) := by
  have split : session address selection limit requests =
      (.connect address selection limit :: requests.map .ask) ++ [.hangUp] := rfl
  rw [split]
  generalize (Deed.connect address selection limit :: requests.map .ask) = plan
  constructor
  · rintro ⟨done, last, carried⟩
    rw [carryOut_append] at carried
    obtain ⟨before, between, ran, -⟩ := Routine.of_bind_ok carried
    exact ⟨before, between, ran⟩
  · rintro ⟨done, last, carried⟩
    obtain ⟨after, hung⟩ := Routine.hangUp_isOk last
    have closed : Deed.hangUp.carryOut last = (.ok (), after) := hung
    exact ⟨_, after, carryOut_append_of_ok carried (carryOut_cons_of_ok closed rfl)⟩

end Plan

end VectorLink
