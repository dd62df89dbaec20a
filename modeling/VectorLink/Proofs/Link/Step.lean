import VectorLink.Proofs.Link.Call

/-! What one call can do to a link, as one relation.

The proofs about whole runs are inductions over `Step`: a call leaves the link where it is, ends it,
shuts its transport down, or makes one exchange. An exchange that does not settle leaves a link on
which no other one will begin.
-/

set_option autoImplicit false

namespace VectorLink

def Outcome.isAnswered {α : Type} : Outcome α → Bool
  | answered _ => true
  | failed _ | abandoned => false

def Call.request? : Call → Option Request
  | exchange request => some request
  | close | setLimit _ => none

def Passage.settled? (passage : Passage) : Option Request :=
  if passage.stage = .settled then some passage.request else none

namespace Link

def settled? (link : Link) (call : Call) (patience : Patience) : Option Request :=
  if (link.run call patience).outcome.isAnswered then call.request? else none

/-- The requests that are answered in a sequence of calls. -/
def answered (link : Link) : List (Call × Patience) → List Request
  | [] => []
  | (call, patience) :: rest =>
    (link.settled? call patience).toList ++ (link.run call patience).link.answered rest

/-- No exchange begins on the link any more. -/
def Mute (link : Link) : Prop := link.phase = .ready → link.custody ≠ .held

/-- One call on a link: the exchange that it begins, its acts and the link after it. -/
inductive Step (link : Link) : Option Passage → Trace → Link → Prop where
  | still (limit : Span) : Step link none [] { link with limit }
  | closed {custody : Custody} : custody ≠ .held →
      Step link none [] { link with phase := .closed, custody }
  | shutDown {transport : Transport} {phase : Phase} {custody : Custody} :
      link.custody = .held → custody ≠ .held → phase = link.phase ∨ phase = .closed →
      Step link none [.shutDown] { link with transport, phase, custody }
  | settled {passage : Passage} {trace : Trace} {transport : Transport} :
      passage.request.frameFor link.selection = .ok passage.frame → passage.stage = .settled →
      Course passage.request passage.frame passage.stage trace →
      Step link (some passage) trace { link with
        transport, phase := .ready, selection := passage.request.selectionAfter link.selection }
  | stopped {passage : Passage} {trace : Trace} {transport : Transport} {phase : Phase}
      {custody : Custody} :
      passage.request.frameFor link.selection = .ok passage.frame → passage.stage ≠ .settled →
      Course passage.request passage.frame passage.stage trace → phase ≠ .ready →
      Step link (some passage) trace { link with transport, phase, custody }

theorem transact_step {link : Link} {request : Request} {frame : List UInt8} (patience : Patience)
    (framed : request.frameFor link.selection = .ok frame) :
    ∃ trace : Trace,
      trace.Between link.transport (link.transact request frame patience).link.transport ∧
        Step link
          (some ⟨request, frame, request.stage frame (link.deadline patience) link.transport⟩) trace
          (link.transact request frame patience).link := by
  obtain ⟨transacted, trace, between, course⟩ := link.transact_cases request frame patience
  refine ⟨trace, between, ?_⟩
  generalize link.transact request frame patience = turn at transacted ⊢
  cases transacted with
  | answered settled => exact .settled framed settled course
  | failed short costs => exact .stopped framed short course (by simp)
  | abandoned short left =>
    refine .stopped framed short course ?_
    cases request <;> simp [Request.busyPhase]

theorem run_step (link : Link) (call : Call) (patience : Patience) :
    ∃ trace : Trace, trace.Between link.transport (link.run call patience).link.transport ∧
      Step link (link.passage? call patience) trace (link.run call patience).link := by
  -- calls that are dropped unpolled, refused or found closed
  have unmoved : Step link none [] link := .still link.limit
  cases call with
  | exchange request =>
    have exchanged := link.exchange_cases request patience
    simp only [run]
    generalize link.passage? (.exchange request) patience = passage,
      link.exchange request patience = turn at exchanged ⊢
    cases exchanged with
    | unpolled | refused | closed => exact ⟨[], rfl, unmoved⟩
    | desynchronized => exact ⟨[], rfl, .closed (by simp)⟩
    | begun polled ready held framed => exact transact_step patience framed
  | close =>
    have closing := link.close_cases patience
    simp only [run, passage?]
    generalize link.close patience = turn at closing ⊢
    cases closing with
    | unpolled | already => exact ⟨[], rfl, unmoved⟩
    | empty polled going lost => exact ⟨[], rfl, .closed lost⟩
    | shutDown polled going held between =>
      exact ⟨_, between, .shutDown held (by simp) (.inr rfl)⟩
    | cutShort polled going held between =>
      exact ⟨_, between, .shutDown held (by simp) (.inl rfl)⟩
  | setLimit limit =>
    simp only [run, passage?, setLimit]
    split
    · exact ⟨[], rfl, unmoved⟩
    · exact ⟨[], rfl, .still limit⟩

-- A call is answered exactly if its exchange settles.
theorem settled?_eq (link : Link) (call : Call) (patience : Patience) :
    link.settled? call patience = (link.passage? call patience).bind Passage.settled? := by
  unfold settled?
  cases call with
  | exchange request =>
    have exchanged := link.exchange_cases request patience
    show (if (link.exchange request patience).outcome.isAnswered then some request else none) = _
    generalize link.passage? (.exchange request) patience = passage,
      link.exchange request patience = turn at exchanged ⊢
    cases exchanged with
    | unpolled | refused | closed | desynchronized => rfl
    | @begun frame polled ready held framed =>
      have transacted := (link.transact_cases request frame patience).1
      generalize link.transact request frame patience = turn at transacted ⊢
      cases transacted with
      | answered settled => exact (if_pos settled).symm
      | failed short costs => exact (if_neg short).symm
      | abandoned short left => exact (if_neg short).symm
  | close | setLimit limit => exact ite_self none

/-! ### The requests behind exchanges -/

theorem begun?_spec {link : Link} {request : Request} {patience : Patience} {passage : Passage}
    (begins : link.begun? request patience = some passage) :
    passage.request = request ∧ request.frameFor link.selection = .ok passage.frame := by
  unfold begun? at begins
  split at begins
  · cases begins
  · rename_i frame framed
    split at begins
    · cases begins
      exact ⟨rfl, framed⟩
    · cases begins

theorem passage?_spec {link : Link} {call : Call} {patience : Patience} {passage : Passage}
    (begins : link.passage? call patience = some passage) :
    call.request? = some passage.request ∧ link.phase = .ready ∧
      passage.request.frameFor link.selection = .ok passage.frame := by
  cases call with
  | exchange request =>
    simp only [passage?] at begins
    split at begins
    · rename_i ready
      obtain ⟨rfl, framed⟩ := begun?_spec begins
      exact ⟨rfl, ready, framed⟩
    · cases begins
  | close => cases begins
  | setLimit limit => cases begins

theorem frame_of_passages (link : Link) (calls : List (Call × Patience)) :
    ∀ passage ∈ link.passages calls, passage.request.frame = .ok passage.frame := by
  induction calls generalizing link with
  | nil => simp [passages]
  | cons head rest ih =>
    obtain ⟨call, patience⟩ := head
    intro passage member
    rcases List.mem_append.mp member with first | later
    · have begins := Option.mem_toList.mp first
      exact Request.frame_of_frameFor (passage?_spec begins).2.2
    · exact ih _ passage later

theorem requests_sublist (link : Link) (calls : List (Call × Patience)) :
    ((link.passages calls).map Passage.request).Sublist (calls.filterMap (·.1.request?)) := by
  induction calls generalizing link with
  | nil => exact List.Sublist.slnil
  | cons head rest ih =>
    obtain ⟨call, patience⟩ := head
    have later := ih (link.run call patience).link
    have split : ((call, patience) :: rest).filterMap (·.1.request?) =
        call.request?.toList ++ rest.filterMap (·.1.request?) := by
      cases called : call.request? <;> simp [called]
    rw [passages, List.map_append, split]
    cases begins : link.passage? call patience with
    | none => exact later.trans (List.sublist_append_right _ _)
    | some passage =>
      rw [(passage?_spec begins).1]
      exact later.cons_cons _

/-! ### Links on which nothing begins -/

theorem mute_of_phase {link : Link} (phase : link.phase ≠ .ready) : link.Mute :=
  fun ready => absurd ready phase

theorem mute_of_custody {link : Link} (lost : link.custody ≠ .held) : link.Mute :=
  fun _ => lost

theorem Mute.passage?_eq_none {link : Link} (mute : link.Mute) (call : Call) (patience : Patience) :
    link.passage? call patience = none := by
  cases call with
  | exchange request =>
    by_cases ready : link.phase = .ready
    · simp only [passage?, if_pos ready, begun?]
      split
      · rfl
      · exact if_neg fun both => mute ready both.1
    · exact if_neg ready
  | close => rfl
  | setLimit limit => rfl

theorem Mute.run_step {link : Link} (mute : link.Mute) (call : Call) (patience : Patience) :
    ∃ trace : Trace, trace.Between link.transport (link.run call patience).link.transport ∧
      Step link none trace (link.run call patience).link := by
  have one := link.run_step call patience
  rwa [mute.passage?_eq_none] at one

theorem Mute.next {link next : Link} {trace : Trace} (mute : link.Mute)
    (step : Step link none trace next) : next.Mute := by
  cases step with
  | still limit => exact mute
  | closed lost => exact mute_of_custody lost
  | shutDown held lost _ => exact mute_of_custody lost

/-- What a call that begins no exchange keeps, a run on a mute link keeps. -/
theorem Mute.after_keeps {P : Link → Prop} {link : Link} (mute : link.Mute) (start : P link)
    (keeps : ∀ {link next : Link} {trace : Trace}, Step link none trace next → P link → P next)
    (calls : List (Call × Patience)) : (link.after calls).Mute ∧ P (link.after calls) := by
  induction calls generalizing link with
  | nil => exact ⟨mute, start⟩
  | cons head rest ih =>
    obtain ⟨trace, -, step⟩ := mute.run_step head.1 head.2
    exact ih (mute.next step) (keeps step start)

theorem Step.phase_ne_ready {link next : Link} {trace : Trace} (step : Step link none trace next)
    (phase : link.phase ≠ .ready) : next.phase ≠ .ready := by
  cases step with
  | still limit => exact phase
  | closed lost => simp
  | shutDown held lost way =>
    rcases way with same | closed
    · exact same ▸ phase
    · simp [closed]

theorem Step.selection_eq {link next : Link} {trace : Trace} (step : Step link none trace next) :
    next.selection = link.selection := by
  cases step <;> rfl

theorem Mute.selection_after {link : Link} (mute : link.Mute) (calls : List (Call × Patience)) :
    (link.after calls).selection = link.selection := by
  refine (mute.after_keeps (P := fun other => other.selection = link.selection) rfl ?_ calls).2
  intro earlier next trace step same
  exact step.selection_eq.trans same

-- A link that is not ready never is again.
theorem phase_after_ne_ready {link : Link} (phase : link.phase ≠ .ready)
    (calls : List (Call × Patience)) : (link.after calls).phase ≠ .ready := by
  refine ((mute_of_phase phase).after_keeps (P := fun other => other.phase ≠ .ready) phase ?_ calls).2
  intro earlier next trace step other
  exact step.phase_ne_ready other

theorem Mute.passages_eq_nil {link : Link} (mute : link.Mute) (calls : List (Call × Patience)) :
    link.passages calls = [] := by
  induction calls generalizing link with
  | nil => rfl
  | cons head rest ih =>
    obtain ⟨call, patience⟩ := head
    obtain ⟨trace, -, step⟩ := mute.run_step call patience
    rw [passages, mute.passage?_eq_none, ih (mute.next step)]
    rfl

theorem transport_after_of_custody {link : Link} (lost : link.custody ≠ .held)
    (calls : List (Call × Patience)) :
    Trace.Between [] link.transport (link.after calls).transport ∧
      (link.after calls).custody ≠ .held := by
  induction calls generalizing link with
  | nil => exact ⟨rfl, lost⟩
  | cons head rest ih =>
    obtain ⟨call, patience⟩ := head
    obtain ⟨trace, between, step⟩ := (mute_of_custody lost).run_step call patience
    -- neither a shutdown nor an exchange happens without a transport
    have released : trace = [] ∧ (link.run call patience).link.custody ≠ .held := by
      generalize (link.run call patience).link = next at step
      cases step with
      | still limit => exact ⟨rfl, lost⟩
      | closed stays => exact ⟨rfl, stays⟩
      | shutDown held _ _ => exact absurd held lost
    obtain ⟨rfl, stays⟩ := released
    exact ⟨between.append (ih stays).1, (ih stays).2⟩

theorem Mute.trace {link : Link} (mute : link.Mute) (calls : List (Call × Patience)) :
    ∃ trace : Trace, trace.Between link.transport (link.after calls).transport ∧
      (trace = [] ∨ trace = [.shutDown]) := by
  induction calls generalizing link with
  | nil => exact ⟨[], rfl, .inl rfl⟩
  | cons head rest ih =>
    obtain ⟨call, patience⟩ := head
    obtain ⟨first, between, step⟩ := mute.run_step call patience
    have next := mute.next step
    rw [after]
    generalize (link.run call patience).link = middle at *
    cases step with
    | still limit =>
      obtain ⟨later, rest, few⟩ := ih next
      exact ⟨later, between.append rest, few⟩
    | closed lost =>
      obtain ⟨later, rest, few⟩ := ih next
      exact ⟨later, between.append rest, few⟩
    | shutDown held lost _ =>
      exact ⟨_, between.append (transport_after_of_custody lost rest).1, .inr rfl⟩

end Link

/-! ### Links from their opening on -/

/-- A request to open a link. -/
structure Opening where
  patience : Patience
  transport : Transport
  address : Address
  selection : Selection
  limit : Span

namespace Opening

def fresh (opening : Opening) : Link :=
  .fresh opening.transport opening.address opening.selection opening.limit

def request (opening : Opening) : Request :=
  .select opening.selection.database opening.selection.dimension

def turn (opening : Opening) : Turn Unit :=
  Link.establishFor opening.patience opening.transport opening.address opening.selection
    opening.limit

def after (opening : Opening) (calls : List (Call × Patience)) : Link :=
  opening.turn.link.after calls

def passage? (opening : Opening) : Option Passage :=
  opening.fresh.begun? opening.request opening.patience

def passages (opening : Opening) (calls : List (Call × Patience)) : List Passage :=
  opening.passage?.toList ++ opening.turn.link.passages calls

def settled? (opening : Opening) : Option Request :=
  if opening.turn.outcome.isAnswered then some opening.request else none

def answered (opening : Opening) (calls : List (Call × Patience)) : List Request :=
  opening.settled?.toList ++ opening.turn.link.answered calls

theorem turn_never (opening : Opening) (unpolled : opening.patience = .never) :
    opening.turn = .still .abandoned opening.fresh.discard := by
  unfold turn
  rw [unpolled]
  rfl

theorem turn_eq (opening : Opening) (polled : opening.patience ≠ .never) :
    opening.turn =
      let turn : Turn Unit := opening.fresh.start opening.request opening.patience
      match turn.outcome with
      | .answered _ => turn
      | _ => { turn with link := turn.link.discard } := by
  unfold turn
  cases patience : opening.patience with
  | never => exact absurd patience polled
  | upTo millis => rfl
  | unbounded => rfl

theorem turn_step (opening : Opening) :
    opening.settled? = opening.passage?.bind Passage.settled? ∧
      ∃ trace : Trace, trace.Between opening.transport opening.turn.link.transport ∧
        Link.Step opening.fresh opening.passage? trace opening.turn.link := by
  by_cases polled : opening.patience = .never
  · have unsent : opening.passage? = none := by
      unfold passage?
      rw [polled, Link.begun?_never]
    unfold settled?
    rw [unsent, opening.turn_never polled]
    exact ⟨rfl, [], rfl, .closed (by simp)⟩
  unfold settled?
  rw [opening.turn_eq polled]
  unfold passage?
  rcases opening.fresh.start_cases opening.request polled with
    ⟨fault, -, unsent, still⟩ | ⟨frame, -, framed, sent, begun⟩
  · rw [unsent, still]
    exact ⟨rfl, [], rfl, .closed (by simp)⟩
  · rw [sent, begun]
    obtain ⟨transacted, trace, between, course⟩ :=
      opening.fresh.transact_cases opening.request frame opening.patience
    generalize opening.fresh.transact opening.request frame opening.patience = turn
      at transacted between ⊢
    cases transacted with
    | answered settled =>
      exact ⟨(if_pos settled).symm, trace, between, .settled framed settled course⟩
    -- the opening discards a link whose exchange did not settle
    | failed short costs =>
      exact ⟨(if_neg short).symm, trace, between, .stopped framed short course (by simp)⟩
    | abandoned short left =>
      exact ⟨(if_neg short).symm, trace, between, .stopped framed short course (by simp)⟩

end Opening

end VectorLink
