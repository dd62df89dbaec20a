import VectorLink.Proofs.Link.HalfDuplex
import VectorLink.Proofs.Wire.Framing

/-! Client and server agree about the select in force.

A vector frame does not say how long it is. The server cuts the stream by the dimension of the last
select that it has read, the client lets vectors out by the dimension of the last select that
was acknowledged. Over every run of a link these are the same when the link is ready, because a
select that was not acknowledged is the last frame of all.
-/

set_option autoImplicit false

namespace VectorLink

def Selection.current (selection : Selection) : Framing.Current :=
  ⟨utf8 selection.database, selection.dimension⟩

theorem Request.after_current (request : Request) (selection : Selection) :
    request.parcel.after selection.current = (request.selectionAfter selection).current := by
  cases request <;> rfl

theorem Request.fits_of_frameFor {request : Request} {selection : Selection} {frame : List UInt8}
    (framed : request.frameFor selection = .ok frame) : request.Fits selection.current := by
  intro vector carried
  rw [frameFor_eq, Option.mem_def.mp carried] at framed
  dsimp only at framed
  split at framed
  · assumption
  · cases framed

/-! ### The stream of an orderly run -/

/-- Every exchange was begun with a frame that a server with this select can cut off. -/
def Fitting : Framing.Current → List Passage → Prop
  | _, [] => True
  | current, passage :: rest =>
    passage.request.Fits current ∧ passage.request.frame = .ok passage.frame ∧
      (passage.stage = .settled → Fitting (passage.request.parcel.after current) rest)

/-- The frames that a server has got in full, as it understands them. -/
def received (passages : List Passage) : List Framing.Parcel :=
  (passages.filter (·.stage.isWhole)).map (·.request.parcel)

/-- What is left of a stream of frames: nothing, or the beginning of the last frame. -/
def Remainder (passages : List Passage) (left : List UInt8) : Prop :=
  left = [] ∨ ∃ last ∈ passages.getLast?,
    last.stage = .writing ∧ left <+: last.frame ∧ left ≠ last.frame

theorem received_cons {passage : Passage} (whole : passage.stage.isWhole) (passages : List Passage) :
    received (passage :: passages) = passage.request.parcel :: received passages := by
  simp [received, whole]

theorem Remainder.cons {passages : List Passage} {left : List UInt8}
    (remainder : Remainder passages left) (passage : Passage) :
    Remainder (passage :: passages) left := by
  rcases remainder with empty | ⟨last, ends, cut⟩
  · exact .inl empty
  · cases passages with
    | nil => cases ends
    | cons second passages => exact .inr ⟨last, by rwa [List.getLast?_cons_cons], cut⟩

theorem Remainder.eq_nil {passages : List Passage} {left : List UInt8}
    (remainder : Remainder passages left)
    (all : ∀ passage ∈ passages, passage.stage = .settled) : left = [] := by
  rcases remainder with empty | ⟨last, ends, writing, -⟩
  · exact empty
  · have settled := all last (List.mem_of_getLast? ends)
    rw [writing] at settled
    cases settled

theorem received_of_settled {passages : List Passage}
    (all : ∀ passage ∈ passages, passage.stage = .settled) :
    received passages = passages.map (·.request.parcel) := by
  unfold received
  rw [List.filter_eq_self.mpr]
  intro passage member
  rw [all passage member]
  rfl

theorem filterMap_settled?_of_settled {passages : List Passage}
    (all : ∀ passage ∈ passages, passage.stage = .settled) :
    passages.filterMap Passage.settled? = passages.map Passage.request := by
  induction passages with
  | nil => rfl
  | cons first rest ih =>
    obtain ⟨settled, later⟩ := List.forall_mem_cons.mp all
    have answered : first.settled? = some first.request := if_pos settled
    rw [List.filterMap_cons_some answered, ih later, List.map_cons]

theorem Orderly.read_output {passages : List Passage} {trace : Trace} {current : Framing.Current}
    (orderly : Orderly passages trace) (fitting : Fitting current passages) :
    ∃ left : List UInt8, Remainder passages left ∧
      Framing.read current trace.output =
        ⟨received passages, (received passages).foldl Framing.Parcel.after current, left⟩ := by
  -- each select that is read changes what the server cuts by, so the induction is for all of them
  induction orderly generalizing current with
  | silent => exact ⟨[], .inl rfl, Framing.read_nil current⟩
  | shutDown => exact ⟨[], .inl rfl, Framing.read_nil current⟩
  | @settled passage passages first later settled course rest ih =>
    obtain ⟨fits, framed, further⟩ := fitting
    obtain ⟨left, remainder, reading⟩ := ih (further settled)
    have whole : passage.stage.isWhole := by rw [settled]; rfl
    refine ⟨left, remainder.cons passage, ?_⟩
    rw [Trace.output_append, course.output_of_whole whole,
      Framing.read_append (Framing.parcel_decodes fits framed), reading, received_cons whole]
    rfl
  | @stopped passage first later short course rest =>
    obtain ⟨fits, framed, -⟩ := fitting
    have understood := Framing.parcel_decodes fits framed
    rw [Trace.output_append, rest.output_eq_nil]
    by_cases whole : passage.stage.isWhole
    · -- the frame is there in full, whether or not its reply was read
      refine ⟨[], .inl rfl, ?_⟩
      rw [course.output_of_whole whole, Framing.read_append understood, Framing.read_nil,
        received_cons whole]
      rfl
    · generalize stage : passage.stage = reached at course
      cases course with
      | writing writes front cut =>
        refine ⟨first.output, .inr ⟨passage, rfl, stage, front, cut⟩, ?_⟩
        rw [List.append_nil, Framing.read_part understood front cut]
        simp [received, whole]
      | flushing | awaiting | settled => exact absurd (by rw [stage]; rfl) whole

/-! ### The selects of a run -/

namespace Link

theorem Step.fitting {link next : Link} {passage : Passage} {trace : Trace}
    (step : Step link (some passage) trace next) :
    passage.request.frameFor link.selection = .ok passage.frame ∧
      (passage.stage = .settled →
        next.selection = passage.request.selectionAfter link.selection) ∧
      (passage.stage ≠ .settled → next.phase ≠ .ready) := by
  cases step with
  | settled framed settled course =>
    exact ⟨framed, fun _ => rfl, fun short => absurd settled short⟩
  | stopped framed short course busy =>
    exact ⟨framed, fun settled => absurd settled short, fun _ => busy⟩

-- An exchange in front of a run that ends ready has settled.
theorem Step.settled_of_ready {link next : Link} {passage : Passage} {trace : Trace}
    (step : Step link (some passage) trace next) {calls : List (Call × Patience)}
    (ready : (next.after calls).phase = .ready) :
    passage.stage = .settled ∧
      next.selection = passage.request.selectionAfter link.selection := by
  obtain ⟨-, follows, stops⟩ := step.fitting
  by_cases settled : passage.stage = .settled
  · exact ⟨settled, follows settled⟩
  · exact absurd ready (phase_after_ne_ready (stops settled) calls)

theorem passages_fitting (link : Link) (calls : List (Call × Patience)) :
    Fitting link.selection.current (link.passages calls) := by
  induction calls generalizing link with
  | nil => trivial
  | cons head rest ih =>
    obtain ⟨call, patience⟩ := head
    obtain ⟨trace, -, step⟩ := link.run_step call patience
    have further := ih (link.run call patience).link
    rw [passages]
    cases begins : link.passage? call patience with
    | none =>
      rw [begins] at step
      rw [step.selection_eq] at further
      exact further
    | some passage =>
      rw [begins] at step
      obtain ⟨framed, follows, -⟩ := step.fitting
      refine ⟨Request.fits_of_frameFor framed, Request.frame_of_frameFor framed, ?_⟩
      -- only a settled select moves the link on, and that is what the server has read
      intro settled
      rw [follows settled, ← Request.after_current] at further
      exact further

theorem ready_after (link : Link) (calls : List (Call × Patience))
    (ready : (link.after calls).phase = .ready) :
    (∀ passage ∈ link.passages calls, passage.stage = .settled) ∧
      ((link.passages calls).map (·.request.parcel)).foldl Framing.Parcel.after
        link.selection.current = (link.after calls).selection.current := by
  induction calls generalizing link with
  | nil => exact ⟨by simp [passages], rfl⟩
  | cons head rest ih =>
    obtain ⟨call, patience⟩ := head
    obtain ⟨trace, -, step⟩ := link.run_step call patience
    obtain ⟨all, selects⟩ := ih _ ready
    rw [passages, after]
    cases begins : link.passage? call patience with
    | none =>
      rw [begins] at step
      rw [step.selection_eq] at selects
      exact ⟨all, selects⟩
    | some passage =>
      rw [begins] at step
      obtain ⟨settled, follows⟩ := step.settled_of_ready ready
      rw [follows, ← Request.after_current] at selects
      exact ⟨List.forall_mem_cons.mpr ⟨settled, all⟩, selects⟩

end Link

namespace Opening

-- A link that was not opened does not become ready, and nothing is sent on it.
theorem phase_ne_ready_of_unsent (opening : Opening) (unsent : opening.passage? = none) :
    opening.turn.link.phase ≠ .ready := by
  obtain ⟨-, trace, -, step⟩ := opening.turn_step
  rw [unsent] at step
  exact step.phase_ne_ready (by simp [fresh, Link.fresh])

-- Before its first select, a server may keep whatever it likes.
theorem passages_fitting (opening : Opening) (calls : List (Call × Patience))
    (start : Framing.Current) : Fitting start (opening.passages calls) := by
  unfold passages
  cases begins : opening.passage? with
  | none =>
    have mute := Link.mute_of_phase (opening.phase_ne_ready_of_unsent begins)
    rw [mute.passages_eq_nil]
    trivial
  | some passage =>
    obtain ⟨-, trace, -, step⟩ := opening.turn_step
    rw [begins] at step
    obtain ⟨framed, follows, -⟩ := step.fitting
    obtain ⟨same, -⟩ := Link.begun?_spec begins
    refine ⟨?_, Request.frame_of_frameFor framed, ?_⟩
    · -- a select carries no vector, so it fits whatever the server keeps
      rw [same]
      intro vector carried
      cases carried
    · intro settled
      have further := opening.turn.link.passages_fitting calls
      rw [follows settled, same] at further
      rw [same]
      exact further

theorem ready_after (opening : Opening) (calls : List (Call × Patience)) (start : Framing.Current)
    (ready : (opening.after calls).phase = .ready) :
    (∀ passage ∈ opening.passages calls, passage.stage = .settled) ∧
      ((opening.passages calls).map (·.request.parcel)).foldl Framing.Parcel.after start =
        (opening.after calls).selection.current := by
  obtain ⟨all, selects⟩ := opening.turn.link.ready_after calls ready
  unfold passages
  cases begins : opening.passage? with
  | none =>
    exact absurd ready
      (Link.phase_after_ne_ready (opening.phase_ne_ready_of_unsent begins) calls)
  | some passage =>
    obtain ⟨-, trace, -, step⟩ := opening.turn_step
    rw [begins] at step
    obtain ⟨settled, follows⟩ := step.settled_of_ready ready
    obtain ⟨same, -⟩ := Link.begun?_spec begins
    refine ⟨List.forall_mem_cons.mpr ⟨settled, all⟩, ?_⟩
    rw [follows, same] at selects
    rw [Option.toList_some, List.singleton_append, List.map_cons, same]
    exact selects

/-- Client and server agree, for every transport and every run of calls, whenever their callers walk
away. A server that cuts up what it received by the selects in it finds the frames that were
written in full, and perhaps the beginning of one more. When the link is ready it finds exactly the
requests that were answered, with nothing left over, and keeps the select of the link. -/
theorem framing_agrees (opening : Opening) (calls : List (Call × Patience))
    (start : Framing.Current) :
    ∃ bytes : List UInt8,
      (opening.after calls).transport.written = opening.transport.written ++ bytes ∧
      ((opening.after calls).phase = .ready →
        (opening.passages calls).map Passage.request = opening.answered calls ∧
        Framing.read start bytes = ⟨(opening.answered calls).map Request.parcel,
          (opening.after calls).selection.current, []⟩ ∧
        Framing.parse start.dimension bytes = (opening.answered calls, [])) ∧
      (Framing.read start bytes).parcels = received (opening.passages calls) ∧
      Remainder (opening.passages calls) (Framing.read start bytes).left := by
  obtain ⟨trace, between, orderly⟩ := opening.after_orderly calls
  have fitting := opening.passages_fitting calls
  refine ⟨trace.output, between.written_eq, ?_, ?_⟩
  · intro ready
    have sent : (opening.passages calls).map Passage.request = opening.answered calls := by
      rw [← filterMap_settled?_of_settled (opening.ready_after calls start ready).1,
        opening.filterMap_settled?]
    -- for any select the server has kept from earlier, since the opening sends one of its own
    have whole (current : Framing.Current) : Framing.read current trace.output =
        ⟨(opening.answered calls).map Request.parcel,
          (opening.after calls).selection.current, []⟩ := by
      obtain ⟨all, selects⟩ := opening.ready_after calls current ready
      obtain ⟨left, remainder, reading⟩ := orderly.read_output (fitting current)
      rw [reading, remainder.eq_nil all, received_of_settled all, selects, ← sent, List.map_map]
      rfl
    refine ⟨sent, whole start, ?_⟩
    unfold Framing.parse
    rw [whole]
    rw [Prod.mk.injEq]
    exact ⟨Framing.filterMap_request?_parcel _, rfl⟩
  · obtain ⟨left, remainder, reading⟩ := orderly.read_output (fitting start)
    rw [reading]
    exact ⟨rfl, remainder⟩

end Opening

end VectorLink
