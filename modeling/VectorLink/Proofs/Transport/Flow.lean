import VectorLink.Proofs.Transport.Kept
import VectorLink.Proofs.Transport.Pieces

/-! The stream behind a script of reads.

A script says in which pieces the bytes come and where a read is interrupted on the way. Its flow
forgets both: the bytes are single, and the ends, failures and waits stand between them in their
places. `Flow.draw` takes so many bytes off a flow, one at a time. All reading of a known length goes
as `draw` does, so nothing above a transport can tell how its stream was cut.
-/

set_option autoImplicit false

namespace VectorLink

/-- A stream byte by byte; an answer without a byte is an end of the stream. -/
abbrev Flow := List (Event (Option UInt8))

namespace Flow

def ofBytes (bytes : List UInt8) : Flow := bytes.map fun byte => .answer (some byte)

def ofEvent : Event Delivery → Flow
  | .answer (.data bytes) => ofBytes bytes
  | .answer .endOfStream => [.answer none]
  | .failure cause => if cause.kind = .interrupted then [] else [.failure cause]
  | .pause millis => [.pause millis]
  | .hang => [.hang]

def ofScript (events : List (Event Delivery)) : Flow := events.flatMap ofEvent

def bytes (flow : Flow) : List UInt8 :=
  flow.filterMap fun
    | .answer byte => byte
    | .failure _ | .pause _ | .hang => none

@[simp] theorem ofBytes_nil : ofBytes [] = [] := rfl

@[simp] theorem ofBytes_cons (byte : UInt8) (rest : List UInt8) :
    ofBytes (byte :: rest) = .answer (some byte) :: ofBytes rest := rfl

@[simp] theorem ofBytes_append (first second : List UInt8) :
    ofBytes (first ++ second) = ofBytes first ++ ofBytes second := List.map_append

@[simp] theorem ofScript_nil : ofScript [] = [] := rfl

@[simp] theorem ofScript_cons (event : Event Delivery) (rest : List (Event Delivery)) :
    ofScript (event :: rest) = ofEvent event ++ ofScript rest := rfl

@[simp] theorem bytes_append (first second : Flow) :
    bytes (first ++ second) = bytes first ++ bytes second := List.filterMap_append

@[simp] theorem bytes_ofBytes (all : List UInt8) : bytes (ofBytes all) = all := by
  unfold bytes ofBytes
  rw [List.filterMap_map]
  exact List.filterMap_some

end Flow

/-- An event in front of a script without loose ends: data joins the data behind it, and what brings
nothing is left out. -/
def Event.absorb : Event Delivery → List (Event Delivery) → List (Event Delivery)
  | .answer (.data []), rest => rest
  | .answer (.data bytes), .answer (.data more) :: rest => .answer (.data (bytes ++ more)) :: rest
  | .failure cause, rest => if cause.kind = .interrupted then rest else .failure cause :: rest
  | event, rest => event :: rest

def Event.condense (events : List (Event Delivery)) : List (Event Delivery) :=
  events.foldr absorb []

namespace Flow

theorem ofScript_absorb (event : Event Delivery) (rest : List (Event Delivery)) :
    ofScript (event.absorb rest) = ofEvent event ++ ofScript rest := by
  fun_cases Event.absorb event rest with
  | case1 rest => rfl
  | case2 bytes more rest nonempty =>
    rw [ofScript_cons, ofScript_cons, ← List.append_assoc]
    exact congrArg (· ++ ofScript rest) (ofBytes_append bytes more)
  | case3 cause rest interrupted =>
    rw [ofEvent, if_pos interrupted]
    rfl
  | case4 cause rest final => rfl
  | case5 event rest => rfl

theorem ofScript_condense (events : List (Event Delivery)) :
    ofScript (Event.condense events) = ofScript events := by
  induction events with
  | nil => rfl
  | cons event rest ih =>
    show ofScript (event.absorb (Event.condense rest)) = _
    rw [ofScript_absorb, ih, ofScript_cons]

/-! ### Drawing bytes -/

structure Drawn where
  ending : Ending Shortage (List UInt8)
  clock : Nat
  left : Flow
  deriving DecidableEq, Repr

end Flow

def Shortage.ofFailure (received : Nat) (cause : IoFault) : Shortage :=
  if cause.kind.isDisconnect then ended received else broken cause

namespace Flow

/-- Draws bytes one at a time in front of those in `got`, which are kept last byte first. -/
def draw (deadline : Deadline) : Nat → Nat → List UInt8 → Flow → Drawn
  | clock, 0, got, flow => ⟨.done got, clock, flow⟩
  | clock, _ + 1, got, [] => ⟨.failed (.ended got.length), clock, []⟩
  | clock, missing + 1, got, .answer (some byte) :: rest =>
    draw deadline clock missing (byte :: got) rest
  | clock, _ + 1, got, .answer none :: rest => ⟨.failed (.ended got.length), clock, rest⟩
  | clock, _ + 1, got, .failure cause :: rest => ⟨.failed (.ofFailure got.length cause), clock, rest⟩
  | clock, missing + 1, got, .pause millis :: rest =>
    if deadline.Admits (clock + millis) then draw deadline (clock + millis) (missing + 1) got rest
    else
      let stop := max clock (deadline.getD clock)
      ⟨.waiting, stop, .pause (clock + millis - stop) :: rest⟩
  | clock, _ + 1, _, .hang :: rest => ⟨.waiting, max clock (deadline.getD clock), .hang :: rest⟩

def Drawn.more (deadline : Deadline) (missing : Nat) (drawn : Drawn) : Drawn :=
  match drawn.ending with
  | .done got => draw deadline drawn.clock missing got drawn.left
  | .failed _ | .waiting => drawn

def Drawn.inOrder (drawn : Drawn) : Drawn :=
  { drawn with ending := Transport.inOrder drawn.ending }

variable {deadline : Deadline}

@[simp] theorem draw_zero (clock : Nat) (got : List UInt8) (flow : Flow) :
    draw deadline clock 0 got flow = ⟨.done got, clock, flow⟩ := by
  unfold draw
  rfl

theorem draw_ofBytes (clock missing : Nat) (got first : List UInt8) (flow : Flow)
    (within : first.length ≤ missing) :
    draw deadline clock missing got (ofBytes first ++ flow) =
      draw deadline clock (missing - first.length) (first.reverse ++ got) flow := by
  induction first generalizing missing got with
  | nil => rfl
  | cons byte rest ih =>
    cases missing with
    | zero => simp at within
    | succ missing =>
      have within : rest.length ≤ missing := by simpa using within
      rw [ofBytes_cons, List.cons_append, draw, ih missing (byte :: got) within, List.length_cons,
        Nat.add_sub_add_right, List.reverse_cons, List.append_assoc]
      rfl

theorem draw_add (clock later first : Nat) (got : List UInt8) (flow : Flow) :
    draw deadline clock (later + first) got flow =
      (draw deadline clock first got flow).more deadline later := by
  fun_induction draw deadline clock first got flow with
  | case3 clock missing got byte rest ih => exact ih
  | case6 clock missing got millis rest inTime ih => exact (if_pos inTime).trans ih
  | case7 clock missing got millis rest late stop => exact if_neg late
  | case1 | case2 | case4 | case5 | case8 => rfl

/-- Where a call meets something on a script, a draught meets the same on its flow. -/
theorem draw_meet (clock missing : Nat) (got : List UInt8) (events : List (Event Delivery)) :
    draw deadline clock (missing + 1) got (ofScript events) =
      let meeting := Event.meet Delivery.isEmptyData deadline clock events
      match meeting.encounter with
      | .answer (.data bytes) =>
        draw deadline meeting.clock (missing + 1) got (ofBytes bytes ++ ofScript meeting.rest)
      | .answer .endOfStream | .exhausted =>
        ⟨.failed (.ended got.length), meeting.clock, ofScript meeting.rest⟩
      | .failure cause =>
        if cause.kind = .interrupted then
          draw deadline meeting.clock (missing + 1) got (ofScript meeting.rest)
        else ⟨.failed (.ofFailure got.length cause), meeting.clock, ofScript meeting.rest⟩
      | .waiting => ⟨.waiting, meeting.clock, ofScript meeting.rest⟩ := by
  fun_induction Event.meet Delivery.isEmptyData deadline clock events with
  | case1 clock => rfl
  | case2 clock value rest idle ih =>
    -- an empty delivery adds nothing to the flow
    cases value with
    | data bytes =>
      cases bytes with
      | nil => exact ih
      | cons byte bytes => cases idle
    | endOfStream => cases idle
  | case3 clock value rest busy =>
    cases value with
    | data bytes => rfl
    | endOfStream => rfl
  | case4 clock cause rest =>
    rw [ofScript_cons, ofEvent]
    dsimp only
    split <;> rfl
  | case5 clock millis rest inTime ih =>
    rw [← ih, ofScript_cons]
    exact if_pos inTime
  | case6 clock millis rest late stop => exact if_neg late
  | case7 clock rest => rfl

end Flow

namespace Transport

open VectorLink.Flow (ofScript draw)

def drawn (result : Ending Shortage (List UInt8) × Transport) : Flow.Drawn :=
  ⟨result.1, result.2.clock, ofScript result.2.reads⟩

theorem not_isEmptyData_of_meet {deadline : Deadline} {clock : Nat}
    {events : List (Event Delivery)} {delivery : Delivery}
    (met : (Event.meet Delivery.isEmptyData deadline clock events).encounter = .answer delivery) :
    delivery.isEmptyData = false := by
  fun_induction Event.meet Delivery.isEmptyData deadline clock events <;> grind

theorem reach_pos (transport : Transport) {window : Nat} (missing : window ≠ 0) :
    0 < transport.reach window := by
  unfold reach
  split <;> omega

theorem reach_le (transport : Transport) (window : Nat) : transport.reach window ≤ window := by
  unfold reach
  split <;> omega

theorem read_data {deadline : Deadline} {transport : Transport} {all : List UInt8}
    (met : (Event.meet Delivery.isEmptyData deadline transport.clock transport.reads).encounter =
      .answer (.data all)) (buffer window : Nat) :
    ∃ after : Transport,
      read buffer window deadline transport = (.done (all.take (transport.reach window)), after) ∧
        after.clock = (Event.meet Delivery.isEmptyData deadline transport.clock transport.reads).clock ∧
        after.history = .received (all.take (transport.reach window)) :: .asked buffer window ::
          transport.history ∧
        ofScript after.reads = Flow.ofBytes (all.drop (transport.reach window)) ++
          ofScript (Event.meet Delivery.isEmptyData deadline transport.clock transport.reads).rest := by
  unfold read
  dsimp only
  rw [met]
  dsimp only
  cases left : all.drop (transport.reach window) with
  | nil => exact ⟨_, rfl, rfl, rfl, rfl⟩
  | cons byte more => exact ⟨_, rfl, rfl, rfl, rfl⟩

def drawBehind (deadline : Deadline) (window : Nat) (got : List UInt8) :
    Ending IoFault (List UInt8) × Transport → Flow.Drawn
  | (.done [], after) => ⟨.failed (.ended got.length), after.clock, ofScript after.reads⟩
  | (.done (byte :: more), after) =>
    draw deadline after.clock (window - (more.length + 1)) (more.reverseAux (byte :: got))
      (ofScript after.reads)
  | (.failed cause, after) =>
    if cause.kind = .interrupted then draw deadline after.clock window got (ofScript after.reads)
    else ⟨.failed (.ofFailure got.length cause), after.clock, ofScript after.reads⟩
  | (.waiting, after) => ⟨.waiting, after.clock, ofScript after.reads⟩

-- A read that brings bytes: what it leaves of its delivery stays in front.
theorem draw_of_taken {deadline : Deadline} {clock window reach : Nat} {got bytes : List UInt8}
    {rest : List (Event Delivery)} (nonempty : bytes ≠ []) (positive : 0 < reach) (near : reach ≤ window)
    {after : Transport} (clock_eq : after.clock = clock)
    (left : ofScript after.reads = Flow.ofBytes (bytes.drop reach) ++ ofScript rest) :
    draw deadline clock window got (Flow.ofBytes bytes ++ ofScript rest) =
      drawBehind deadline window got (.done (bytes.take reach), after) := by
  have within : (bytes.take reach).length ≤ window := by
    rw [List.length_take]
    omega
  have whole := List.take_append_drop reach bytes
  rw [← whole, Flow.ofBytes_append, List.append_assoc, Flow.draw_ofBytes _ _ _ _ _ within,
    whole, ← left, ← clock_eq]
  cases taken : bytes.take reach with
  | nil =>
    rcases List.take_eq_nil_iff.mp taken with zero | empty
    · omega
    · exact absurd empty nonempty
  | cons byte more =>
    show _ = draw deadline after.clock (window - (more.length + 1)) (more.reverseAux (byte :: got)) _
    rw [List.reverseAux_eq, List.length_cons, List.reverse_cons, List.append_assoc]
    rfl

theorem draw_eq_drawBehind (deadline : Deadline) (buffer : Nat) {window : Nat} (missing : window ≠ 0)
    (got : List UInt8) (transport : Transport) :
    draw deadline transport.clock window got (ofScript transport.reads) =
      drawBehind deadline window got (read buffer window deadline transport) := by
  obtain ⟨fewer, rfl⟩ := Nat.exists_eq_succ_of_ne_zero missing
  rw [Flow.draw_meet]
  cases met : (Event.meet Delivery.isEmptyData deadline transport.clock transport.reads).encounter with
  | answer delivery =>
    have full := not_isEmptyData_of_meet met
    cases delivery with
    | data all =>
      have nonempty : all ≠ [] := by
        rintro rfl
        cases full
      obtain ⟨after, run, clock, -, left⟩ := read_data met buffer (fewer + 1)
      rw [run]
      dsimp only
      rw [met]
      exact draw_of_taken nonempty (transport.reach_pos missing) (transport.reach_le _) clock left
    | endOfStream => simp [read, met, drawBehind, note]
  | failure cause => simp [read, met, drawBehind, note]
  | waiting => simp [read, met, drawBehind, note]
  | exhausted => simp [read, met, drawBehind, note]

/-! ### Whole fields -/

theorem drawn_fill (deadline : Deadline) (buffer window : Nat) (got : List UInt8)
    (transport : Transport) :
    drawn (fill buffer deadline window got transport) =
      draw deadline transport.clock window got (ofScript transport.reads) := by
  fun_induction fill buffer deadline window got transport with
  | case1 got transport => rw [Flow.draw_zero]; rfl
  | case2 window got transport missing after step =>
    rw [draw_eq_drawBehind deadline buffer missing, step]
    rfl
  | case3 window got transport missing byte more after step ih =>
    rw [draw_eq_drawBehind deadline buffer missing, step, ih]
    rfl
  | case4 window got transport missing cause after step interrupted ih =>
    rw [draw_eq_drawBehind deadline buffer missing, step, ih]
    exact (if_pos interrupted).symm
  | case5 window got transport missing cause after step final gone =>
    rw [draw_eq_drawBehind deadline buffer missing, step]
    simp [drawn, drawBehind, final, Shortage.ofFailure, gone]
  | case6 window got transport missing cause after step final there =>
    rw [draw_eq_drawBehind deadline buffer missing, step]
    simp [drawn, drawBehind, final, Shortage.ofFailure, there]
  | case7 window got transport missing after step =>
    rw [draw_eq_drawBehind deadline buffer missing, step]
    rfl

theorem drawn_readField (length : Nat) (deadline : Deadline) (transport : Transport) :
    drawn (readField length deadline transport) =
      (draw deadline transport.clock length [] (ofScript transport.reads)).inOrder := by
  rw [← drawn_fill deadline length]
  unfold readField
  rcases fill length deadline length [] transport with ⟨ending, after⟩
  cases ending <;> rfl

/-- The buffer grows in steps, but the bytes are drawn as if it were there at once. -/
theorem drawn_readOn (length start : Nat) (got : List UInt8) (deadline : Deadline)
    (transport : Transport) :
    drawn (readOn length deadline start got transport) =
      (draw deadline transport.clock (length - start) got (ofScript transport.reads)).inOrder := by
  fun_induction readOn length deadline start got transport with
  | case1 start got transport more buffer all after step ih =>
    have split : length - start = (length - buffer) + (buffer - start) := by omega
    rw [split, Flow.draw_add, ← drawn_fill deadline buffer, step, ih]
    rfl
  | case2 start got transport more buffer shortage after step =>
    have split : length - start = (length - buffer) + (buffer - start) := by omega
    rw [split, Flow.draw_add, ← drawn_fill deadline buffer, step]
    rfl
  | case3 start got transport more buffer after step =>
    have split : length - start = (length - buffer) + (buffer - start) := by omega
    rw [split, Flow.draw_add, ← drawn_fill deadline buffer, step]
    rfl
  | case4 start got transport full =>
    rw [Nat.sub_eq_zero_of_le (Nat.le_of_not_lt full), Flow.draw_zero]
    rfl

theorem drawn_readWhole (length : Nat) (deadline : Deadline) (transport : Transport) :
    drawn (readWhole length deadline transport) =
      (draw deadline transport.clock length [] (ofScript transport.reads)).inOrder :=
  drawn_readOn length 0 [] deadline transport

/-! ### Nothing is lost -/

def receivedIn : List Act → List UInt8
  | [] => []
  | .received bytes :: earlier => receivedIn earlier ++ bytes
  | _ :: earlier => receivedIn earlier

def received (transport : Transport) : List UInt8 := receivedIn transport.history

def stream (transport : Transport) : List UInt8 :=
  transport.received ++ Flow.bytes (ofScript transport.reads)

end Transport

def Encounter.bytes : Encounter Delivery → List UInt8
  | .answer (.data bytes) => bytes
  | .answer .endOfStream | .failure _ | .waiting | .exhausted => []

theorem Flow.bytes_meet (deadline : Deadline) (clock : Nat) (events : List (Event Delivery)) :
    bytes (ofScript events) =
      (Event.meet Delivery.isEmptyData deadline clock events).encounter.bytes ++
        bytes (ofScript (Event.meet Delivery.isEmptyData deadline clock events).rest) := by
  fun_induction Event.meet Delivery.isEmptyData deadline clock events with
  | case2 clock value rest idle ih =>
    cases value with
    | data bytes =>
      cases bytes with
      | nil => exact ih
      | cons byte bytes => cases idle
    | endOfStream => cases idle
  | case3 clock value rest busy =>
    cases value with
    | data all => rw [ofScript_cons, bytes_append, ofEvent, bytes_ofBytes]; rfl
    | endOfStream => rfl
  | case4 clock cause rest =>
    rw [ofScript_cons, bytes_append, ofEvent]
    split <;> rfl
  | case5 clock millis rest inTime ih => exact ih
  | case1 | case6 | case7 => rfl

namespace Transport

theorem read_keeps_stream (buffer window : Nat) : (read buffer window).Keeps stream := by
  intro deadline transport
  have before := Flow.bytes_meet deadline transport.clock transport.reads
  cases met : (Event.meet Delivery.isEmptyData deadline transport.clock transport.reads).encounter with
  | answer delivery =>
    rw [met] at before
    cases delivery with
    | data all =>
      obtain ⟨after, run, -, history, left⟩ := read_data met buffer window
      rw [run]
      have more : after.received = transport.received ++ all.take (transport.reach window) := by
        rw [received, history]
        rfl
      unfold stream
      rw [more, left, Flow.bytes_append, Flow.bytes_ofBytes, before, List.append_assoc,
        ← List.append_assoc (all.take _), List.take_append_drop]
      rfl
    | endOfStream => simp [read, met, stream, received, receivedIn, note, before, Encounter.bytes]
  | failure cause | waiting | exhausted =>
    rw [met] at before
    simp [read, met, stream, received, receivedIn, note, before, Encounter.bytes]

theorem write_keeps_stream (offered : List UInt8) : (write offered).Keeps stream := by
  intro deadline transport
  unfold write
  dsimp only
  split <;> rfl

theorem flush_keeps_stream : flush.Keeps stream := by
  intro deadline transport
  unfold flush
  dsimp only
  split <;> rfl

theorem read_keeps_written (buffer window : Nat) : (read buffer window).Keeps written := by
  intro deadline transport
  unfold read
  dsimp only
  split
  · split <;> rfl
  all_goals rfl

end Transport

end VectorLink
