import VectorLink.Proofs.Link.Answers
import VectorLink.Proofs.Link.FirstFault
import VectorLink.Proofs.Transport.Arrival
import VectorLink.Proofs.Transport.Takes
import VectorLink.Proofs.Wire.Reply

/-! A ranking is no longer than was asked for, whatever its count says.

The count is the one length in a reply that the server chooses. It is looked at before anything is
read that depends on it: a count above the number asked for ends the exchange at once, and any other
is a length that a client has asked for itself.
-/

set_option autoImplicit false

namespace VectorLink

/-! ### Parts that break off -/

/-- The activity has not come to its end, and no broken rule of the protocol is what stopped it. -/
inductive Ending.BreaksOff {α : Type} : Ending Fault α → Prop where
  | failed {fault : Fault} : (∀ detail, fault ≠ .violation detail) → BreaksOff (.failed fault)
  | waiting : BreaksOff .waiting

theorem Activity.bind_of_breaksOff {α β : Type} {first : Activity Fault α} {deadline : Deadline}
    {before after : Transport} {ending : Ending Fault α}
    (run : first deadline before = (ending, after)) (breaks : ending.BreaksOff)
    (next : α → Activity Fault β) :
    ∃ later : Ending Fault β, (first >>= next) deadline before = (later, after) ∧
      later.BreaksOff := by
  cases breaks with
  | failed other => exact ⟨_, bind_of_failed run, .failed other⟩
  | waiting => exact ⟨_, bind_of_waiting run, .waiting⟩

theorem Activity.FailsWith.breaksOff {α : Type} {activity : Activity Fault α} {deadline : Deadline}
    {before after : Transport} {ending : Ending Fault α}
    (fails : activity.FailsWith fun fault => ∀ detail, fault ≠ .violation detail)
    (run : activity deadline before = (ending, after)) (unfinished : ∀ value, ending ≠ .done value) :
    ending.BreaksOff := by
  cases ending with
  | done value => exact absurd rfl (unfinished value)
  | failed fault => exact .failed (fails _ _ _ _ run)
  | waiting => exact .waiting

theorem Shortage.failsWith {α : Type} (length : Nat) (activity : Activity Shortage α) :
    (activity.mapError (Shortage.fault length)).FailsWith
      fun fault => ∀ detail, fault ≠ .violation detail := by
  apply Activity.failsWith_mapError
  intro shortage
  cases shortage <;> nofun

/-! ### Sending reads nothing -/

namespace Transport

theorem write_keeps_received (offered : List UInt8) : (write offered).Keeps received := by
  intro deadline transport
  unfold write
  dsimp only
  split <;> rfl

theorem flush_keeps_received : flush.Keeps received := by
  intro deadline transport
  unfold flush
  dsimp only
  split <;> rfl

theorem deliver_keeps_received (frame : List UInt8) : (deliver frame).Keeps received :=
  deliver_keeps write_keeps_received flush_keeps_received frame

theorem deliver_failsWith (frame : List UInt8) :
    (deliver frame).FailsWith fun fault => ∀ detail, fault ≠ .violation detail := by
  apply Activity.failsWith_mapError
  intro cause
  unfold Fault.ofIo
  split <;> nofun

end Transport

namespace Reply

def announced (front : List UInt8) : Nat := LittleEndian.decode (front.take countLength)

theorem rankingLength_eq_toNat (count : UInt32) :
    (count.toUInt64 * UInt64.ofNat idLength).toNat = rankingLength count := by
  have small : count.toNat * 4 < 2 ^ 64 := by
    have := count.toNat_lt
    omega
  rw [UInt64.toNat_mul]
  exact Nat.mod_eq_of_lt small

theorem rest_text_ne (length count most : Nat) :
    s!"id list of {length} bytes is not a multiple of {idLength}" ≠
      s!"search_n returned {count} results, requested at most {most}" := by
  intro same
  have first := congrArg (fun text : String => text.toList.head?) same
  simp [String.toList_append, toString] at first

theorem count_eq {bytes : List UInt8} {requested : UInt32} (width : bytes.length = countLength)
    (few : LittleEndian.decode bytes ≤ requested.toNat) :
    ∃ count : UInt32, Reply.count bytes requested = .ok count ∧
      count.toNat = LittleEndian.decode bytes := by
  have accepted := count_encode few
  rw [← width, LittleEndian.encode_decode] at accepted
  exact ⟨_, accepted, Request.toNat_count width accepted⟩

end Reply

/-! ### How a ranking is read -/

namespace Request

open Transport (draws_readField draws_readWhole)
open Reply (announced idBytes)

theorem field_arrives (length : Nat) (deadline : Deadline) (before : Transport) :
    Transport.Arrives length deadline before (field length deadline before) :=
  ((draws_readField length).arrives (.field length) deadline before).mapError _

def listing (count : UInt32) : Activity Fault (List Int32) := do
  if count = 0 then return []
  let length := Reply.rankingLength count
  let body ← Activity.mapError (Shortage.fault length) (Transport.readWhole length)
  Activity.ofExcept (Reply.ranking body)

theorem ranking_eq (requested : UInt32) :
    ranking requested = (do
      let leading ← field Reply.countLength
      let count ← Activity.ofExcept (Reply.count leading requested)
      listing count) := rfl

inductive Lists (count : UInt32) (deadline : Deadline) (before : Transport) :
    Ending Fault (List Int32) × Transport → Prop where
  | short {after : Transport} {ending : Ending Fault (List Int32)} :
      (before.arrivals deadline).length < 4 * count.toNat →
      after.received = before.received ++ before.arrivals deadline →
      ending.BreaksOff → Lists count deadline before (ending, after)
  | all {after : Transport} {ids : List Int32} :
      4 * count.toNat ≤ (before.arrivals deadline).length →
      after.received = before.received ++ (before.arrivals deadline).take (4 * count.toNat) →
      ids.length = count.toNat →
      ids.flatMap idBytes = (before.arrivals deadline).take (4 * count.toNat) →
      Lists count deadline before (.done ids, after)

theorem rankingLength_eq (count : UInt32) : Reply.rankingLength count = 4 * count.toNat :=
  Nat.mul_comm ..

theorem ranking_body {count : UInt32} {body : List UInt8}
    (width : body.length = Reply.rankingLength count) :
    ∃ ids : List Int32, Reply.ranking body = .ok ids ∧ ids.length = count.toNat ∧
      ids.flatMap idBytes = body := by
  have whole : Reply.idLength ∣ body.length := by
    rw [width]
    exact Nat.dvd_mul_left ..
  obtain ⟨ids, read, row, length⟩ := Reply.exists_ranking whole
  refine ⟨ids, read, ?_, row⟩
  rw [length, width, Reply.rankingLength, Nat.mul_div_cancel _ (by decide)]

theorem listing_lists (count : UInt32) (deadline : Deadline) (before : Transport) :
    Lists count deadline before (listing count deadline before) := by
  unfold listing
  dsimp only
  split
  · rename_i zero
    subst zero
    exact .all (Nat.zero_le _) (List.append_nil _).symm rfl rfl
  · have body := ((draws_readWhole (Reply.rankingLength count)).arrives (.whole _) deadline
      before).mapError (Shortage.fault (Reply.rankingLength count))
    rcases run : Activity.mapError (Shortage.fault (Reply.rankingLength count))
      (Transport.readWhole (Reply.rankingLength count)) deadline before with ⟨ending, after⟩
    rw [run] at body
    cases body with
    | short short received unfinished =>
      have breaks := (Shortage.failsWith _ _).breaksOff run unfinished
      obtain ⟨later, goes, breaks⟩ := Activity.bind_of_breaksOff run breaks _
      rw [goes]
      rw [rankingLength_eq] at short
      exact .short short received breaks
    | enough enough left received =>
      obtain ⟨ids, ok, many, bytes⟩ := ranking_body (List.length_take_of_le enough)
      rw [Activity.bind_of_done run, ok]
      rw [rankingLength_eq] at enough received bytes
      exact .all enough received many bytes

/-- How the reading of a ranking goes, if these bytes arrive in time, and which of them it takes. -/
inductive Ranks (requested : UInt32) (front : List UInt8) :
    List UInt8 → Ending Fault (List Int32) → Prop where
  | uncounted {ending : Ending Fault (List Int32)} : front.length < 4 → ending.BreaksOff →
      Ranks requested front front ending
  | above : 4 ≤ front.length → requested.toNat < announced front →
      Ranks requested front (front.take 4) (.failed (.violation
        s!"search_n returned {announced front} results, requested at most {requested.toNat}"))
  | cut {ending : Ending Fault (List Int32)} : 4 ≤ front.length →
      announced front ≤ requested.toNat → front.length < 4 + 4 * announced front →
      ending.BreaksOff → Ranks requested front front ending
  | whole {ids : List Int32} : announced front ≤ requested.toNat →
      4 + 4 * announced front ≤ front.length → ids.length = announced front →
      ids.flatMap idBytes = (front.drop 4).take (4 * announced front) →
      Ranks requested front (front.take (4 + 4 * announced front)) (.done ids)

theorem ranking_ranks (requested : UInt32) (deadline : Deadline) (before : Transport) :
    ∃ taken : List UInt8,
      (ranking requested deadline before).2.received = before.received ++ taken ∧
      Ranks requested (before.arrivals deadline) taken
        (ranking requested deadline before).1 := by
  -- first the count, then, if it is honest, the ids on what the count has left of the arrivals
  have leading := field_arrives Reply.countLength deadline before
  rcases run : field Reply.countLength deadline before with ⟨ending, middle⟩
  rw [run] at leading
  rw [ranking_eq]
  cases leading with
  | short short received unfinished =>
    have breaks := (Shortage.failsWith _ _).breaksOff run unfinished
    obtain ⟨later, goes, breaks⟩ := Activity.bind_of_breaksOff run breaks _
    rw [goes]
    exact ⟨_, received, .uncounted short breaks⟩
  | enough enough left received =>
    have width := List.length_take_of_le enough
    rw [Activity.bind_of_done run]
    by_cases few : announced (before.arrivals deadline) ≤ requested.toNat
    · obtain ⟨count, ok, value⟩ := Reply.count_eq width few
      have lists := listing_lists count deadline middle
      rw [ok, Activity.bind_of_done rfl]
      generalize listing count deadline middle = rest at lists ⊢
      have size : (middle.arrivals deadline).length = (before.arrivals deadline).length - 4 := by
        rw [left]
        exact List.length_drop
      have counted : count.toNat = announced (before.arrivals deadline) := value
      cases lists with
      | short short more breaks =>
        rw [left] at more
        refine ⟨_, ?_, .cut enough few ?_ breaks⟩
        · rw [more, received, List.append_assoc, List.take_append_drop]
        · omega
      | all all more many bytes =>
        rw [left, counted] at more bytes
        refine ⟨_, ?_, .whole few ?_ (many.trans counted) bytes⟩
        · rw [more, received, List.append_assoc, List.take_add]
          rfl
        · change 4 ≤ _ at enough
          omega
    · have above := Nat.lt_of_not_le few
      rw [count_of_above width above]
      exact ⟨_, received, .above enough above⟩

end Request

/-! ### What the caller is told -/

inductive Turn.Concludes {α : Type} (turn : Turn α) : Ending Fault α → Prop where
  | answered {value : α} : turn.outcome = .answered value → Concludes turn (.done value)
  | failed {fault : Fault} : turn.outcome = .failed fault → turn.link.phase = .closed →
      turn.link.custody = .dropped → Concludes turn (.failed fault)
  | waiting : (∀ value, turn.outcome ≠ .answered value) →
      (∀ detail, turn.outcome ≠ .failed (.violation detail)) → Concludes turn .waiting

theorem Turn.Concludes.of_breaksOff {α : Type} {turn : Turn α} {ending : Ending Fault α}
    (concludes : turn.Concludes ending) (breaks : ending.BreaksOff) :
    (∀ value, turn.outcome ≠ .answered value) ∧
      ∀ detail, turn.outcome ≠ .failed (.violation detail) := by
  cases concludes with
  | answered => cases breaks
  | failed outcome =>
    cases breaks with
    | failed other =>
      rw [outcome]
      constructor
      · nofun
      · intro detail same
        cases same
        exact other detail rfl
  | waiting unanswered unbroken => exact ⟨unanswered, unbroken⟩

namespace Link

open Reply (announced idBytes)

theorem transact_concludes {link : Link} {request : Request} {frame : List UInt8}
    {patience : Patience} {ending : Ending Fault request.Answer} {after : Transport}
    (run : request.converse frame (link.deadline patience) link.transport = (ending, after)) :
    (link.transact request frame patience).Concludes ending ∧
      (link.transact request frame patience).link.transport = after := by
  unfold deadline at run
  unfold transact
  dsimp only
  rw [run]
  cases ending with
  | done answer => exact ⟨.answered rfl, rfl⟩
  | failed fault => exact ⟨.failed rfl rfl rfl, rfl⟩
  | waiting =>
    dsimp only
    split
    · exact ⟨.waiting nofun nofun, rfl⟩
    · exact ⟨.waiting nofun nofun, rfl⟩

/-- The frame of the request goes out on this link, and leaves the transport so for the reply. -/
structure Sends (link : Link) (request : Request) (patience : Patience) (sent : Transport) :
    Prop where
  polled : patience ≠ .never
  ready : link.phase = .ready
  held : link.custody = .held
  delivered : ∃ frame, request.frameFor link.selection = .ok frame ∧
    Transport.deliver frame (link.deadline patience) link.transport = (.done (), sent)

variable {link : Link} {vector : Components} {requested : UInt32} {patience : Patience}

theorem exists_sends (polled : patience ≠ .never) (ready : link.phase = .ready)
    (held : link.custody = .held) (fits : vector.length = link.selection.dimension.toNat)
    (accepting : link.transport.Accepting) :
    ∃ sent, link.Sends (.searchMany vector requested) patience sent := by
  have framed : (Request.searchMany vector requested).frameFor link.selection =
      .ok (Frame.withVector .searchMany requested vector) := by
    rw [Request.frameFor_eq]
    exact if_pos fits
  obtain ⟨sent, out, -⟩ := accepting.deliver (Frame.withVector .searchMany requested vector)
    (link.deadline patience)
  exact ⟨sent, polled, ready, held, _, framed, out⟩

theorem Sends.reads_eq {request : Request} {sent : Transport}
    (sends : link.Sends request patience sent) : sent.reads = link.transport.reads := by
  obtain ⟨-, -, -, frame, -, out⟩ := sends
  exact (Transport.deliver_keeps_reads frame).of_run out

theorem Sends.ranks {sent : Transport}
    (sends : link.Sends (.searchMany vector requested) patience sent) :
    ∃ (taken : List UInt8) (ending : Ending Fault (List Int32)),
      (link.exchange (.searchMany vector requested) patience).link.transport.received =
        link.transport.received ++ taken ∧
      Request.Ranks requested (sent.arrivals (link.deadline patience)) taken ending ∧
      (link.exchange (.searchMany vector requested) patience).Concludes ending := by
  obtain ⟨polled, ready, held, frame, framed, out⟩ := sends
  have begins : link.exchange (.searchMany vector requested) patience =
      link.transact (.searchMany vector requested) frame patience := by
    rw [link.exchange_eq _ polled, ready]
    simp only [start, framed, if_pos held]
  obtain ⟨taken, received, ranks⟩ :=
    Request.ranking_ranks requested (link.deadline patience) sent
  rcases run : Request.ranking requested (link.deadline patience) sent with ⟨ending, after⟩
  rw [run] at received ranks
  have converse : (Request.searchMany vector requested).converse frame (link.deadline patience)
      link.transport = (ending, after) := (Activity.bind_of_done out).trans run
  obtain ⟨concludes, same⟩ := transact_concludes converse
  rw [begins]
  refine ⟨taken, ending, ?_, ranks, concludes⟩
  rw [same, received, (Transport.deliver_keeps_received frame).of_run out]

theorem unsent_exchange
    (unsent : ∀ sent, ¬ link.Sends (.searchMany vector requested) patience sent) :
    (link.exchange (.searchMany vector requested) patience).link.transport.received =
        link.transport.received ∧
      ∃ ending : Ending Fault (List Int32), ending.BreaksOff ∧
        (link.exchange (.searchMany vector requested) patience).Concludes ending := by
  have exchanged := link.exchange_cases (.searchMany vector requested) patience
  generalize link.passage? (.exchange (.searchMany vector requested)) patience = passage,
    link.exchange (.searchMany vector requested) patience = turn at exchanged
  cases exchanged with
  | unpolled => exact ⟨rfl, .waiting, .waiting, .waiting nofun nofun⟩
  | refused _ _ callers =>
    refine ⟨rfl, .waiting, .waiting, .waiting nofun ?_⟩
    intro detail same
    cases same
    cases callers
  | desynchronized => exact ⟨rfl, .waiting, .waiting, .waiting nofun nofun⟩
  | closed => exact ⟨rfl, .waiting, .waiting, .waiting nofun nofun⟩
  | @begun frame polled ready held framed =>
    rcases out : Transport.deliver frame (link.deadline patience) link.transport with
      ⟨ending, middle⟩
    have kept := (Transport.deliver_keeps_received frame).of_run out
    -- a delivery that ended well would be a frame that went out
    have breaks : ending.BreaksOff := by
      apply (Transport.deliver_failsWith frame).breaksOff out
      rintro value rfl
      exact unsent middle ⟨polled, ready, held, frame, framed, out⟩
    obtain ⟨later, converse, broken⟩ :=
      Activity.bind_of_breaksOff out breaks fun _ => (Request.searchMany vector requested).reply
    obtain ⟨concludes, after⟩ := transact_concludes converse
    exact ⟨(congrArg Transport.received after).trans kept, later, broken, concludes⟩

/-- The outcome of an exchange for a ranking, if these bytes of the reply arrive in time. -/
structure Ranked (link : Link) (requested : UInt32) (front : List UInt8)
    (turn : Turn (List Int32)) : Prop where
  answered_iff : (∃ ids, turn.outcome = .answered ids) ↔
    4 ≤ front.length ∧ announced front ≤ requested.toNat ∧
      4 * announced front ≤ (front.drop 4).length
  /-- The ids are the bytes behind the count, all of them and in their order. -/
  ids : ∀ ids, turn.outcome = .answered ids → ids.length = announced front ∧
    ids.flatMap idBytes = (front.drop 4).take (4 * announced front)
  violation_iff : ∀ detail, turn.outcome = .failed (.violation detail) ↔
    4 ≤ front.length ∧ requested.toNat < announced front ∧
      detail = s!"search_n returned {announced front} results, requested at most {requested.toNat}"
  above : 4 ≤ front.length → requested.toNat < announced front →
    turn.link.phase = .closed ∧ turn.link.custody = .dropped ∧
      turn.link.transport.received = link.transport.received ++ front.take 4
  consumed : ∃ taken, turn.link.transport.received = link.transport.received ++ taken ∧
    taken <+: front ∧ taken.length ≤ 4 + 4 * min (announced front) requested.toNat

variable {front taken : List UInt8} {ending : Ending Fault (List Int32)} {turn : Turn (List Int32)}

theorem ranked_of_breaksOff (breaks : ending.BreaksOff) (concludes : turn.Concludes ending)
    (received : turn.link.transport.received = link.transport.received ++ front)
    (few : front.length < 4 ∨
      announced front ≤ requested.toNat ∧ front.length < 4 + 4 * announced front) :
    link.Ranked requested front turn := by
  obtain ⟨unanswered, unbroken⟩ := concludes.of_breaksOff breaks
  have size : (front.drop 4).length = front.length - 4 := List.length_drop
  constructor
  · constructor
    · rintro ⟨ids, answered⟩
      exact absurd answered (unanswered ids)
    · rintro ⟨counted, honest, all⟩
      omega
  · intro ids answered
    exact absurd answered (unanswered ids)
  · intro detail
    constructor
    · intro broken
      exact absurd broken (unbroken detail)
    · rintro ⟨counted, above, -⟩
      omega
  · intro counted above
    omega
  · refine ⟨front, received, List.prefix_rfl, ?_⟩
    omega

theorem ranked_of_violation (outcome : turn.outcome = .failed (.violation
      s!"search_n returned {announced front} results, requested at most {requested.toNat}"))
    (phase : turn.link.phase = .closed) (custody : turn.link.custody = .dropped)
    (received : turn.link.transport.received = link.transport.received ++ front.take 4)
    (counted : 4 ≤ front.length) (above : requested.toNat < announced front) :
    link.Ranked requested front turn := by
  constructor
  · rw [outcome]
    constructor
    · nofun
    · rintro ⟨-, honest, -⟩
      omega
  · rw [outcome]
    nofun
  · intro detail
    rw [outcome]
    constructor
    · intro same
      cases same
      exact ⟨counted, above, rfl⟩
    · rintro ⟨-, -, rfl⟩
      rfl
  · intro _ _
    exact ⟨phase, custody, received⟩
  · refine ⟨front.take 4, received, List.take_prefix .., ?_⟩
    rw [List.length_take_of_le counted]
    exact Nat.le_add_right ..

theorem ranked_of_answer {ids : List Int32} (outcome : turn.outcome = .answered ids)
    (received : turn.link.transport.received =
      link.transport.received ++ front.take (4 + 4 * announced front))
    (honest : announced front ≤ requested.toNat) (all : 4 + 4 * announced front ≤ front.length)
    (many : ids.length = announced front)
    (bytes : ids.flatMap idBytes = (front.drop 4).take (4 * announced front)) :
    link.Ranked requested front turn := by
  have size : (front.drop 4).length = front.length - 4 := List.length_drop
  constructor
  · rw [outcome]
    constructor
    · intro _
      omega
    · intro _
      exact ⟨ids, rfl⟩
  · rw [outcome]
    rintro _ ⟨⟩
    exact ⟨many, bytes⟩
  · intro detail
    rw [outcome]
    constructor
    · nofun
    · rintro ⟨-, above, -⟩
      omega
  · intro _ above
    omega
  · refine ⟨_, received, List.take_prefix .., ?_⟩
    rw [List.length_take_of_le all]
    omega

theorem ranked_of_ranks
    (received : turn.link.transport.received = link.transport.received ++ taken)
    (ranks : Request.Ranks requested front taken ending) (concludes : turn.Concludes ending) :
    link.Ranked requested front turn := by
  cases ranks with
  | uncounted short breaks => exact ranked_of_breaksOff breaks concludes received (.inl short)
  | cut _ honest short breaks =>
    exact ranked_of_breaksOff breaks concludes received (.inr ⟨honest, short⟩)
  | above counted above =>
    cases concludes with
    | failed outcome phase custody =>
      exact ranked_of_violation outcome phase custody received counted above
  | whole honest all many bytes =>
    cases concludes with
    | answered outcome => exact ranked_of_answer outcome received honest all many bytes

/-- A ranking is as the bytes that arrive in time say, once the frame is out: they are its ids if they
are as many as an honest count demands, and a count above the number asked for is the end of the
link. No count makes a client read more than it has asked for, fail on the length of what it reads,
or miscount it. -/
theorem ranking_trusts_no_count (link : Link) (vector : Components) (requested : UInt32)
    (patience : Patience) :
    (patience ≠ .never → link.phase = .ready → link.custody = .held →
      vector.length = link.selection.dimension.toNat → link.transport.Accepting →
      ∃ sent, link.Sends (.searchMany vector requested) patience sent) ∧
    (∀ sent, link.Sends (.searchMany vector requested) patience sent →
      sent.reads = link.transport.reads ∧
      link.Ranked requested (sent.arrivals (link.deadline patience))
        (link.exchange (.searchMany vector requested) patience)) ∧
    ((∀ sent, ¬ link.Sends (.searchMany vector requested) patience sent) →
      link.Ranked requested [] (link.exchange (.searchMany vector requested) patience)) ∧
    (∀ length : Nat, (link.exchange (.searchMany vector requested) patience).outcome ≠
      .failed (.violation s!"id list of {length} bytes is not a multiple of {Reply.idLength}")) ∧
    ∀ count : UInt32,
      (count.toUInt64 * UInt64.ofNat Reply.idLength).toNat = Reply.rankingLength count := by
  have sending (sent : Transport)
      (sends : link.Sends (.searchMany vector requested) patience sent) :
      link.Ranked requested (sent.arrivals (link.deadline patience))
        (link.exchange (.searchMany vector requested) patience) := by
    obtain ⟨taken, ending, received, ranks, concludes⟩ := sends.ranks
    exact ranked_of_ranks received ranks concludes
  have quiet (unsent : ∀ sent, ¬ link.Sends (.searchMany vector requested) patience sent) :
      link.Ranked requested [] (link.exchange (.searchMany vector requested) patience) := by
    obtain ⟨kept, ending, breaks, concludes⟩ := unsent_exchange unsent
    have received := kept.trans (List.append_nil _).symm
    exact ranked_of_ranks received (.uncounted (by decide) breaks) concludes
  refine ⟨exists_sends, fun sent sends => ⟨sends.reads_eq, sending sent sends⟩, quiet, ?_,
    Reply.rankingLength_eq_toNat⟩
  intro length failed
  by_cases sends : ∃ sent, link.Sends (.searchMany vector requested) patience sent
  · obtain ⟨sent, sends⟩ := sends
    exact Reply.rest_text_ne length _ _ (((sending sent sends).violation_iff _).mp failed).2.2
  -- an exchange whose frame stays behind is ranked like one whose reply never comes
  · have ranked := quiet fun sent sends' => sends ⟨sent, sends'⟩
    exact Reply.rest_text_ne length _ _ ((ranked.violation_iff _).mp failed).2.2

def boasting : Link :=
  { address := ⟨"localhost", 7777⟩, selection := ⟨"points", 1⟩, phase := .ready
    limit := standardLimit, transport := .ofReads [.answer (.data [4, 0]), .pause 10,
      .answer (.data [0, 0, 7, 0, 0, 0])], custody := .held }

theorem boasting_refused :
    (∃ sent, boasting.Sends (.searchMany [0] 3) .unbounded sent ∧
      sent.arrivals (boasting.deadline .unbounded) = [4, 0, 0, 0, 7, 0, 0, 0]) ∧
    (boasting.exchange (.searchMany [0] 3) .unbounded).outcome =
      .failed (.violation "search_n returned 4 results, requested at most 3") ∧
    (boasting.exchange (.searchMany [0] 3) .unbounded).link.transport.received = [4, 0, 0, 0] := by
  have sends : boasting.Sends (.searchMany [0] 3) .unbounded
      (Transport.deliver (Frame.withVector .searchMany 3 [0]) (boasting.deadline .unbounded)
        boasting.transport).2 := by
    refine ⟨by decide, rfl, rfl, _, rfl, Prod.ext ?_ rfl⟩
    decide +kernel
  have arrived : (Transport.deliver (Frame.withVector .searchMany 3 [0])
      (boasting.deadline .unbounded) boasting.transport).2.arrivals (boasting.deadline .unbounded) =
        [4, 0, 0, 0, 7, 0, 0, 0] := by
    decide +kernel
  have ranked := ((ranking_trusts_no_count boasting [0] 3 .unbounded).2.1 _ sends).2
  rw [arrived] at ranked
  refine ⟨⟨_, sends, arrived⟩, ?_, ?_⟩
  · exact (ranked.violation_iff _).mpr ⟨by decide, by decide, by decide⟩
  · exact (ranked.above (by decide) (by decide)).2.2

end Link

end VectorLink
