import VectorLink.Proofs.Link.Call
import VectorLink.Proofs.Wire.Reply

/-! What an exchange can end with.

An exchange that has begun fails only in a few ways, and none of them is the caller's doing or says
that another exchange was abandoned. A ranking has no more ids than were asked for: a server that
announces more breaks the protocol, and the exchange fails with that.
-/

set_option autoImplicit false

namespace VectorLink

/-! ### Faults -/

def Fault.isMidExchange : Fault → Bool
  | rejected _ | peerClosed .. | timeout _ | violation _ | io _ => true
  | unreachable .. | dimensionMismatch .. | linkClosed | desynchronized | badArgument _ => false

theorem Fault.isMidExchange_ofIo (cause : IoFault) : (Fault.ofIo cause).isMidExchange := by
  unfold ofIo
  split <;> rfl

theorem Shortage.isMidExchange_fault (expected : Nat) (shortage : Shortage) :
    (shortage.fault expected).isMidExchange := by
  cases shortage <;> rfl

namespace Activity

variable {ε ε' α β : Type} {kind : ε → Prop}

/-- Whenever the activity fails, it is with an error of this kind. -/
def FailsWith (activity : Activity ε α) (kind : ε → Prop) : Prop :=
  ∀ (deadline : Deadline) (before after : Transport) (error : ε),
    activity deadline before = (.failed error, after) → kind error

theorem failsWith_pure (value : α) : (pure value : Activity ε α).FailsWith kind := by
  intro deadline before after error failed
  cases failed

theorem failsWith_ofExcept {result : Except ε α}
    (all : ∀ error, result = .error error → kind error) : (ofExcept result).FailsWith kind := by
  intro deadline before after error failed
  cases result with
  | error other =>
    cases failed
    exact all _ rfl
  | ok value => cases failed

theorem failsWith_mapError {activity : Activity ε' α} {restate : ε' → ε}
    (all : ∀ error, kind (restate error)) : (activity.mapError restate).FailsWith kind := by
  intro deadline before after error failed
  rcases run : activity deadline before with ⟨value | other | _, middle⟩
  · rw [mapError_of_done run] at failed
    cases failed
  · rw [mapError_of_failed run] at failed
    cases failed
    exact all _
  · rw [mapError_of_waiting run] at failed
    cases failed

theorem FailsWith.bind {first : Activity ε α} {next : α → Activity ε β}
    (fails : first.FailsWith kind) (all : ∀ value, (next value).FailsWith kind) :
    (first >>= next).FailsWith kind := by
  intro deadline before after error failed
  rcases run : first deadline before with ⟨value | other | _, middle⟩
  · rw [bind_of_done run] at failed
    exact all value deadline middle after error failed
  · rw [bind_of_failed run] at failed
    cases failed
    exact fails _ _ _ _ run
  · rw [bind_of_waiting run] at failed
    cases failed

end Activity

namespace Request

open Activity (failsWith_pure failsWith_ofExcept failsWith_mapError)

theorem field_failsWith (length : Nat) :
    (field length).FailsWith fun fault => fault.isMidExchange :=
  failsWith_mapError fun shortage => shortage.isMidExchange_fault length

theorem acknowledgement_failsWith (database : String) :
    (acknowledgement database).FailsWith fun fault => fault.isMidExchange := by
  refine failsWith_mapError fun shortage => ?_
  split
  · rfl
  · exact shortage.isMidExchange_fault _

theorem ranking_failsWith (requested : UInt32) :
    (ranking requested).FailsWith fun fault => fault.isMidExchange := by
  refine (field_failsWith _).bind fun leading => .bind (failsWith_ofExcept ?_) fun count => ?_
  · intro fault above
    unfold Reply.count at above
    dsimp only at above
    split at above <;> cases above
    rfl
  split
  · exact failsWith_pure _
  refine (failsWith_mapError fun shortage => shortage.isMidExchange_fault _).bind fun body =>
    failsWith_ofExcept ?_
  intro fault broken
  unfold Reply.ranking at broken
  split at broken <;> cases broken
  rfl

theorem converse_failsWith (request : Request) (frame : List UInt8) :
    (request.converse frame).FailsWith fun fault => fault.isMidExchange := by
  refine (failsWith_mapError Fault.isMidExchange_ofIo).bind fun _ => ?_
  cases request with
  | insert | search | delete | update | insertAuto =>
    exact (field_failsWith _).bind fun _ => failsWith_pure _
  | select database dimension => exact acknowledgement_failsWith database
  | searchMany vector count => exact ranking_failsWith count

end Request

theorem Link.isMidExchange_of_transact {link : Link} {request : Request} {frame : List UInt8}
    {patience : Patience} {fault : Fault}
    (failed : (link.transact request frame patience).outcome = .failed fault) :
    fault.isMidExchange := by
  unfold transact at failed
  dsimp only at failed
  split at failed
  · cases failed
  · rename_i other transport run
    cases failed
    exact request.converse_failsWith frame _ _ _ _ run
  · split at failed <;> cases failed
    rfl

/-! ### Rankings -/

namespace Request

theorem count_le {bytes : List UInt8} {requested count : UInt32}
    (ok : Reply.count bytes requested = .ok count) : count.toNat ≤ requested.toNat := by
  unfold Reply.count at ok
  dsimp only at ok
  split at ok
  · rename_i within
    cases ok
    exact UInt32.le_iff_toNat_le.mp within
  · cases ok

theorem ranking_few (requested : UInt32) :
    (ranking requested).Leaves fun _ ending =>
      ∀ ids, ending = .done ids → ids.length ≤ requested.toNat := by
  refine (field_leaves _).bind (fun _ _ _ _ impossible => by cases impossible)
    (fun _ _ _ impossible => by cases impossible) fun _ leading _ => ?_
  refine (Activity.ofExcept_leaves _).bind (fun _ _ _ _ impossible => by cases impossible)
    (fun _ _ _ impossible => by cases impossible) fun _ count announced => ?_
  have few := count_le announced.2
  split
  · refine Activity.leaves_pure ?_
    rintro _ ⟨⟩
    exact Nat.zero_le _
  refine (mapError_leaves (Transport.readWhole_leaves _)).bind
    (fun _ _ _ _ impossible => by cases impossible)
    (fun _ _ _ impossible => by cases impossible) fun trace body reads => ?_
  have size : body.length = Reply.rankingLength count := by
    rw [← reads.2 body rfl]
    exact reads.1.2
  refine (Activity.ofExcept_leaves _).mono fun _ ending result ids done => ?_
  subst done
  have ok : Reply.ranking body = .ok ids := result.2
  unfold Reply.ranking at ok
  split at ok <;> cases ok
  rw [Reply.length_groupIds, size, Reply.rankingLength, Nat.mul_div_cancel _ (by decide)]
  simpa using few

theorem converse_few {vector : Components} {requested : UInt32} {frame : List UInt8}
    {deadline : Deadline} {transport after : Transport} {ids : List Int32}
    (run : (searchMany vector requested).converse frame deadline transport = (.done ids, after)) :
    ids.length ≤ requested.toNat := by
  unfold converse at run
  rcases sent : Transport.deliver frame deadline transport with ⟨_ | _ | _, middle⟩
  · rw [Activity.bind_of_done sent] at run
    obtain ⟨trace, -, few⟩ := (ranking_few requested).of_run run
    exact few ids rfl
  · rw [Activity.bind_of_failed sent] at run
    cases run
  · rw [Activity.bind_of_waiting sent] at run
    cases run

theorem count_of_above {bytes : List UInt8} {requested : UInt32}
    (width : bytes.length = Reply.countLength)
    (above : requested.toNat < LittleEndian.decode bytes) :
    Reply.count bytes requested = .error (.violation
      s!"search_n returned {LittleEndian.decode bytes} results, requested at most {requested.toNat}") := by
  have small : LittleEndian.decode bytes < UInt32.size := by
    have bound := LittleEndian.decode_lt bytes
    rwa [width] at bound
  have announced : (UInt32.ofNat (LittleEndian.decode bytes)).toNat = LittleEndian.decode bytes :=
    UInt32.toNat_ofNat_of_lt' small
  unfold Reply.count
  dsimp only
  rw [announced]
  refine if_neg fun within => ?_
  have within := UInt32.le_iff_toNat_le.mp within
  omega

theorem ranking_of_count_error {requested : UInt32} {deadline : Deadline}
    {transport after : Transport} {leading : List UInt8} {fault : Fault}
    (read : field Reply.countLength deadline transport = (.done leading, after))
    (refused : Reply.count leading requested = .error fault) :
    ranking requested deadline transport = (.failed fault, after) := by
  unfold ranking
  rw [Activity.bind_of_done read, refused]
  rfl

end Request

theorem Link.exchange_few {link : Link} {vector : Components} {requested : UInt32}
    {patience : Patience} {ids : List Int32}
    (answered : (link.exchange (.searchMany vector requested) patience).outcome = .answered ids) :
    ids.length ≤ requested.toNat := by
  have exchanged := link.exchange_cases (.searchMany vector requested) patience
  generalize link.passage? (.exchange (.searchMany vector requested)) patience = passage,
    link.exchange (.searchMany vector requested) patience = turn at exchanged answered
  cases exchanged with
  | unpolled | refused | desynchronized | closed => cases answered
  | begun polled ready held framed =>
    unfold transact at answered
    dsimp only at answered
    split at answered
    · rename_i found transport run
      cases answered
      exact Request.converse_few run
    · cases answered
    · split at answered <;> cases answered

/-- The exchange of a ranking comes as far as its count, and the server announces so many ids. -/
def Link.Announces (link : Link) (vector : Components) (requested : UInt32) (announced : Nat) :
    Prop :=
  ∃ (frame leading : List UInt8) (middle after : Transport),
    link.phase = .ready ∧ link.custody = .held ∧
      (Request.searchMany vector requested).frameFor link.selection = .ok frame ∧
      Transport.deliver frame (link.deadline .unbounded) link.transport = (.done (), middle) ∧
      Request.field Reply.countLength (link.deadline .unbounded) middle = (.done leading, after) ∧
      LittleEndian.decode leading = announced

theorem Link.Announces.violation {link : Link} {vector : Components} {requested : UInt32}
    {announced : Nat} (announces : link.Announces vector requested announced)
    (above : requested.toNat < announced) :
    (link.exchange (.searchMany vector requested) .unbounded).outcome = .failed (.violation
      s!"search_n returned {announced} results, requested at most {requested.toNat}") := by
  obtain ⟨frame, leading, middle, after, ready, held, framed, sent, read, rfl⟩ := announces
  have width : leading.length = Reply.countLength := by
    obtain ⟨trace, -, reads, same⟩ := (Request.field_leaves _).of_run read
    rw [← same leading rfl]
    exact reads.2
  -- the text of the violation is kept folded, so that the counts in it are not looked into
  have refused := Request.count_of_above width above
  generalize Fault.violation
    s!"search_n returned {LittleEndian.decode leading} results, requested at most {requested.toNat}" =
    fault at refused ⊢
  have converse : (Request.searchMany vector requested).converse frame (link.deadline .unbounded)
      link.transport = (.failed fault, after) := by
    unfold Request.converse
    rw [Activity.bind_of_done sent]
    exact Request.ranking_of_count_error read refused
  have begins : link.exchange (.searchMany vector requested) .unbounded =
      link.transact (.searchMany vector requested) frame .unbounded := by
    rw [link.exchange_eq _ (by decide), ready]
    simp only [start, framed, if_pos held]
  rw [begins]
  unfold transact
  unfold deadline at converse
  dsimp only
  rw [converse]
  rfl

theorem Link.exchange_mismatch {link : Link} {request : Request} {vector : Components}
    (ready : link.phase = .ready) (carries : request.vector? = some vector)
    (differs : vector.length ≠ link.selection.dimension.toNat) :
    link.exchange request .unbounded = .still
      (.failed (.dimensionMismatch link.selection.dimension.toNat vector.length)) link := by
  rw [link.exchange_eq _ (by decide), ready]
  have refused : request.frameFor link.selection =
      .error (.dimensionMismatch link.selection.dimension.toNat vector.length) := by
    rw [Request.frameFor_eq, carries]
    exact if_neg differs
  simp only [start, refused]

end VectorLink
