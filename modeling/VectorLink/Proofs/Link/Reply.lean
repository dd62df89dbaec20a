import VectorLink.Link.Basic
import VectorLink.Proofs.Transport.Pieces

/-! What reading a reply leaves.

A request that is answered has taken its whole reply off the wire and not one byte more. One that
is not has taken less, and if it has failed, then with a fault that costs the link.
-/

set_option autoImplicit false

namespace VectorLink

theorem Shortage.needsReconnect_fault (expected : Nat) (shortage : Shortage) :
    (shortage.fault expected).needsReconnect := by
  cases shortage <;> rfl

namespace Request

open Transport (ReadsOn)

/-- The length of the reply that a request is owed, given the bytes that begin it: those of a
ranking tell how many ids it has. -/
def replyLength : Request → List UInt8 → Nat
  | insert .., _ | select .., _ => Reply.ackLength
  | search _, _ => Reply.nearestLength
  | delete _, _ | update .., _ => 1
  | insertAuto _, _ => Reply.assignedLength
  | searchMany .., bytes =>
    Reply.countLength + Reply.idLength * LittleEndian.decode (bytes.take Reply.countLength)

/-- What reading `length` bytes leaves, whatever is made of them: all of them if something is, and
less than all otherwise. -/
def Reads {α : Type} (length : Nat) (trace : Trace) (ending : Ending Fault α) : Prop :=
  trace.OnlyReads ∧
    match ending with
    | .done _ => trace.input.length = length
    | .failed fault => trace.input.length < length ∧ fault.needsReconnect
    | .waiting => trace.input.length < length

def ReadsReply (request : Request) (trace : Trace) (ending : Ending Fault request.Answer) : Prop :=
  Reads (request.replyLength trace.input) trace ending

theorem Reads.append {α : Type} {first later : Trace} {length : Nat} {ending : Ending Fault α}
    (reads : first.OnlyReads) (rest : Reads length later ending) :
    Reads (first.input.length + length) (first ++ later) ending := by
  obtain ⟨readsLater, rest⟩ := rest
  refine ⟨reads.append readsLater, ?_⟩
  rw [Trace.input_append, List.length_append]
  cases ending with
  | done answer => exact congrArg (first.input.length + ·) rest
  | failed fault => exact ⟨Nat.add_lt_add_left rest.1 _, rest.2⟩
  | waiting => exact Nat.add_lt_add_left rest _

-- The result of reading a field in the terms of a client: a shortage has become a fault.
theorem mapError_leaves {length : Nat} {activity : Activity Shortage (List UInt8)}
    (leaves : activity.Leaves (ReadsOn length [])) :
    (Activity.mapError (Shortage.fault length) activity).Leaves fun trace ending =>
      Reads length trace ending ∧ ∀ bytes, ending = .done bytes → trace.input = bytes := by
  refine leaves.mapError ?_ ?_ ?_
  · rintro trace bytes ⟨reads, same, size⟩
    refine ⟨⟨reads, size⟩, ?_⟩
    intro other done
    cases done
    exact same.symm
  · rintro trace shortage ⟨reads, short⟩
    exact ⟨⟨reads, short, shortage.needsReconnect_fault length⟩, by simp⟩
  · rintro trace ⟨reads, short⟩
    exact ⟨⟨reads, short⟩, by simp⟩

theorem field_leaves (length : Nat) : (field length).Leaves fun trace ending =>
    Reads length trace ending ∧ ∀ bytes, ending = .done bytes → trace.input = bytes :=
  mapError_leaves (Transport.readField_leaves length)

theorem field_answer_leaves (request : Request) (length : Nat) (answer : List UInt8 → request.Answer)
    (fixed : ∀ bytes, request.replyLength bytes = length) :
    (field length >>= fun bytes => pure (answer bytes)).Leaves request.ReadsReply := by
  unfold ReadsReply
  simp only [fixed]
  refine (field_leaves length).bind ?_ ?_ ?_
  · rintro trace fault ⟨reads, -⟩
    exact reads
  · rintro trace ⟨reads, -⟩
    exact reads
  · rintro trace bytes ⟨reads, -⟩
    refine Activity.leaves_pure ?_
    rw [List.append_nil]
    exact reads

def ReadsAck (trace : Trace) (ending : Ending Shortage Unit) : Prop :=
  trace.OnlyReads ∧
    match ending with
    | .done _ => trace.input.length = Reply.ackLength
    | .failed _ | .waiting => trace.input.length < Reply.ackLength

theorem acknowledgement_leaves (database : String) (dimension : UInt32) :
    Activity.Leaves (acknowledgement database) (select database dimension).ReadsReply := by
  have inner : Activity.Leaves (Transport.readField Reply.ackLength >>= fun _ => pure ())
      ReadsAck := by
    refine (Transport.readField_leaves Reply.ackLength).bind ?_ ?_ ?_
    · intro trace shortage reads
      exact reads
    · intro trace reads
      exact reads
    · rintro trace bytes ⟨reads, -, size⟩
      refine Activity.leaves_pure ?_
      rw [List.append_nil]
      exact ⟨reads, size⟩
  refine inner.mapError ?_ ?_ ?_
  · intro trace value reads
    exact reads
  · rintro trace shortage ⟨reads, short⟩
    refine ⟨reads, short, ?_⟩
    -- an end before the acknowledgement is a rejection; any other shortage costs the link as well
    split
    · rfl
    · exact Shortage.needsReconnect_fault _ _
  · intro trace reads
    exact reads

theorem toNat_count {bytes : List UInt8} {requested count : UInt32}
    (width : bytes.length = Reply.countLength) (ok : Reply.count bytes requested = .ok count) :
    count.toNat = LittleEndian.decode bytes := by
  unfold Reply.count at ok
  dsimp only at ok
  split at ok
  · cases ok
    have bound := LittleEndian.decode_lt bytes
    rw [width] at bound
    exact UInt32.toNat_ofNat_of_lt' bound
  · cases ok

theorem count_error {bytes : List UInt8} {requested : UInt32} {fault : Fault}
    (failed : Reply.count bytes requested = .error fault) :
    fault.needsReconnect ∧ 0 < LittleEndian.decode bytes := by
  unfold Reply.count at failed
  dsimp only at failed
  split at failed
  · cases failed
  · rename_i above
    cases failed
    refine ⟨rfl, Nat.pos_of_ne_zero ?_⟩
    intro zero
    rw [zero] at above
    exact above (UInt32.zero_le)

-- The body of a ranking is as long as its count says, so it always consists of whole ids.
theorem body_leaves (length : Nat) (whole : length % Reply.idLength = 0) :
    (Activity.mapError (Shortage.fault length) (Transport.readWhole length) >>= fun body =>
      Activity.ofExcept (Reply.ranking body)).Leaves (Reads length) := by
  refine (mapError_leaves (Transport.readWhole_leaves length)).bind ?_ ?_ ?_
  · rintro trace fault ⟨reads, -⟩
    exact reads
  · rintro trace ⟨reads, -⟩
    exact reads
  · rintro trace body ⟨⟨reads, size⟩, same⟩
    have same : trace.input = body := same body rfl
    refine (Activity.ofExcept_leaves _).mono ?_
    rintro _ ending ⟨rfl, result⟩
    rw [List.append_nil]
    rw [Reply.ranking, if_pos (by rw [← same, size, whole])] at result
    cases ending with
    | done ids => exact ⟨reads, size⟩
    | failed fault => cases result
    | waiting => exact result.elim

theorem ranking_leaves (vector : Components) (requested : UInt32) :
    (ranking requested).Leaves (searchMany vector requested).ReadsReply := by
  have ahead (bytes : List UInt8) :
      Reply.countLength ≤ (searchMany vector requested).replyLength bytes := Nat.le_add_right ..
  refine (field_leaves Reply.countLength).bind ?_ ?_ ?_
  · rintro trace fault ⟨⟨reads, short, costs⟩, -⟩
    exact ⟨reads, Nat.lt_of_lt_of_le short (ahead _), costs⟩
  · rintro trace ⟨⟨reads, short⟩, -⟩
    exact ⟨reads, Nat.lt_of_lt_of_le short (ahead _)⟩
  · rintro first leading ⟨⟨reads, size⟩, same⟩
    have size : first.input.length = Reply.countLength := size
    have same : first.input = leading := same leading rfl
    -- once the count is there, it fixes the length of the reply
    have owed (later : Trace) : (searchMany vector requested).replyLength (first ++ later : Trace).input =
        first.input.length + Reply.idLength * LittleEndian.decode leading := by
      simp only [replyLength, Trace.input_append]
      rw [List.take_append_of_le_length (Nat.le_of_eq size.symm),
        List.take_of_length_le (Nat.le_of_eq size), same, ← same, size]
    unfold ReadsReply
    simp only [owed]
    refine (Activity.ofExcept_leaves _).bind ?_ ?_ ?_
    · rintro _ fault ⟨rfl, failed⟩
      obtain ⟨costs, positive⟩ := count_error failed
      refine Reads.append reads ⟨Trace.onlyReads_nil, Nat.mul_pos (by decide) positive, costs⟩
    · rintro _ ⟨_, impossible⟩
      exact impossible.elim
    · rintro _ count ⟨rfl, announced⟩
      rw [← toNat_count (same ▸ size) announced]
      simp only [List.nil_append]
      split
      · rename_i zero
        refine Activity.leaves_pure (Reads.append reads ⟨Trace.onlyReads_nil, ?_⟩)
        rw [zero]
        rfl
      · refine (body_leaves (Reply.rankingLength count) (Nat.mul_mod_left _ _)).mono ?_
        intro later ending rest
        rw [Nat.mul_comm]
        exact Reads.append reads rest

theorem reply_leaves (request : Request) : request.reply.Leaves request.ReadsReply := by
  cases request with
  | insert id vector => exact field_answer_leaves (.insert id vector) _ _ fun _ => rfl
  | search vector => exact field_answer_leaves (.search vector) _ _ fun _ => rfl
  | delete id => exact field_answer_leaves (.delete id) _ _ fun _ => rfl
  | select database dimension => exact acknowledgement_leaves database dimension
  | update id vector => exact field_answer_leaves (.update id vector) _ _ fun _ => rfl
  | insertAuto vector => exact field_answer_leaves (.insertAuto vector) _ _ fun _ => rfl
  | searchMany vector count => exact ranking_leaves vector count

end Request

end VectorLink
