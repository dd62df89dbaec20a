import VectorLink.Link.Basic
import VectorLink.Proofs.Transport.Takes
import VectorLink.Proofs.Wire.Reply

/-! What a server may answer, and that it is understood.

Every request has its kind of response, and each response its wire form. Reading the reply to a
request takes exactly the wire form of the response off the stream and gives its meaning.
-/

set_option autoImplicit false

namespace VectorLink.Request

open Activity (Takes)

/-- The responses that a server may give: acknowledgements and statuses are any byte, and a ranking
has at most as many ids as were asked for. -/
def Response : Request → Type
  | insert .. | select .. | delete _ | update .. => UInt8
  | search _ => Int32
  | insertAuto _ => UInt64
  | searchMany _ count => { ids : List Int32 // ids.length ≤ count.toNat }

/-- The wire form of a response. -/
def wire : (request : Request) → request.Response → List UInt8
  | insert .., byte | select .., byte | delete _, byte | update .., byte => [byte]
  | search _, id => Reply.idBytes id
  | insertAuto _, id => LittleEndian.encode Reply.assignedLength id.toNat
  | searchMany .., ids =>
    LittleEndian.encode Reply.countLength ids.val.length ++ ids.val.flatMap Reply.idBytes

/-- What a response tells the caller. Only the status `'1'` means that something was done. -/
def meaning : (request : Request) → request.Response → request.Answer
  | insert .., _ | select .., _ => ()
  | delete _, status | update .., status => (show UInt8 from status) == 0x31
  | search _, id => id
  | insertAuto _, id => id
  | searchMany .., ids => ids.val

theorem field_takes {bytes : List UInt8} {length : Nat} (size : bytes.length = length) :
    (field length).Takes bytes bytes :=
  (Transport.readField_takes size).mapError _

theorem field_answer_takes {α : Type} {bytes : List UInt8} {length : Nat} {answer : List UInt8 → α}
    {value : α} (size : bytes.length = length) (same : answer bytes = value) :
    (field length >>= fun bytes => pure (answer bytes)).Takes bytes value := by
  have reply : (field length >>= fun bytes => pure (answer bytes)).Takes (bytes ++ []) (answer bytes) :=
    (field_takes size).bind (Activity.takes_pure _)
  rwa [List.append_nil, same] at reply

theorem statusField_takes (byte : UInt8) : statusField.Takes [byte] (byte == 0x31) := by
  refine field_answer_takes rfl ?_
  rw [List.any_cons, List.any_nil, Bool.or_false]
  rfl

theorem acknowledgement_takes (database : String) (byte : UInt8) :
    (acknowledgement database).Takes [byte] () := by
  have size : [byte].length = Reply.ackLength := rfl
  exact ((Transport.readField_takes size).bind (Activity.takes_pure ())).mapError _

theorem ranking_takes {requested : UInt32} {ids : List Int32}
    (few : ids.length ≤ requested.toNat) :
    (ranking requested).Takes
      (LittleEndian.encode Reply.countLength ids.length ++ ids.flatMap Reply.idBytes) ids := by
  have small : ids.length < UInt32.size := Nat.lt_of_le_of_lt few requested.toNat_lt
  have announced : (UInt32.ofNat ids.length).toNat = ids.length := UInt32.toNat_ofNat_of_lt' small
  refine (field_takes (LittleEndian.length_encode ..)).bind ?_
  refine Takes.bind (Activity.takes_ofExcept (Reply.count_encode few)) ?_
  by_cases none : ids = []
  · -- without ids there is no body to wait for
    subst none
    exact Activity.takes_pure []
  · have more : UInt32.ofNat ids.length ≠ 0 := by
      intro zero
      rw [zero] at announced
      exact none (List.length_eq_zero_iff.mp announced.symm)
    have body : (ids.flatMap Reply.idBytes).length =
        Reply.rankingLength (UInt32.ofNat ids.length) := by
      rw [Reply.length_flatMap_idBytes, Reply.rankingLength, announced]
    show Takes _ (ids.flatMap Reply.idBytes) ids
    rw [if_neg more, ← List.append_nil (ids.flatMap Reply.idBytes)]
    exact ((Transport.readWhole_takes body).mapError _).bind
      (Activity.takes_ofExcept (Reply.ranking_flatMap ids))

theorem reply_takes (request : Request) (response : request.Response) :
    request.reply.Takes (request.wire response) (request.meaning response) := by
  cases request with
  | insert id vector => exact field_answer_takes rfl rfl
  | search vector => exact field_answer_takes (Reply.length_idBytes _) (Reply.nearest_idBytes _)
  | delete id => exact statusField_takes response
  | select database dimension => exact acknowledgement_takes database _
  | update id vector => exact statusField_takes response
  | insertAuto vector =>
    exact field_answer_takes (LittleEndian.length_encode ..) (Reply.assigned_encode _)
  | searchMany vector count => exact ranking_takes response.property

end VectorLink.Request
