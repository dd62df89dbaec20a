import VectorLink.Link.Exchange
import VectorLink.Proofs.Transport.Kept

/-! What an exchange may do to a transport at all.

It writes its frame, flushes once, and only reads from then on. So whatever part of a transport is
kept by each of these calls is kept by the whole exchange, and the link has it afterwards as it had
it before.
-/

set_option autoImplicit false

namespace VectorLink

open Activity (Reading reading_ofExcept)

namespace Request

theorem field_reading (length : Nat) : (field length).Reading :=
  (Reading.field length).mapError (Shortage.fault length)

theorem ranking_reading (requested : UInt32) : (ranking requested).Reading := by
  refine .bind (field_reading _) fun leading => .bind (reading_ofExcept _) fun count => ?_
  split
  · exact .pure _
  · exact .bind (.mapError _ (.whole _)) fun body => reading_ofExcept _

theorem reply_reading (request : Request) : request.reply.Reading := by
  cases request with
  | insert | search | delete | update | insertAuto =>
    exact .bind (field_reading _) fun _ => .pure _
  | select => exact .mapError _ (.bind (.field _) fun _ => .pure _)
  | searchMany vector count => exact ranking_reading count

end Request

variable {γ : Type} {part : Transport → γ}

theorem Request.converse_keeps (writes : ∀ offered, (Transport.write offered).Keeps part)
    (flushes : Transport.flush.Keeps part)
    (reads : ∀ buffer window, (Transport.read buffer window).Keeps part) (request : Request)
    (frame : List UInt8) : (request.converse frame).Keeps part :=
  (Transport.deliver_keeps writes flushes frame).bind fun _ =>
    Transport.reading_keeps reads request.reply_reading

-- However an exchange ends, the link goes on with the transport that it leaves.
theorem Link.transact_keeps (link : Link) {request : Request} {frame : List UInt8}
    (keeps : (request.converse frame).Keeps part) (patience : Patience) :
    part (link.transact request frame patience).link.transport = part link.transport := by
  have same := keeps (some (link.transport.clock + patience.budget link.limit.ticks)) link.transport
  unfold transact
  dsimp only
  split <;> rename_i run <;> rw [run] at same
  · exact same
  · exact same
  · split <;> exact same

theorem Link.shutdowns_transact (link : Link) (request : Request) (frame : List UInt8)
    (patience : Patience) :
    (link.transact request frame patience).link.transport.shutdowns = link.transport.shutdowns :=
  link.transact_keeps (request.converse_keeps (Transport.write_keeps fun _ _ _ _ => rfl)
    (Transport.flush_keeps fun _ _ _ _ => rfl) (Transport.read_keeps fun _ _ _ _ => rfl) frame)
    patience

end VectorLink
