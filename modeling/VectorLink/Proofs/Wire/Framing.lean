import VectorLink.Link.Basic
import VectorLink.Wire.Framing

/-! Servers understand frames.

`Decodes` says of a decoder that it takes a string of bytes for a value, whatever comes behind it,
and takes no beginning of the string for anything. Both together are what lets frames that do not
carry their length stand one behind the other.
-/

set_option autoImplicit false

namespace VectorLink

/-- The decoder takes the bytes, and nothing less, for the value. -/
structure Decoder.Decodes {α : Type} (decoder : Decoder α) (bytes : List UInt8) (value : α) :
    Prop where
  whole : ∀ rest : List UInt8, decoder (bytes ++ rest) = some (value, rest)
  part : ∀ part : List UInt8, part <+: bytes → part ≠ bytes → decoder part = none

namespace Decoder

variable {α β : Type}

theorem decodes_pure (value : α) : Decodes (pure value) [] value := by
  constructor
  · intro rest
    rfl
  · intro part front short
    exact absurd (List.prefix_nil.mp front) short

theorem Decodes.bind {first : Decoder α} {next : α → Decoder β} {front back : List UInt8}
    {between : α} {value : β} (one : first.Decodes front between)
    (two : (next between).Decodes back value) : (first >>= next).Decodes (front ++ back) value := by
  constructor
  · intro rest
    show (first (front ++ back ++ rest)).bind _ = _
    rw [List.append_assoc, one.whole]
    exact two.whole rest
  · intro part whole short
    show (first part).bind _ = _
    by_cases beyond : front <+: part
    · obtain ⟨more, rfl⟩ := beyond
      rw [one.whole]
      apply two.part more
      · exact (List.prefix_append_right_inj front).mp whole
      · rintro rfl
        exact short rfl
    · -- a beginning that does not have all of the first string ends inside it
      have inside := (List.prefix_or_prefix_of_prefix whole (List.prefix_append front back)).resolve_right
        beyond
      rw [one.part part inside]
      · rfl
      · rintro rfl
        exact beyond List.prefix_rfl

end Decoder

namespace Framing

open Decoder (Decodes)

/-! ### Fields -/

theorem block_decodes (bytes : List UInt8) : (block bytes.length).Decodes bytes bytes := by
  constructor
  · intro rest
    unfold block
    rw [if_neg (by simp), List.take_left, List.drop_left]
  · intro part front short
    unfold block
    apply if_pos
    apply Nat.lt_of_le_of_ne front.length_le
    intro same
    exact short (front.eq_of_length same)

theorem word_decodes (value : UInt32) :
    word.Decodes (LittleEndian.encode 4 value.toNat) value := by
  -- a word is a block of four bytes and nothing behind it
  have four := block_decodes (LittleEndian.encode 4 value.toNat)
  rw [LittleEndian.length_encode] at four
  rw [← List.append_nil (LittleEndian.encode 4 value.toNat)]
  apply four.bind
  rw [LittleEndian.decode_encode_of_lt value.toNat_lt, UInt32.ofNat_toNat]
  exact Decoder.decodes_pure value

theorem words_decodes (vector : Components) :
    (words vector.length).Decodes (Frame.pack vector) vector := by
  induction vector with
  | nil => exact Decoder.decodes_pure []
  | cons first rest ih =>
    have split : Frame.pack (first :: rest) =
        LittleEndian.encode 4 first.toNat ++ (Frame.pack rest ++ []) := by
      rw [List.append_nil]
      rfl
    rw [split]
    apply (word_decodes first).bind
    apply ih.bind
    exact Decoder.decodes_pure (first :: rest)

theorem command_decodes (opcode : Opcode) : command.Decodes [opcode.code] opcode := by
  constructor
  · intro rest
    simp [command]
  · intro part front short
    cases part with
    | nil => rfl
    | cons code more =>
      have whole : (code :: more).length = [opcode.code].length :=
        Nat.le_antisymm front.length_le (by simp)
      exact absurd (front.eq_of_length whole) short

/-! ### Frames -/

end Framing

namespace Request

def parcel : Request → Framing.Parcel
  | insert id vector => ⟨.insert, id, .vector vector⟩
  | search vector => ⟨.search, 0, .vector vector⟩
  | delete id => ⟨.delete, id, .nothing⟩
  | select database dimension =>
    ⟨.select, UInt32.ofNat (utf8 database).length, .selection (utf8 database) dimension⟩
  | update id vector => ⟨.update, id, .vector vector⟩
  | insertAuto vector => ⟨.insertAuto, 0, .vector vector⟩
  | searchMany vector count => ⟨.searchMany, count, .vector vector⟩

def Fits (current : Framing.Current) (request : Request) : Prop :=
  ∀ vector ∈ request.vector?, vector.length = current.dimension.toNat

end Request

namespace Framing

open Decoder (Decodes)

theorem parcel_decodes_of_payload {current : Current} {opcode : Opcode} {argument : UInt32}
    {bytes : List UInt8} {content : Payload}
    (understood : (payload current argument opcode).Decodes bytes content) :
    (parcel current).Decodes (Frame.header opcode argument ++ bytes) ⟨opcode, argument, content⟩ := by
  apply (command_decodes opcode).bind
  apply (word_decodes argument).bind
  rw [← List.append_nil bytes]
  apply understood.bind
  exact Decoder.decodes_pure _

theorem vector_decodes {current : Current} {vector : Components}
    (fits : vector.length = current.dimension.toNat) :
    Decodes (words current.dimension.toNat >>= fun components => pure (.vector components))
      (Frame.pack vector) (Payload.vector vector) := by
  rw [← fits, ← List.append_nil (Frame.pack vector)]
  apply (words_decodes vector).bind
  exact Decoder.decodes_pure _

theorem selection_decodes {name : List UInt8} (short : name.length < UInt32.size)
    (dimension : UInt32) (current : Current) :
    (payload current (UInt32.ofNat name.length) .select).Decodes
      (name ++ LittleEndian.encode 4 dimension.toNat) (.selection name dimension) := by
  have announced : (UInt32.ofNat name.length).toNat = name.length :=
    UInt32.toNat_ofNat_of_lt' short
  unfold payload
  rw [announced, ← List.append_nil (LittleEndian.encode 4 dimension.toNat)]
  apply (block_decodes name).bind
  apply (word_decodes dimension).bind
  exact Decoder.decodes_pure _

/-- A frame is understood as the request it was made for, if the server goes by the dimension that
the client has measured the vector against. -/
theorem parcel_decodes {current : Current} {request : Request} {frame : List UInt8}
    (fits : request.Fits current) (framed : request.frame = .ok frame) :
    (parcel current).Decodes frame request.parcel := by
  cases request with
  | insert _ vector | search vector | update _ vector | insertAuto vector | searchMany vector =>
    cases framed
    apply parcel_decodes_of_payload
    exact vector_decodes (fits vector rfl)
  | delete id =>
    cases framed
    have plain : (payload current id .delete).Decodes [] .nothing := Decoder.decodes_pure _
    have all := parcel_decodes_of_payload plain
    rwa [List.append_nil] at all
  | select database dimension =>
    simp only [Request.frame, Frame.select] at framed
    split at framed
    · rename_i short
      cases framed
      rw [List.append_assoc]
      apply parcel_decodes_of_payload
      exact selection_decodes short dimension current
    · cases framed

/-! ### Streams -/

theorem read_append {current : Current} {bytes rest : List UInt8} {value : Parcel}
    (understood : (parcel current).Decodes bytes value) :
    read current (bytes ++ rest) =
      { read (value.after current) rest with
        parcels := value :: (read (value.after current) rest).parcels } := by
  rw [read]
  split
  · rename_i nothing
    rw [understood.whole] at nothing
    cases nothing
  · rename_i step
    rw [understood.whole] at step
    cases step
    rfl

theorem read_part {current : Current} {bytes part : List UInt8} {value : Parcel}
    (understood : (parcel current).Decodes bytes value) (front : part <+: bytes)
    (short : part ≠ bytes) : read current part = ⟨[], current, part⟩ := by
  rw [read]
  split
  · rfl
  · rename_i step
    rw [understood.part part front short] at step
    cases step

theorem read_nil (current : Current) : read current [] = ⟨[], current, []⟩ := by
  rw [read]
  rfl

theorem fromUTF8?_utf8 (text : String) : String.fromUTF8? ⟨(utf8 text).toArray⟩ = some text := by
  unfold utf8
  rw [Array.toArray_toList]
  exact dif_pos text.isValidUTF8

@[simp] theorem request?_parcel (request : Request) : request.parcel.request? = some request := by
  cases request with
  | select database dimension => simp [Request.parcel, Parcel.request?, fromUTF8?_utf8]
  | _ => rfl

theorem filterMap_request?_parcel (requests : List Request) :
    (requests.map Request.parcel).filterMap Parcel.request? = requests := by
  induction requests with
  | nil => rfl
  | cons first rest ih =>
    rw [List.map_cons, List.filterMap_cons_some (request?_parcel first), ih]

end Framing

end VectorLink
