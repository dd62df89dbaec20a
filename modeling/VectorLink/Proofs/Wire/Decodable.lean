import VectorLink.Proofs.Link.Call
import VectorLink.Proofs.Wire.Framing

/-! Frames tell requests apart.

No frame says where it ends, and none but a select says how long any part of it is. Even so, among
requests whose vectors have one length no frame is the beginning of another: the command byte says
what follows the header, and the argument or the common length says how much of it. So a stream of
frames has one reading only.
-/

set_option autoImplicit false

namespace VectorLink

theorem Decoder.Decodes.unique {α : Type} {decoder : Decoder α} {one two : List UInt8}
    {first second : α} (left : decoder.Decodes one first) (right : decoder.Decodes two second)
    {behind beyond : List UInt8} (same : one ++ behind = two ++ beyond) :
    first = second ∧ behind = beyond := by
  have run := left.whole behind
  rw [same, right.whole beyond] at run
  cases run
  exact ⟨rfl, rfl⟩

@[simp] theorem length_utf8 (text : String) : (utf8 text).length = text.utf8ByteSize := rfl

namespace Frame

variable {behind beyond : List UInt8}

@[simp] theorem length_header (opcode : Opcode) (argument : UInt32) :
    (header opcode argument).length = headerLength := rfl

@[simp] theorem length_pack (vector : Components) : (pack vector).length = 4 * vector.length := by
  induction vector with
  | nil => rfl
  | cons first rest ih =>
    show (LittleEndian.encode 4 first.toNat ++ pack rest).length = _
    rw [List.length_append, LittleEndian.length_encode, ih, List.length_cons]
    omega

theorem header_unique {first second : Opcode} {one two : UInt32}
    (same : header first one ++ behind = header second two ++ beyond) :
    first = second ∧ one = two ∧ behind = beyond := by
  obtain ⟨command, rest⟩ :=
    (Framing.command_decodes first).unique (Framing.command_decodes second) same
  obtain ⟨argument, rest⟩ := (Framing.word_decodes one).unique (Framing.word_decodes two) rest
  exact ⟨command, argument, rest⟩

theorem pack_unique {first second : Components} (even : first.length = second.length)
    (same : pack first ++ behind = pack second ++ beyond) : first = second ∧ behind = beyond := by
  apply (Framing.words_decodes first).unique _ same
  rw [even]
  exact Framing.words_decodes second

end Frame

namespace Framing

attribute [ext] Parcel

/-- Behind a header of this command and argument, where vectors have so many components, the bytes
are the wire form of the payload. -/
inductive Announced (dimension : Nat) (argument : UInt32) :
    Opcode → Payload → List UInt8 → Prop where
  | nothing : Announced dimension argument .delete .nothing []
  | selection {name : List UInt8} (wanted : UInt32) : name.length = argument.toNat →
      Announced dimension argument .select (.selection name wanted)
        (name ++ LittleEndian.encode 4 wanted.toNat)
  | vector {opcode : Opcode} {components : Components} : opcode ≠ .delete → opcode ≠ .select →
      components.length = dimension →
      Announced dimension argument opcode (.vector components) (Frame.pack components)

theorem Announced.unique {dimension : Nat} {argument : UInt32} {opcode : Opcode}
    {first second : Payload} {one two behind beyond : List UInt8}
    (left : Announced dimension argument opcode first one)
    (right : Announced dimension argument opcode second two)
    (same : one ++ behind = two ++ beyond) : first = second ∧ behind = beyond := by
  cases left with
  | nothing =>
    cases right with
    | nothing => exact ⟨rfl, same⟩
    | vector plain => exact absurd rfl plain
  | selection wanted long =>
    cases right with
    | selection other too =>
      rw [List.append_assoc, List.append_assoc] at same
      obtain ⟨rfl, rest⟩ := List.append_inj same (long.trans too.symm)
      obtain ⟨word, rest⟩ := (word_decodes wanted).unique (word_decodes other) rest
      exact ⟨congrArg (Payload.selection _) word, rest⟩
    | vector _ plain => exact absurd rfl plain
  | vector delete select long =>
    cases right with
    | nothing => exact absurd rfl delete
    | selection => exact absurd rfl select
    | vector _ _ too =>
      obtain ⟨rfl, rest⟩ := Frame.pack_unique (long.trans too.symm) same
      exact ⟨rfl, rest⟩

end Framing

namespace Request

open Framing (Announced)

variable {request : Request} {frame : List UInt8}

/-- The argument field can count the bytes of the name, if there is one. -/
def Countable (request : Request) : Prop :=
  ∀ database dimension, request = .select database dimension → database.utf8ByteSize < UInt32.size

def Measures (dimension : Nat) (request : Request) : Prop :=
  ∀ vector ∈ request.vector?, vector.length = dimension

theorem exists_frame (short : request.Countable) : ∃ frame, request.frame = .ok frame := by
  cases request with
  | select database dimension => exact ⟨_, if_pos (short database dimension rfl)⟩
  | _ => exact ⟨_, rfl⟩

theorem announced_of_frame {dimension : Nat}
    (even : request.Measures dimension)
    (framed : request.frame = .ok frame) :
    ∃ bytes, frame = Frame.header request.parcel.opcode request.parcel.argument ++ bytes ∧
      Announced dimension request.parcel.argument request.parcel.opcode request.parcel.payload
        bytes := by
  cases request with
  | insert _ vector | search vector | update _ vector | insertAuto vector | searchMany vector =>
    cases framed
    exact ⟨_, rfl, .vector (by simp [parcel]) (by simp [parcel]) (even vector rfl)⟩
  | delete id =>
    cases framed
    exact ⟨[], (List.append_nil _).symm, .nothing⟩
  | select database wanted =>
    simp only [Request.frame, Frame.select] at framed
    split at framed
    · rename_i short
      cases framed
      exact ⟨_, List.append_assoc .., .selection wanted (UInt32.toNat_ofNat_of_lt' short).symm⟩
    · cases framed

theorem parcel_injective {first second : Request} (same : first.parcel = second.parcel) :
    first = second := by
  have back := congrArg Framing.Parcel.request? same
  rw [Framing.request?_parcel, Framing.request?_parcel] at back
  exact Option.some.inj back

/-- No stream begins with the frames of two requests whose vectors have one length. -/
theorem frame_unique {first second : Request} {one two behind beyond : List UInt8}
    {dimension : Nat} (even : first.Measures dimension)
    (too : second.Measures dimension)
    (framed : first.frame = .ok one) (other : second.frame = .ok two)
    (same : one ++ behind = two ++ beyond) : first = second ∧ behind = beyond := by
  obtain ⟨left, rfl, ahead⟩ := announced_of_frame even framed
  obtain ⟨right, rfl, later⟩ := announced_of_frame too other
  rw [List.append_assoc, List.append_assoc] at same
  obtain ⟨command, argument, rest⟩ := Frame.header_unique same
  rw [← command, ← argument] at later
  obtain ⟨payload, rest⟩ := ahead.unique later rest
  constructor
  · apply parcel_injective
    exact Framing.Parcel.ext command argument payload
  · exact rest

/-- The bytes are a frame that agrees with what is said of the request elsewhere. -/
structure Framed (request : Request) (frame : List UInt8) : Prop where
  command : frame.head? = some request.opcode.code
  vector : ∀ vector, request.vector? = some vector →
    frame.length = 5 + 4 * vector.length ∧ frame.drop 5 = Frame.pack vector
  delete : ∀ id, request = .delete id → frame.length = 5
  select : ∀ database dimension, request = .select database dimension →
    frame.length = 5 + database.utf8ByteSize + 4

theorem framed_of_frame (framed : request.frame = .ok frame) : request.Framed frame := by
  cases request with
  | insert _ vector | search vector | update _ vector | insertAuto vector | searchMany vector =>
    cases framed
    constructor
    · rfl
    · intro _ carried
      cases carried
      constructor
      · simp [Frame.withVector, Frame.headerLength]
      · exact List.drop_left' (Frame.length_header ..)
    · intro _ other
      cases other
    · intro _ _ other
      cases other
  | delete id =>
    cases framed
    constructor
    · rfl
    · intro _ carried
      cases carried
    · intro _ _
      rfl
    · intro _ _ other
      cases other
  | select database dimension =>
    simp only [Request.frame, Frame.select] at framed
    split at framed
    · cases framed
      constructor
      · rfl
      · intro _ carried
        cases carried
      · intro _ other
        cases other
      · intro _ _ same
        cases same
        simp [Frame.headerLength, Nat.add_assoc]
    · cases framed

theorem frameFor_eq_ok_iff {selection : Selection} :
    request.frameFor selection = .ok frame ↔
      request.frame = .ok frame ∧ request.Measures selection.dimension.toNat := by
  constructor
  · intro framed
    constructor
    · exact frame_of_frameFor framed
    · intro vector carried
      rw [frameFor_eq, Option.mem_def.mp carried] at framed
      dsimp only at framed
      split at framed
      · assumption
      · cases framed
  · rintro ⟨framed, measured⟩
    rw [frameFor_eq]
    cases carried : request.vector? with
    | none => exact framed
    | some vector => exact (if_pos (measured vector carried)).trans framed

theorem vector?_eq_none_iff :
    request.vector? = none ↔
      (∃ id, request = .delete id) ∨ ∃ database dimension, request = .select database dimension := by
  cases request <;> simp [vector?]

/-- A request whose name can be counted has a frame that opens with its command and is as long as
its vector or its name makes it. On a link the frame goes out exactly if the vector in it is of the
selected dimension. And a stream begins with one such frame only, whatever follows. -/
theorem frames_decodable :
    (∀ request : Request, request.Countable →
      ∃ frame, request.frame = .ok frame ∧ request.Framed frame) ∧
    (∀ request : Request, request.vector? = none ↔
      (∃ id, request = .delete id) ∨ ∃ database dimension, request = .select database dimension) ∧
    (∀ (request : Request) (selection : Selection) (frame : List UInt8),
      request.frameFor selection = .ok frame ↔
        request.frame = .ok frame ∧ request.Measures selection.dimension.toNat) ∧
    ∀ (first second : Request) (dimension : Nat) (one two behind beyond : List UInt8),
      first.Measures dimension → second.Measures dimension →
      first.frame = .ok one → second.frame = .ok two → one ++ behind = two ++ beyond →
      first = second ∧ behind = beyond := by
  refine ⟨?_, fun _ => vector?_eq_none_iff, fun _ _ _ => frameFor_eq_ok_iff, ?_⟩
  · intro request short
    obtain ⟨frame, framed⟩ := exists_frame short
    exact ⟨frame, framed, framed_of_frame framed⟩
  · intro first second dimension one two behind beyond even too framed other same
    exact frame_unique even too framed other same

/-- The name of a database is counted in bytes. The vector of a ranking is counted by nobody, yet a
stream that begins with one has a single reading among requests of its dimension. -/
theorem frames_decodable_accented :
    (∃ frame, (Request.select "é" 3).frame = .ok frame ∧ (Request.select "é" 3).Framed frame) ∧
      (Request.select "é" 3).frame = .ok [4, 2, 0, 0, 0, 0xC3, 0xA9, 3, 0, 0, 0] ∧
      ∀ (other : Request) (frame beyond : List UInt8), other.Measures 2 → other.frame = .ok frame →
        [7, 9, 0, 0, 0, 0, 0, 0x80, 0x3F, 0, 0, 0, 0, 2] = frame ++ beyond →
        other = .searchMany [0x3F800000, 0] 9 ∧ beyond = [2] := by
  obtain ⟨frames, -, -, unique⟩ := frames_decodable
  refine ⟨frames _ ?_, rfl, ?_⟩
  · intro database dimension same
    cases same
    decide
  · intro other frame beyond even framed begins
    -- the stream is the frame of this ranking and one byte more
    have measured : (Request.searchMany [0x3F800000, 0] 9).Measures 2 := by
      intro vector carried
      cases carried
      rfl
    obtain ⟨same, rest⟩ := unique _ other 2 _ frame [2] beyond measured even rfl framed begins
    exact ⟨same.symm, rest.symm⟩

end Request

end VectorLink
