import VectorLink.Wire.Request

/-! How a server cuts the bytes it receives into requests.

A frame begins with a header, its command and its argument. A select says how long its name is; any
other frame is as long as the dimension of the select before it demands, so a server has to keep
the select that is in force.
-/

set_option autoImplicit false

namespace VectorLink

/-- Takes a value off the front of a list of bytes, if it is all there. -/
abbrev Decoder := StateT (List UInt8) Option

namespace Framing

structure Current where
  name : List UInt8
  dimension : UInt32
  deriving DecidableEq, Repr

inductive Payload where
  | nothing
  | selection (name : List UInt8) (dimension : UInt32)
  | vector (components : Components)
  deriving DecidableEq, Repr

structure Parcel where
  opcode : Opcode
  argument : UInt32
  payload : Payload
  deriving DecidableEq, Repr

/-- The select in force after a frame. -/
def Parcel.after (current : Current) (parcel : Parcel) : Current :=
  match parcel.payload with
  | .selection name dimension => ⟨name, dimension⟩
  | .nothing | .vector _ => current

/-! ### Decoders -/

def block (length : Nat) : Decoder (List UInt8) := fun bytes =>
  if bytes.length < length then none else some (bytes.take length, bytes.drop length)

def word : Decoder UInt32 := do
  let bytes ← block 4
  return UInt32.ofNat (LittleEndian.decode bytes)

def words : Nat → Decoder Components
  | 0 => return []
  | count + 1 => do
    let first ← word
    let rest ← words count
    return first :: rest

def command : Decoder Opcode
  | [] => none
  | code :: bytes => (Opcode.ofCode? code).map (·, bytes)

def payload (current : Current) (argument : UInt32) : Opcode → Decoder Payload
  | .select => do
    let name ← block argument.toNat
    let dimension ← word
    return .selection name dimension
  | .delete => return .nothing
  | .insert | .search | .update | .insertAuto | .searchMany => do
    let components ← words current.dimension.toNat
    return .vector components

def parcel (current : Current) : Decoder Parcel := do
  let opcode ← command
  let argument ← word
  let payload ← payload current argument opcode
  return ⟨opcode, argument, payload⟩

def Shrinks {α : Type} (decoder : Decoder α) : Prop :=
  ∀ (bytes : List UInt8) (value : α) (rest : List UInt8),
    decoder bytes = some (value, rest) → rest.length ≤ bytes.length

variable {α β : Type}

theorem bind_eq_some {first : Decoder α} {next : α → Decoder β} {bytes rest : List UInt8}
    {value : β} (run : (first >>= next) bytes = some (value, rest)) :
    ∃ (between : α) (middle : List UInt8),
      first bytes = some (between, middle) ∧ next between middle = some (value, rest) := by
  cases step : first bytes with
  | none => simp [bind, StateT.bind, step] at run
  | some pair =>
    simp only [bind, StateT.bind, step, Option.bind_some] at run
    exact ⟨pair.1, pair.2, rfl, run⟩

theorem shrinks_pure (value : α) : Shrinks (pure value) := by
  intro bytes other rest run
  cases run
  exact Nat.le_refl _

theorem Shrinks.bind {first : Decoder α} {next : α → Decoder β} (shrinks : Shrinks first)
    (all : ∀ value, Shrinks (next value)) : Shrinks (first >>= next) := by
  intro bytes value rest run
  obtain ⟨between, middle, one, two⟩ := bind_eq_some run
  exact Nat.le_trans (all between middle value rest two) (shrinks bytes between middle one)

theorem shrinks_block (length : Nat) : Shrinks (block length) := by
  intro bytes value rest run
  unfold block at run
  split at run
  · cases run
  · cases run
    rw [List.length_drop]
    exact Nat.sub_le ..

theorem shrinks_word : Shrinks word := (shrinks_block 4).bind fun _ => shrinks_pure _

theorem shrinks_words (count : Nat) : Shrinks (words count) := by
  induction count with
  | zero => exact shrinks_pure _
  | succ count ih => exact shrinks_word.bind fun _ => ih.bind fun _ => shrinks_pure _

theorem shrinks_payload (current : Current) (argument : UInt32) (opcode : Opcode) :
    Shrinks (payload current argument opcode) := by
  cases opcode with
  | select =>
    exact (shrinks_block _).bind fun _ => shrinks_word.bind fun _ => shrinks_pure _
  | delete => exact shrinks_pure _
  | insert | search | update | insertAuto | searchMany =>
    exact (shrinks_words _).bind fun _ => shrinks_pure _

theorem length_parcel {current : Current} {bytes rest : List UInt8} {value : Parcel}
    (run : parcel current bytes = some (value, rest)) : rest.length < bytes.length := by
  obtain ⟨opcode, middle, one, two⟩ := bind_eq_some run
  have later := (shrinks_word.bind fun argument =>
    (shrinks_payload current argument opcode).bind fun _ => shrinks_pure _) middle value rest two
  cases bytes with
  | nil => cases one
  | cons code bytes =>
    obtain ⟨other, -, same⟩ := Option.map_eq_some_iff.mp one
    cases same
    exact Nat.lt_succ_of_le later

/-! ### Streams -/

/-- What a server makes of the bytes it has received. -/
structure Reading where
  parcels : List Parcel
  current : Current
  left : List UInt8
  deriving DecidableEq, Repr

/-- Reads frames as long as there are complete ones. -/
def read (current : Current) (bytes : List UInt8) : Reading :=
  match _step : parcel current bytes with
  | none => ⟨[], current, bytes⟩
  | some (parcel, rest) =>
    let later := read (parcel.after current) rest
    { later with parcels := parcel :: later.parcels }
  termination_by bytes.length
  decreasing_by exact length_parcel _step

/-- The request that a client sent as this frame. -/
def Parcel.request? (parcel : Parcel) : Option Request :=
  match parcel.opcode, parcel.payload with
  | .insert, .vector components => some (.insert parcel.argument components)
  | .search, .vector components => some (.search components)
  | .delete, .nothing => some (.delete parcel.argument)
  | .select, .selection name dimension =>
    (String.fromUTF8? ⟨name.toArray⟩).map (.select · dimension)
  | .update, .vector components => some (.update parcel.argument components)
  | .insertAuto, .vector components => some (.insertAuto components)
  | .searchMany, .vector components => some (.searchMany components parcel.argument)
  | _, _ => none

def parse (dimension : UInt32) (bytes : List UInt8) : List Request × List UInt8 :=
  let reading := read ⟨[], dimension⟩ bytes
  (reading.parcels.filterMap Parcel.request?, reading.left)

end Framing

end VectorLink
