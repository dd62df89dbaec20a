/-! Little-endian naturals over byte lists.

Every integer of the wire format goes through these two functions. `decode` undoes `encode` up to
the width, and `encode` undoes `decode` at the list's own length, so words and byte strings of one
width are in bijection.
-/

set_option autoImplicit false

namespace VectorLink.LittleEndian

/-- The `width` low bytes of `n`, least significant first. -/
def encode : Nat → Nat → List UInt8
  | 0, _ => []
  | width + 1, n => UInt8.ofNat n :: encode width (n / 256)

def capacity : Nat → Nat
  | 0 => 1
  | width + 1 => 256 * capacity width

def decode : List UInt8 → Nat
  | [] => 0
  | byte :: rest => byte.toNat + 256 * decode rest

@[simp] theorem encode_zero (n : Nat) : encode 0 n = [] := rfl

@[simp] theorem encode_succ (width n : Nat) :
    encode (width + 1) n = UInt8.ofNat n :: encode width (n / 256) := rfl

@[simp] theorem decode_nil : decode [] = 0 := rfl

@[simp] theorem decode_cons (byte : UInt8) (rest : List UInt8) :
    decode (byte :: rest) = byte.toNat + 256 * decode rest := rfl

@[simp] theorem length_encode (width n : Nat) : (encode width n).length = width := by
  induction width generalizing n with
  | zero => rfl
  | succ width ih => simp [ih]

theorem decode_encode (width n : Nat) : decode (encode width n) = n % capacity width := by
  induction width generalizing n with
  | zero => simp [capacity, Nat.mod_one]
  | succ width ih =>
    rw [encode_succ, decode_cons, ih, capacity, Nat.mod_mul]
    simp

theorem decode_encode_of_lt {width n : Nat} (small : n < capacity width) :
    decode (encode width n) = n := by
  rw [decode_encode, Nat.mod_eq_of_lt small]

theorem encode_decode (bytes : List UInt8) : encode bytes.length (decode bytes) = bytes := by
  induction bytes with
  | nil => rfl
  | cons byte rest ih =>
    have low : byte.toNat < 256 := byte.toNat_lt
    have quotient : (byte.toNat + 256 * decode rest) / 256 = decode rest := by omega
    have head : UInt8.ofNat (byte.toNat + 256 * decode rest) = byte := by
      apply UInt8.toNat_inj.1
      rw [UInt8.toNat_ofNat']
      omega
    rw [List.length_cons, encode_succ, decode_cons, quotient, head, ih]

theorem decode_lt (bytes : List UInt8) : decode bytes < capacity bytes.length := by
  induction bytes with
  | nil => simp [capacity]
  | cons byte rest ih =>
    have low : byte.toNat < 256 := byte.toNat_lt
    rw [decode_cons, List.length_cons, capacity]
    omega

end VectorLink.LittleEndian
