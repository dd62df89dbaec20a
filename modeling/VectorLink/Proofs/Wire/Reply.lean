import VectorLink.Wire.Reply

/-! Reply fields are read as a server writes them.

A server writes every number of a reply least byte first. Each field read back gives the number
that was written, over the whole range of its type, and a row of ids comes back in its order.
-/

set_option autoImplicit false

namespace VectorLink.Reply

def idBytes (id : Int32) : List UInt8 := LittleEndian.encode idLength id.toUInt32.toNat

theorem length_idBytes (id : Int32) : (idBytes id).length = idLength :=
  LittleEndian.length_encode ..

theorem length_flatMap_idBytes (ids : List Int32) :
    (ids.flatMap idBytes).length = ids.length * idLength := by
  rw [List.length_flatMap, List.map_congr_left (fun id _ => length_idBytes id), List.map_const',
    List.sum_replicate_nat]

theorem nearest_idBytes (id : Int32) : nearest (idBytes id) = id := by
  have small : id.toUInt32.toNat < LittleEndian.capacity idLength := id.toUInt32.toNat_lt
  rw [nearest, idBytes, LittleEndian.decode_encode_of_lt small, UInt32.ofNat_toNat]
  exact Int32.toInt32_toUInt32 id

theorem assigned_encode (id : UInt64) :
    assigned (LittleEndian.encode assignedLength id.toNat) = id := by
  have small : id.toNat < LittleEndian.capacity assignedLength := id.toNat_lt
  rw [assigned, LittleEndian.decode_encode_of_lt small, UInt64.ofNat_toNat]

theorem count_encode {announced : Nat} {requested : UInt32} (few : announced ≤ requested.toNat) :
    count (LittleEndian.encode countLength announced) requested = .ok (UInt32.ofNat announced) := by
  have small : announced < UInt32.size := Nat.lt_of_le_of_lt few requested.toNat_lt
  have within : UInt32.ofNat announced ≤ requested := by
    rw [UInt32.le_iff_toNat_le, UInt32.toNat_ofNat_of_lt' small]
    exact few
  unfold count
  rw [LittleEndian.decode_encode_of_lt small]
  exact if_pos within

theorem groupIds_flatMap (read ids : List Int32) :
    groupIds read (ids.flatMap idBytes) = read.reverse ++ ids := by
  induction ids generalizing read with
  | nil => exact (List.append_nil read.reverse).symm
  | cons id rest ih =>
    -- the first four bytes are the first id
    have four : ∃ a b c d : UInt8, idBytes id = [a, b, c, d] := ⟨_, _, _, _, rfl⟩
    obtain ⟨a, b, c, d, bytes⟩ := four
    have value : nearest [a, b, c, d] = id := bytes ▸ nearest_idBytes id
    rw [List.flatMap_cons, bytes]
    show groupIds (nearest [a, b, c, d] :: read) (rest.flatMap idBytes) = _
    rw [ih, value, List.reverse_cons, List.append_assoc]
    rfl

theorem idBytes_nearest (a b c d : UInt8) : idBytes (nearest [a, b, c, d]) = [a, b, c, d] := by
  have small : LittleEndian.decode [a, b, c, d] < UInt32.size := LittleEndian.decode_lt _
  have value : (nearest [a, b, c, d]).toUInt32.toNat = LittleEndian.decode [a, b, c, d] :=
    UInt32.toNat_ofNat_of_lt' small
  rw [idBytes, value]
  exact LittleEndian.encode_decode [a, b, c, d]

theorem ranking_flatMap (ids : List Int32) : ranking (ids.flatMap idBytes) = .ok ids := by
  have whole : (ids.flatMap idBytes).length % idLength = 0 := by
    rw [length_flatMap_idBytes, Nat.mul_mod_left]
  rw [ranking, if_pos whole, groupIds_flatMap]
  rfl

theorem length_groupIds (read : List Int32) (bytes : List UInt8) :
    (groupIds read bytes).length = read.length + bytes.length / idLength := by
  fun_induction groupIds read bytes with
  | case1 read a b c d rest ih =>
    have four : (a :: b :: c :: d :: rest).length = rest.length + idLength := rfl
    rw [ih, four, Nat.add_div_right _ (by decide), List.length_cons]
    omega
  | case2 bytes read short =>
    have few : bytes.length < idLength := by
      match bytes, short with
      | [], _ | [_], _ | [_, _], _ | [_, _, _], _ => simp [idLength]
      | a :: b :: c :: d :: rest, short => exact absurd rfl (short a b c d rest)
    rw [List.length_reverse, Nat.div_eq_of_lt few, Nat.add_zero]

theorem flatMap_groupIds {bytes : List UInt8} (read : List Int32)
    (whole : bytes.length % idLength = 0) :
    (groupIds read bytes).flatMap idBytes = read.reverse.flatMap idBytes ++ bytes := by
  fun_induction groupIds read bytes with
  | case1 read a b c d rest ih =>
    have fewer : rest.length % idLength = 0 := by
      rw [← Nat.add_mod_right]
      exact whole
    rw [ih fewer, List.reverse_cons, List.flatMap_append, List.flatMap_singleton, idBytes_nearest,
      List.append_assoc]
    rfl
  | case2 bytes read short =>
    -- fewer than four bytes are a whole number of ids only if there are none
    match bytes, short with
    | [], _ => rw [List.append_nil]
    | [_], _ | [_, _], _ | [_, _, _], _ => cases whole
    | a :: b :: c :: d :: rest, short => exact absurd rfl (short a b c d rest)

/-- Bytes are read as those ids of which they are the wire form. -/
theorem ranking_eq_ok {bytes : List UInt8} {ids : List Int32} :
    ranking bytes = .ok ids ↔ ids.flatMap idBytes = bytes := by
  constructor
  · intro read
    unfold ranking at read
    split at read
    next whole =>
      cases read
      exact flatMap_groupIds [] whole
    next => cases read
  · rintro rfl
    exact ranking_flatMap ids

theorem exists_ranking {bytes : List UInt8} (whole : idLength ∣ bytes.length) :
    ∃ ids, ranking bytes = .ok ids ∧ ids.flatMap idBytes = bytes ∧
      ids.length = bytes.length / idLength := by
  have whole : bytes.length % idLength = 0 := Nat.mod_eq_zero_of_dvd whole
  refine ⟨groupIds [] bytes, if_pos whole, flatMap_groupIds [] whole, ?_⟩
  rw [length_groupIds]
  exact Nat.zero_add _

theorem ranking_violation_iff {bytes : List UInt8} :
    (∃ detail, ranking bytes = .error (.violation detail)) ↔ ¬idLength ∣ bytes.length := by
  constructor
  · rintro ⟨detail, failed⟩ whole
    obtain ⟨ids, read, -⟩ := exists_ranking whole
    cases failed.symm.trans read
  · intro ragged
    refine ⟨_, if_neg ?_⟩
    rwa [← Nat.dvd_iff_mod_eq_zero]

theorem ranking_append {first second : List UInt8} {one two : List Int32}
    (front : ranking first = .ok one) (back : ranking second = .ok two) :
    ranking (first ++ second) = .ok (one ++ two) := by
  rw [ranking_eq_ok] at front back ⊢
  rw [List.flatMap_append, front, back]

/-- Rows of ids and lists of ids stand for each other. Bytes that are not a whole number of ids break
the protocol, and no others do. Every list comes back from its row and every row from its list, four
bytes for an id. So as many bytes as a count announces are as many ids, and rows one behind the other
are read as their lists one behind the other. -/
theorem ranking_bijective :
    (∀ bytes, (∃ detail, ranking bytes = .error (.violation detail)) ↔ ¬idLength ∣ bytes.length) ∧
    (∀ ids, ranking (ids.flatMap idBytes) = .ok ids) ∧
    (∀ bytes, idLength ∣ bytes.length →
      ∃ ids, ranking bytes = .ok ids ∧ ids.flatMap idBytes = bytes ∧
        ids.length = bytes.length / idLength) ∧
    (∀ count bytes, bytes.length = rankingLength count →
      ∃ ids, ranking bytes = .ok ids ∧ ids.length = count.toNat) ∧
    ∀ first second, idLength ∣ first.length → idLength ∣ second.length →
      ∃ one two, ranking first = .ok one ∧ ranking second = .ok two ∧
        ranking (first ++ second) = .ok (one ++ two) := by
  refine ⟨fun _ => ranking_violation_iff, ranking_flatMap, fun _ => exists_ranking, ?_, ?_⟩
  · intro count bytes width
    have whole : idLength ∣ bytes.length := by
      rw [width]
      exact Nat.dvd_mul_left ..
    obtain ⟨ids, read, -, length⟩ := exists_ranking whole
    refine ⟨ids, read, ?_⟩
    rw [length, width, rankingLength, Nat.mul_div_cancel _ (by decide)]
  · intro first second whole too
    obtain ⟨one, front, -⟩ := exists_ranking whole
    obtain ⟨two, back, -⟩ := exists_ranking too
    exact ⟨one, two, front, back, ranking_append front back⟩

theorem ranking_bijective_extremes :
    (∃ one two, ranking [0x00, 0x00, 0x00, 0x80] = .ok one ∧ ranking [0xff, 0xff, 0xff, 0xff] = .ok two ∧
        ranking [0x00, 0x00, 0x00, 0x80, 0xff, 0xff, 0xff, 0xff] = .ok (one ++ two)) ∧
      ranking ([Int32.minValue, -1].flatMap idBytes) = .ok [Int32.minValue, -1] ∧
      [Int32.minValue, -1].flatMap idBytes = [0x00, 0x00, 0x00, 0x80, 0xff, 0xff, 0xff, 0xff] ∧
      ∃ detail, ranking [1, 2, 3] = .error (.violation detail) := by
  obtain ⟨ragged, back, -, -, behind⟩ := ranking_bijective
  refine ⟨?_, back _, by decide, ?_⟩
  · exact behind [0x00, 0x00, 0x00, 0x80] [0xff, 0xff, 0xff, 0xff] (by decide) (by decide)
  · exact (ragged _).mpr (by decide)

end VectorLink.Reply
