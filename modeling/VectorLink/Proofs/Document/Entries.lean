import Mathlib.Data.List.Forall2
import Mathlib.Data.List.Nodup
import Mathlib.Data.List.Perm.Subperm
import VectorLink.Proofs.Document.Record

/-! Entries by their names.

Where no name comes twice, what is found under a name does not depend on the order of the entries.
-/

set_option autoImplicit false

namespace VectorLink.Document

variable {slots : List Slot}

/-! ### Slots by their names -/

theorem kindOf?_eq_none {name : String} (unknown : name ∉ slots.map Slot.name) :
    kindOf? slots name = none := by
  rw [kindOf?, Option.map_eq_none_iff, List.find?_eq_none]
  intro slot member same
  exact unknown (of_decide_eq_true same ▸ List.mem_map_of_mem member)

theorem kindOf?_of_mem {slot : Slot} (named : (slots.map Slot.name).Nodup) (member : slot ∈ slots) :
    kindOf? slots slot.name = some slot.kind := by
  cases found : slots.find? (fun other => other.name = slot.name) with
  | none => simpa using List.find?_eq_none.mp found slot member
  | some other =>
    have sameName : other.name = slot.name := by simpa using List.find?_some found
    have same := List.inj_on_of_nodup_map named (List.mem_of_find?_eq_some found) member sameName
    rw [kindOf?, found, same]
    rfl

/-! ### Looking entries up -/

namespace Entries

variable {entries part : Entries}

theorem lookup_of_not_mem {name : String} (unnamed : name ∉ entries.map Prod.fst) :
    entries.lookup name = none := by
  refine List.lookup_eq_none_iff.mpr fun entry member => bne_iff_ne.mpr ?_
  rintro rfl
  exact unnamed (List.mem_map_of_mem member)

theorem Distinct.subperm (distinct : entries.Distinct) (among : part.Subperm entries) :
    part.Distinct := by
  obtain ⟨ordered, same, sublist⟩ := among
  exact (same.map Prod.fst).nodup_iff.mp ((sublist.map Prod.fst).nodup distinct)

theorem Distinct.lookup_of_mem (distinct : entries.Distinct) {entry : String × Scalar}
    (member : entry ∈ entries) : entries.lookup entry.1 = some entry.2 := by
  cases found : entries.lookup entry.1 with
  | none => simpa using List.lookup_eq_none_iff.mp found entry member
  | some value =>
    -- what was found is an entry of the same name, and there is only one
    obtain ⟨before, after, split, -⟩ := List.lookup_eq_some_iff.mp found
    have inside : (entry.1, value) ∈ entries := split ▸ List.mem_append_right before (.head after)
    rw [List.inj_on_of_nodup_map distinct member inside rfl]

/-- Of some of the entries, in any order, each is found as it is among all. -/
theorem Distinct.lookup_subperm (distinct : entries.Distinct) (among : part.Subperm entries)
    (name : String) :
    part.lookup name = if name ∈ part.map Prod.fst then entries.lookup name else none := by
  split
  next named =>
    obtain ⟨entry, member, rfl⟩ := List.mem_map.mp named
    rw [(distinct.subperm among).lookup_of_mem member,
      distinct.lookup_of_mem (among.subset member)]
  next unnamed => exact lookup_of_not_mem unnamed

theorem Distinct.lookup_perm (distinct : entries.Distinct) (same : part.Perm entries)
    (name : String) : part.lookup name = entries.lookup name := by
  rw [distinct.lookup_subperm same.subperm]
  split
  next => rfl
  next unnamed =>
    rw [(same.map Prod.fst).mem_iff] at unnamed
    exact (lookup_of_not_mem unnamed).symm

end Entries

/-! ### Entries of all slots -/

abbrev Fills : List Slot → Entries → Prop :=
  List.Forall₂ fun slot entry => slot.name = entry.1 ∧ slot.kind.Admits entry.2

namespace Fills

variable {entries : Entries}

theorem names (fills : Fills slots entries) : entries.map Prod.fst = slots.map Slot.name := by
  induction fills with
  | nil => rfl
  | cons fits _ ih => rw [List.map_cons, List.map_cons, ih, fits.1]

theorem admitted (fills : Fills slots entries) : entries.Admitted slots := by
  induction fills with
  | nil => exact List.forall_mem_nil _
  | @cons slot entry slots entries fits _ ih =>
    refine List.forall_mem_cons.mpr ⟨⟨slot, .head _, fits⟩, fun entry inside => ?_⟩
    obtain ⟨other, member, fits⟩ := ih entry inside
    exact ⟨other, .tail _ member, fits⟩

theorem distinct (fills : Fills slots entries) (named : (slots.map Slot.name).Nodup) :
    entries.Distinct := by
  rwa [Entries.Distinct, fills.names]

theorem lookups (fills : Fills slots entries) (named : (slots.map Slot.name).Nodup) :
    (slots.map fun slot => entries.lookup slot.name) = entries.map fun entry => some entry.2 := by
  calc
    (slots.map fun slot => entries.lookup slot.name)
        = (entries.map Prod.fst).map fun name => entries.lookup name := by
          rw [fills.names, List.map_map]
          rfl
    _ = entries.map fun entry => some entry.2 := by
          rw [List.map_map]
          exact List.map_congr_left fun entry member => (fills.distinct named).lookup_of_mem member

end Fills

end VectorLink.Document
