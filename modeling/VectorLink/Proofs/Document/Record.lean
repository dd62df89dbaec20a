import VectorLink.Proofs.Document.Scalar

/-! Reading a record takes exactly what is written as one.

What is read of it is what its known members hold: their order, and the members that are not known,
leave no trace.
-/

set_option autoImplicit false

namespace VectorLink.Document

/-! ### Members -/

theorem colon_eq_ok {text start : List Char} :
    colon text = .ok start ↔ ∃ space, Blanks text (':' :: space) ∧ start = dropBlanks space := by
  constructor
  · intro read
    have blanks := blanks_dropBlanks text
    unfold colon at read
    split at read
    next => cases read
    next space same =>
      cases read
      exact ⟨space, same ▸ blanks, rfl⟩
    next => cases read
  · rintro ⟨space, blanks, rfl⟩
    unfold colon
    rw [dropBlanks_eq_cons blanks rfl]
    rfl

def fill (entries : Entries) (slots : List Slot) : List Slot :=
  slots.map fun slot => { slot with held := entries.lookup slot.name }

def Entries.Distinct (entries : Entries) : Prop := (entries.map Prod.fst).Nodup

theorem find?_fill (entries : Entries) (slots : List Slot) (name : String) :
    (fill entries slots).find? (fun slot => slot.name = name) =
      (slots.find? (fun slot => slot.name = name)).map
        (fun slot => { slot with held := entries.lookup slot.name }) := by
  rw [fill, List.find?_map]
  rfl

theorem put_fill {seen : Entries} {name : String} (unseen : seen.lookup name = none)
    (slots : List Slot) (value : Scalar) :
    put (fill seen slots) name value = fill (seen ++ [(name, value)]) slots := by
  unfold put fill
  rw [List.map_map]
  refine List.map_congr_left fun slot _ => ?_
  simp only [Function.comp, List.lookup_append]
  by_cases same : slot.name = name
  · subst same
    simp [unseen]
  · simp [List.lookup_cons, beq_eq_false_iff_ne.mpr same, same]

theorem Entries.distinct_append_singleton {seen : Entries} {name : String} {value : Scalar} :
    Distinct (seen ++ [(name, value)]) ↔ seen.Distinct ∧ seen.lookup name = none := by
  unfold Distinct
  rw [List.map_append, List.nodup_append, List.lookup_eq_none_iff]
  constructor
  · rintro ⟨distinct, -, apart⟩
    refine ⟨distinct, fun entry member => ?_⟩
    exact bne_iff_ne.mpr (apart entry.1 (List.mem_map_of_mem member) name (.head _)).symm
  · rintro ⟨distinct, unseen⟩
    refine ⟨distinct, List.pairwise_singleton .., fun other inside same isSame => ?_⟩
    obtain ⟨entry, member, rfl⟩ := List.mem_map.mp inside
    obtain rfl := List.mem_singleton.mp isSame
    exact (bne_iff_ne.mp (unseen entry member)).symm

theorem member_of_readMember {seen : Entries} {slots after : List Slot} {name : String}
    {text gap rest : List Char} (distinct : seen.Distinct) (quoted : Quoted text name.toList gap)
    (read : readMember (fill seen slots) name gap = .ok (after, rest)) :
    ∃ entries, Member slots ('"' :: text) entries rest ∧ after = fill (seen ++ entries) slots ∧
      Entries.Distinct (seen ++ entries) := by
  unfold readMember at read
  rw [find?_fill] at read
  -- the value of an unknown member is passed over, and that of a known one is put into its slot
  cases found : slots.find? (fun slot => slot.name = name) with
  | none =>
    rw [found] at read
    dsimp only [Option.map_none] at read
    split at read
    next => cases read
    next start colon =>
    split at read
    next => cases read
    next behind skipped =>
    cases read
    obtain ⟨space, blanks, rfl⟩ := colon_eq_ok.mp colon
    obtain ⟨start, spaces, form⟩ := wellFormed_of_skip skipped
    have unknown : kindOf? slots name = none := by rw [kindOf?, found]; rfl
    rw [← List.append_nil seen] at distinct
    refine ⟨[], .other quoted blanks ((blanks_dropBlanks space).trans spaces) unknown form, ?_,
      distinct⟩
    rw [List.append_nil]
  | some slot =>
    rw [found] at read
    dsimp only [Option.map_some] at read
    split at read
    next => cases read
    next unheld =>
    split at read
    next => cases read
    next start colon =>
    split at read
    next => cases read
    next value behind held =>
    cases read
    obtain ⟨space, blanks, rfl⟩ := colon_eq_ok.mp colon
    have isName : slot.name = name := by simpa using List.find?_some found
    have unseen : seen.lookup name = none := by
      rwa [isName, Bool.not_eq_true, Option.isSome_eq_false_iff, Option.isNone_iff_eq_none] at unheld
    have known : kindOf? slots name = some slot.kind := by rw [kindOf?, found]; rfl
    exact ⟨[(name, value)], .known quoted blanks (blanks_dropBlanks space) known
      (Kind.holds_of_read held), put_fill unseen slots value,
      Entries.distinct_append_singleton.mpr ⟨distinct, unseen⟩⟩

theorem readMember_of_member {seen entries : Entries} {slots : List Slot} {text rest : List Char}
    (fits : ∀ slot ∈ slots, slot.kind.Fits) (member : Member slots text entries rest)
    (distinct : Entries.Distinct (seen ++ entries)) (leaves : Leaves prolongs rest) :
    ∃ inside name gap, text = '"' :: inside ∧ unquote [] inside = .ok (name, gap) ∧
      readMember (fill seen slots) name gap = .ok (fill (seen ++ entries) slots, rest) := by
  cases member with
  | @known inside gap space item _ name kind value quoted blanks spaces known holds =>
    refine ⟨inside, name, gap, rfl, unquote_eq_ok.mpr quoted, ?_⟩
    obtain ⟨slot, found, rfl⟩ := Option.map_eq_some_iff.mp known
    have isName : slot.name = name := by simpa using List.find?_some found
    obtain ⟨_, unseen⟩ := Entries.distinct_append_singleton.mp distinct
    obtain ⟨char, more, rfl, inked, _⟩ := holds.begins
    have read := Kind.read_of_holds (fits slot (List.mem_of_find?_eq_some found)) holds leaves
    unfold readMember
    rw [find?_fill, found]
    simp only [Option.map_some, isName, unseen, Option.isSome_none, Bool.false_eq_true, if_false,
      colon_eq_ok.mpr ⟨space, blanks, rfl⟩, dropBlanks_eq_cons spaces inked, read,
      put_fill unseen]
  | @other inside gap space item _ name quoted blanks spaces unknown form =>
    refine ⟨inside, name, gap, rfl, unquote_eq_ok.mpr quoted, ?_⟩
    obtain ⟨char, more, rfl, inked, _⟩ := form.begins
    have unfound : slots.find? (fun slot => slot.name = name) = none :=
      Option.map_eq_none_iff.mp unknown
    unfold readMember
    rw [find?_fill, unfound, List.append_nil]
    simp only [Option.map_none, colon_eq_ok.mpr ⟨space, blanks, rfl⟩,
      dropBlanks_eq_cons spaces inked, skip_of_wellFormed (.none _) form leaves]

theorem members_of_readMembers {seen : Entries} {slots after : List Slot} {text rest : List Char}
    (distinct : seen.Distinct) (read : readMembers (fill seen slots) text = .ok (after, rest)) :
    ∃ entries, Members slots text entries rest ∧ after = fill (seen ++ entries) slots ∧
      Entries.Distinct (seen ++ entries) := by
  generalize same : fill seen slots = filled at read
  fun_induction readMembers filled text generalizing seen with
  | case5 filled inside name gap quoted filled behind member rest closing =>
    subst same
    cases read
    obtain ⟨entries, form, same, distinct⟩ :=
      member_of_readMember distinct (unquote_eq_ok.mp quoted) member
    exact ⟨entries, .last form (closing ▸ blanks_dropBlanks behind), same, distinct⟩
  | case6 filled inside name gap quoted filled behind member more comma ih =>
    subst same
    obtain ⟨entries, form, same, distinct⟩ :=
      member_of_readMember distinct (unquote_eq_ok.mp quoted) member
    obtain ⟨further, forms, rfl, distinct⟩ := ih distinct same.symm read
    refine ⟨entries ++ further, .more form (comma ▸ blanks_dropBlanks behind)
      (blanks_dropBlanks more) forms, ?_, ?_⟩ <;> rw [← List.append_assoc]
    exact distinct
  | case1 | case2 | case3 | case4 | case7 | case8 => cases read

theorem readMembers_eq {slots after : List Slot} {inside gap behind : List Char} {name : String}
    (quoted : unquote [] inside = .ok (name, gap))
    (read : readMember slots name gap = .ok (after, behind)) :
    readMembers slots ('"' :: inside) =
      match dropBlanks behind with
      | [] => .error .endOfText
      | '}' :: rest => .ok (after, rest)
      | ',' :: rest => readMembers after (dropBlanks rest)
      | _ => .error .malformed := by
  rw [readMembers]
  split
  next failed => cases quoted.symm.trans failed
  next same =>
    cases quoted.symm.trans same
    split
    next failed => cases read.symm.trans failed
    next same =>
      cases read.symm.trans same
      grind

theorem Members.begins {slots : List Slot} {text rest : List Char} {entries : Entries}
    (members : Members slots text entries rest) : ∃ inside, text = '"' :: inside := by
  cases members with
  | last member | more member => cases member <;> exact ⟨_, rfl⟩

theorem readMembers_of_members {seen entries : Entries} {slots : List Slot} {text rest : List Char}
    (fits : ∀ slot ∈ slots, slot.kind.Fits) (members : Members slots text entries rest)
    (distinct : Entries.Distinct (seen ++ entries)) :
    readMembers (fill seen slots) text = .ok (fill (seen ++ entries) slots, rest) := by
  induction members generalizing seen with
  | @last text after rest entries member blanks =>
    obtain ⟨inside, name, gap, rfl, quoted, read⟩ :=
      readMember_of_member fits member distinct (blanks.leaves (.cons rfl rest))
    rw [readMembers_eq quoted read, dropBlanks_eq_cons blanks rfl]
    rfl
  | @more text after gap next rest entries further member blanks spaces members ih =>
    rw [← List.append_assoc] at distinct ⊢
    have shorter : Entries.Distinct (seen ++ entries) := by
      unfold Entries.Distinct at distinct ⊢
      rw [List.map_append] at distinct
      exact (List.nodup_append.mp distinct).1
    obtain ⟨inside, name, gap, rfl, quoted, read⟩ :=
      readMember_of_member fits member shorter (blanks.leaves (.cons rfl gap))
    obtain ⟨more, rfl⟩ := members.begins
    rw [readMembers_eq quoted read, dropBlanks_eq_cons blanks rfl, ← ih distinct,
      ← dropBlanks_eq_cons spaces rfl]
    rfl

/-! ### Lists -/

def Unread (slots : List Slot) : Prop := ∀ slot ∈ slots, slot.held = none

instance (slots : List Slot) : Decidable (Unread slots) :=
  inferInstanceAs (Decidable (∀ slot ∈ slots, slot.held = none))

theorem fill_nil {slots : List Slot} (unread : Unread slots) : fill [] slots = slots := by
  refine (List.map_congr_left fun slot member => ?_).trans (List.map_id slots)
  rw [List.lookup_nil, ← unread slot member]
  rfl

theorem fill_cons {slot : Slot} {slots : List Slot} {entries : Entries} {value : Scalar}
    (apart : slot.name ∉ slots.map Slot.name) :
    fill ((slot.name, value) :: entries) (slot :: slots) =
      { slot with held := some value } :: fill entries slots := by
  unfold fill
  rw [List.map_cons, List.lookup_cons_self]
  refine congrArg _ (List.map_congr_left fun other member => ?_)
  have different : other.name ≠ slot.name := fun same =>
    apart (same ▸ List.mem_map_of_mem member)
  rw [List.lookup_cons, beq_eq_false_iff_ne.mpr different]

theorem items_of_readItems {first : Bool} {slots after : List Slot} {text rest : List Char}
    (unread : Unread slots) (named : (slots.map Slot.name).Nodup)
    (read : readItems first slots text = .ok (after, rest)) :
    ∃ entries, Items first slots text entries rest ∧ after = fill entries slots := by
  induction slots generalizing first after text with
  | nil =>
    have blanks := blanks_dropBlanks text
    unfold readItems at read
    split at read
    next => cases read
    next rest closing =>
      cases read
      exact ⟨[], .closed (closing ▸ blanks), rfl⟩
    next => cases read
  | cons slot slots ih =>
    have blanks := blanks_dropBlanks text
    unfold readItems at read
    split at read
    next => cases read
    next rest closing =>
      cases read
      exact ⟨[], .closed (closing ▸ blanks), (fill_nil unread).symm⟩
    -- the list goes on: a comma unless this is the first value, then the value, then the others
    next char more _ begins =>
    rw [begins] at blanks
    simp only [bind, Except.bind, pure, Except.pure, throw, throwThe, MonadExceptOf.throw] at read
    split at read
    next => cases read
    next led =>
    have led : Led first text (if first = true then char :: more else dropBlanks more) := by
      cases first with
      | true => exact .first blanks
      | false =>
        obtain rfl : char = ',' := by simpa using led
        exact .next blanks (blanks_dropBlanks more)
    generalize (if first = true then char :: more else dropBlanks more) = item at led read
    split at read
    next => cases read
    next =>
    cases held : slot.kind.read item with
    | error problem =>
      rw [held] at read
      cases read
    | ok pair =>
    obtain ⟨value, behind⟩ := pair
    rw [held] at read
    dsimp only at read
    cases others : readItems false slots behind with
    | error problem =>
      rw [others] at read
      cases read
    | ok pair =>
    obtain ⟨slots, after⟩ := pair
    rw [others] at read
    cases read
    obtain ⟨apart, named⟩ := List.nodup_cons.mp named
    obtain ⟨entries, items, rfl⟩ := ih (fun slot member => unread slot (.tail _ member)) named others
    exact ⟨(slot.name, value) :: entries, .item led (Kind.holds_of_read held) items,
      (fill_cons apart).symm⟩

theorem Items.leaves {slots : List Slot} {text rest : List Char} {entries : Entries}
    (items : Items false slots text entries rest) : Leaves prolongs text := by
  cases items with
  | closed blanks => exact blanks.leaves (.cons rfl rest)
  | item led =>
    cases led with
    | next blanks => exact blanks.leaves (.cons rfl _)

theorem readItems_of_items {first : Bool} {slots : List Slot} {text rest : List Char}
    {entries : Entries} (fits : ∀ slot ∈ slots, slot.kind.Fits) (unread : Unread slots)
    (named : (slots.map Slot.name).Nodup) (items : Items first slots text entries rest) :
    readItems first slots text = .ok (fill entries slots, rest) := by
  induction items with
  | @closed first slots text rest blanks =>
    rw [fill_nil unread]
    cases slots <;> rw [readItems, dropBlanks_eq_cons blanks rfl] <;> rfl
  | @item first slot slots text item after rest value entries led holds items ih =>
    obtain ⟨apart, named⟩ := List.nodup_cons.mp named
    have others := ih (fun slot member => fits slot (.tail _ member))
      (fun slot member => unread slot (.tail _ member)) named
    have held := Kind.read_of_holds (fits slot (.head _)) holds items.leaves
    obtain ⟨char, more, rfl, inked, notClosing⟩ := holds.begins
    rw [fill_cons apart]
    cases led with
    | first blanks =>
      rw [readItems, dropBlanks_eq_cons blanks inked]
      simp [notClosing, held, others, bind, Except.bind, pure, Except.pure]
    | next blanks spaces =>
      rw [readItems, dropBlanks_eq_cons blanks rfl]
      simp [dropBlanks_eq_cons spaces inked, notClosing, held, others, bind, Except.bind, pure,
        Except.pure]

/-! ### Records -/

/-- Slots as they are declared: nothing was read into them, and no two have one name. -/
structure Declared (slots : List Slot) : Prop where
  fits : ∀ slot ∈ slots, slot.kind.Fits
  unread : Unread slots
  named : (slots.map Slot.name).Nodup

variable {slots : List Slot}

/-- Reading slots takes the two forms of a record, and fills each slot with what it says. -/
theorem readSlots_eq_ok {after : List Slot} {text rest : List Char} (declared : Declared slots) :
    readSlots slots text = .ok (after, rest) ↔
      ∃ entries, Recorded slots text entries rest ∧ after = fill entries slots := by
  obtain ⟨fits, unread, named⟩ := declared
  constructor
  · intro read
    unfold readSlots at read
    split at read
    next inside =>
      obtain ⟨entries, items, rfl⟩ := items_of_readItems unread named read
      exact ⟨entries, .list items, rfl⟩
    next inside =>
      have blanks := blanks_dropBlanks inside
      split at read
      next rest closing =>
        cases read
        exact ⟨[], .empty (closing ▸ blanks), (fill_nil unread).symm⟩
      next =>
        rw [← fill_nil unread] at read
        obtain ⟨entries, members, rfl, distinct⟩ :=
          members_of_readMembers (show Entries.Distinct [] from List.nodup_nil) read
        exact ⟨entries, .record blanks members distinct, rfl⟩
    next => cases read
  · rintro ⟨entries, recorded, rfl⟩
    cases recorded with
    | list items => exact readItems_of_items fits unread named items
    | empty blanks =>
      rw [fill_nil unread, readSlots, dropBlanks_eq_cons blanks rfl]
      rfl
    | record blanks members distinct =>
      have read := readMembers_of_members fits members
        (show Entries.Distinct ([] ++ entries) from distinct)
      rw [fill_nil unread] at read
      obtain ⟨inside, rfl⟩ := members.begins
      rw [readSlots, dropBlanks_eq_cons blanks rfl]
      exact read

def Kind.Admits : Kind → Scalar → Prop
  | .text, .text _ => True
  | .natural bound, .natural value => value < bound
  | _, _ => False

theorem Kind.Holds.admits {kind : Kind} {text rest : List Char} {value : Scalar}
    (holds : kind.Holds text value rest) : kind.Admits value := by
  cases holds with
  | text => trivial
  | natural _ small => exact small

def Entries.Admitted (slots : List Slot) (entries : Entries) : Prop :=
  ∀ entry ∈ entries, ∃ slot ∈ slots, slot.name = entry.1 ∧ slot.kind.Admits entry.2

theorem Member.admitted {text rest : List Char} {entries : Entries}
    (member : Member slots text entries rest) : entries.Admitted slots := by
  cases member with
  | known _ _ _ known holds =>
    obtain ⟨slot, found, rfl⟩ := Option.map_eq_some_iff.mp known
    have isName := List.find?_some found
    refine List.forall_mem_singleton.mpr ⟨slot, List.mem_of_find?_eq_some found, ?_, holds.admits⟩
    simpa using isName
  | other => exact List.forall_mem_nil _

theorem Members.admitted {text rest : List Char} {entries : Entries}
    (members : Members slots text entries rest) : entries.Admitted slots := by
  induction members with
  | last member => exact member.admitted
  | more member _ _ _ ih => exact List.forall_mem_append.mpr ⟨member.admitted, ih⟩

theorem Items.admitted {first : Bool} {text rest : List Char} {entries : Entries}
    (items : Items first slots text entries rest) : entries.Admitted slots := by
  induction items with
  | closed => exact List.forall_mem_nil _
  | @item _ slot slots _ _ _ _ _ _ _ holds _ ih =>
    refine List.forall_mem_cons.mpr ⟨⟨slot, .head _, rfl, holds.admits⟩, fun entry inside => ?_⟩
    obtain ⟨other, member, rest⟩ := ih entry inside
    exact ⟨other, .tail _ member, rest⟩

theorem Writes.admitted {text : String} {entries : Entries} (writes : Writes slots text entries) :
    entries.Admitted slots := by
  obtain ⟨first, rest, -, recorded, -⟩ := writes
  cases recorded with
  | list items => exact items.admitted
  | empty => exact List.forall_mem_nil _
  | record _ members => exact members.admitted

theorem Recorded.inked {text rest : List Char} {entries : Entries}
    (recorded : Recorded slots text entries rest) : Leaves isBlank text := by
  cases recorded <;> exact .cons rfl _

theorem readRecord_eq_ok {α : Type} {build : List (Option Scalar) → Option α} {value : α}
    {text rest : List Char} (declared : Declared slots) :
    readRecord slots build text = .ok (value, rest) ↔
      ∃ entries, Recorded slots text entries rest ∧
        build (slots.map fun slot => entries.lookup slot.name) = some value := by
  have held (entries : Entries) :
      (fill entries slots).map Slot.held = slots.map fun slot => entries.lookup slot.name :=
    List.map_map
  unfold readRecord
  constructor
  · intro read
    split at read
    next => cases read
    next filled after slotsRead =>
    obtain ⟨entries, recorded, rfl⟩ := (readSlots_eq_ok declared).mp slotsRead
    rw [held] at read
    split at read
    next built =>
      cases read
      exact ⟨entries, recorded, built⟩
    next => cases read
  · rintro ⟨entries, recorded, built⟩
    rw [(readSlots_eq_ok declared).mpr ⟨entries, recorded, rfl⟩]
    dsimp only
    rw [held, built]

/-- A text is read as a record exactly if it writes one from which a value can be built. -/
theorem parse_readRecord_eq_ok {α : Type} {build : List (Option Scalar) → Option α} {text : String}
    {value : α} (declared : Declared slots) :
    parse (readRecord slots build) text = .ok value ↔
      ∃ entries, Writes slots text entries ∧
        build (slots.map fun slot => entries.lookup slot.name) = some value := by
  unfold parse
  simp only [bind, Except.bind, pure, Except.pure, throw, throwThe, MonadExceptOf.throw]
  constructor
  · intro read
    split at read
    next => cases read
    next pair recordRead =>
    obtain ⟨built, rest⟩ := pair
    obtain ⟨entries, recorded, builds⟩ := (readRecord_eq_ok declared).mp recordRead
    dsimp only at read
    split at read
    next ends =>
      cases read
      have blanks := blanks_dropBlanks rest
      rw [List.isEmpty_iff.mp ends] at blanks
      exact ⟨entries, ⟨_, rest, blanks_dropBlanks _, recorded, blanks⟩, builds⟩
    next => cases read
  · rintro ⟨entries, ⟨first, rest, blanks, recorded, trailing⟩, builds⟩
    rw [dropBlanks_eq blanks recorded.inked,
      (readRecord_eq_ok declared).mpr ⟨entries, recorded, builds⟩]
    dsimp only
    rw [dropBlanks_eq trailing (.nil isBlank)]
    rfl

end VectorLink.Document
