import VectorLink.Proofs.Document.Entries

/-! The compact form of a document, and records put together by hand, lie in the grammar.

A record may be put together from its known members in any order, with others in between whose names
are not known and whose values are any that are well-formed.
-/

set_option autoImplicit false

namespace VectorLink.Document

variable {slots : List Slot}

/-! ### Texts in quotes -/

theorem hexDigit?_digitChar : ∀ digit < 16, hexDigit? (Nat.digitChar digit) = some digit := by
  decide

theorem meaning?_of_mem_letters : ∀ pair ∈ letters, meaning? pair.1 = some pair.2 := by
  decide

theorem ne_of_find?_letters {char : Char}
    (plain : letters.find? (fun pair => pair.2 = char) = none) : char ≠ '"' ∧ char ≠ '\\' := by
  constructor <;> (rintro rfl; revert plain; decide)

theorem escape_numbered {char : Char} (control : char.toNat < 0x20) (rest : List Char) :
    Escape ('u' :: '0' :: '0' :: Nat.digitChar (char.toNat / 16) ::
      Nat.digitChar (char.toNat % 16) :: rest) char rest := by
  have zero : hexDigit? '0' = some 0 := hexDigit?_digitChar 0 (by decide)
  have word : HexWord ('0' :: '0' :: Nat.digitChar (char.toNat / 16) ::
      Nat.digitChar (char.toNat % 16) :: rest)
      (((0 * 16 + 0) * 16 + char.toNat / 16) * 16 + char.toNat % 16) rest :=
    .digits zero zero (hexDigit?_digitChar (char.toNat / 16) (by omega))
      (hexDigit?_digitChar (char.toNat % 16) (by omega))
  have number : ((0 * 16 + 0) * 16 + char.toNat / 16) * 16 + char.toNat % 16 = char.toNat := by
    omega
  rw [number] at word
  have escape := Escape.basic word
    (by simp only [isLeading, Bool.and_eq_false_iff, decide_eq_false_iff_not]; omega)
    (by simp only [isTrailing, Bool.and_eq_false_iff, decide_eq_false_iff_not]; omega)
  rwa [Char.ofNat_toNat] at escape

theorem Quoted.cons_escape {text chars rest : List Char} (char : Char)
    (quoted : Quoted text chars rest) : Quoted (escape char ++ text) (char :: chars) rest := by
  unfold escape
  split
  next letter meant found =>
    have isChar : meant = char := by simpa using List.find?_some found
    have means := meaning?_of_mem_letters _ (List.mem_of_find?_eq_some found)
    subst isChar
    exact .escaped (.letter means) quoted
  next unlettered =>
    -- the quote and the backslash have letters, so such a character may stand for itself
    obtain ⟨notClosing, notEscaped⟩ := ne_of_find?_letters unlettered
    split
    next control => exact .escaped (escape_numbered control text) quoted
    next printed => exact .plain notClosing notEscaped (Nat.le_of_not_lt printed) quoted

theorem quoted_escapes (chars rest : List Char) :
    Quoted (chars.flatMap escape ++ '"' :: rest) chars rest := by
  induction chars with
  | nil => exact .closed rest
  | cons char chars ih =>
    rw [List.flatMap_cons, List.append_assoc]
    exact .cons_escape char ih

theorem exists_quoted (text : String) (rest : List Char) :
    ∃ inside, quote text ++ rest = '"' :: inside ∧ Quoted inside text.toList rest := by
  refine ⟨text.toList.flatMap escape ++ '"' :: rest, ?_, quoted_escapes text.toList rest⟩
  simp only [quote, List.cons_append, List.append_assoc, List.nil_append]

/-! ### Naturals -/

theorem isDigit_digits {number : Nat} {char : Char} (member : char ∈ Decimal.digits number) :
    char.isDigit = true :=
  Nat.isDigit_of_mem_toDigits (by decide) (by decide) member

theorem digitsValue_digits (number : Nat) : digitsValue (Decimal.digits number) = number := by
  have sameDigits : digitsValue (Decimal.digits number) =
      Nat.ofDigitChars 10 (Nat.toDigits 10 number) 0 := by
    refine List.foldl_ext _ _ _ fun value char member => ?_
    rw [Numeral.digit?, if_pos (isDigit_digits member)]
    rfl
  rw [sameDigits, Nat.ofDigitChars_ten_toDigits]

theorem head?_digits {number : Nat} (positive : 0 < number) :
    (Decimal.digits number).head? ≠ some '0' := by
  induction number using Nat.strongRecOn with
  | ind number ih =>
    unfold Decimal.digits at *
    by_cases small : number < 10
    · rw [Nat.toDigits_of_lt_base small]
      have digit : ∀ digit < 10, 0 < digit → [Nat.digitChar digit].head? ≠ some '0' := by decide
      exact digit number small positive
    · -- the first digit is that of a tenth, which is positive too
      have shorter := ih (number / 10) (by omega) (by omega)
      rw [Nat.toDigits_of_base_le (by decide) (Nat.le_of_not_lt small),
        List.head?_append_of_ne_nil _ Nat.toDigits_ne_nil]
      exact shorter

theorem whole_digits (number : Nat) : Whole (Decimal.digits number) [] := by
  refine whole_iff.mpr ⟨Nat.toDigits_ne_nil, ?_, fun char => isDigit_digits⟩
  rintro ⟨zero, more⟩
  rcases Nat.eq_zero_or_pos number with rfl | positive
  · exact more rfl
  · exact head?_digits positive zero

/-! ### Scalars -/

def Scalar.document : Scalar → Document
  | text value => .text value
  | natural value => .natural value

theorem Kind.Admits.holds {kind : Kind} {value : Scalar} (admits : kind.Admits value)
    (rest : List Char) : kind.Holds (value.document.compact ++ rest) value rest := by
  cases kind with
  | text =>
    cases value with
    | natural => cases admits
    | text value =>
      obtain ⟨inside, same, quoted⟩ := exists_quoted value rest
      rw [Scalar.document, compact, same]
      exact .text quoted
  | natural bound =>
    cases value with
    | text => cases admits
    | natural value =>
      have small : digitsValue (Decimal.digits value) < bound := by rwa [digitsValue_digits]
      have holds : (Kind.natural bound).Holds (Decimal.digits value ++ rest)
          (.natural (digitsValue (Decimal.digits value))) rest := .natural (whole_digits value) small
      rwa [digitsValue_digits] at holds

/-! ### Records put together -/

inductive Printed where
  | known (name : String) (value : Scalar)
  | other (name : String) (value : List Char)

namespace Printed

def text : Printed → List Char
  | known name value => quote name ++ ':' :: value.document.compact
  | other name value => quote name ++ ':' :: value

def entry? : Printed → Option (String × Scalar)
  | known name value => some (name, value)
  | other _ _ => none

/-- A member that no slot is for may have any value, as long as it is well-formed. -/
def Suits (slots : List Slot) : Printed → Prop
  | known _ _ => True
  | other name value => name ∉ slots.map Slot.name ∧ WellFormed .value value []

end Printed

def printed (members : List Printed) : String :=
  .ofList ('{' :: [','].intercalate (members.map Printed.text) ++ ['}'])

def entriesOf (members : List Printed) : Entries := members.filterMap Printed.entry?

theorem Printed.member {member : Printed} (named : (slots.map Slot.name).Nodup)
    (suits : member.Suits slots) (admitted : Entries.Admitted slots member.entry?.toList)
    (rest : List Char) : Member slots (member.text ++ rest) member.entry?.toList rest := by
  cases member with
  | known name value =>
    obtain ⟨slot, inside, rfl, admits⟩ := admitted (name, value) (.head _)
    obtain ⟨written, same, quoted⟩ :=
      exists_quoted slot.name (':' :: (value.document.compact ++ rest))
    rw [text, List.append_assoc, List.cons_append, same]
    exact .known quoted (.none _) (.none _) (kindOf?_of_mem named inside) (admits.holds rest)
  | other name value =>
    obtain ⟨unknown, form⟩ := suits
    obtain ⟨written, same, quoted⟩ := exists_quoted name (':' :: (value ++ rest))
    rw [text, List.append_assoc, List.cons_append, same]
    exact .other quoted (.none _) (.none _) (kindOf?_eq_none unknown) (form.append rest)

theorem members_printed {members : List Printed} (named : (slots.map Slot.name).Nodup)
    (some : members ≠ []) (suits : ∀ member ∈ members, member.Suits slots)
    (admitted : (entriesOf members).Admitted slots) (rest : List Char) :
    Members slots ([','].intercalate (members.map Printed.text) ++ '}' :: rest)
      (entriesOf members) rest := by
  -- on the members: the brace follows the last one, a comma and the rest any other
  induction members with
  | nil => exact absurd rfl some
  | cons first members ih =>
    have split : entriesOf (first :: members) = first.entry?.toList ++ entriesOf members := by
      cases first <;> rfl
    rw [split] at admitted ⊢
    obtain ⟨firstAdmitted, othersAdmitted⟩ := List.forall_mem_append.mp admitted
    obtain ⟨firstSuits, othersSuit⟩ := List.forall_mem_cons.mp suits
    cases members with
    | nil =>
      rw [List.map_singleton, List.intercalate_singleton, entriesOf, List.filterMap_nil,
        List.append_nil]
      exact .last (first.member named firstSuits firstAdmitted _) (.none _)
    | cons second members =>
      rw [List.map_cons, List.map_cons, List.intercalate_cons_cons, ← List.map_cons,
        List.append_assoc, List.append_assoc]
      exact .more (first.member named firstSuits firstAdmitted _) (.none _) (.none _)
        (ih (List.cons_ne_nil _ _) othersSuit othersAdmitted)

theorem writes_printed {members : List Printed} (named : (slots.map Slot.name).Nodup)
    (suits : ∀ member ∈ members, member.Suits slots) (admitted : (entriesOf members).Admitted slots)
    (distinct : (entriesOf members).Distinct) :
    Writes slots (printed members) (entriesOf members) := by
  refine ⟨(printed members).toList, [], .none _, ?_, .none []⟩
  rw [printed, String.toList_ofList, List.cons_append]
  cases members with
  | nil => exact .empty (.none _)
  | cons first members =>
    exact .record (.none _)
      (members_printed named (List.cons_ne_nil _ _) suits admitted []) distinct

/-- Some of the entries that fill the slots, in any order, are written by a record put together. -/
theorem Fills.writes_printed {entries : Entries} (fills : Fills slots entries)
    (named : (slots.map Slot.name).Nodup) {members : List Printed}
    (suits : ∀ member ∈ members, member.Suits slots)
    (among : (entriesOf members).Subperm entries) :
    Writes slots (printed members) (entriesOf members) := by
  refine Document.writes_printed named suits ?_ ((fills.distinct named).subperm among)
  exact fun entry member => fills.admitted entry (among.subset member)

/-! ### Records printed -/

theorem Fills.items {entries : Entries} (fills : Fills slots entries) (rest : List Char) :
    Items false slots (entries.flatMap (fun entry => ',' :: entry.2.document.compact) ++ ']' :: rest)
      entries rest := by
  induction fills with
  | nil => exact .closed (.none _)
  | @cons slot entry slots entries fits _ ih =>
    obtain ⟨same, admits⟩ := fits
    rw [List.flatMap_cons, List.append_assoc, ← Prod.eta entry, ← same]
    exact .item (.next (.none _) (.none _)) (admits.holds _) ih

theorem compactItems_cons (item : Document) (items : List Document) :
    compactItems (item :: items) = item.compact ++ items.flatMap fun item => ',' :: item.compact := by
  induction items generalizing item with
  | nil => rw [compactItems, List.flatMap_nil, List.append_nil]
  | cons next items ih => rw [compactItems, ih, List.flatMap_cons, List.cons_append]

def Entries.list (entries : Entries) : Document := .list (entries.map fun entry => entry.2.document)

def Entries.record (entries : Entries) : Document :=
  .record (entries.map fun entry => (entry.1, entry.2.document))

theorem writes_list {entries : Entries} (fills : Fills slots entries) :
    Writes slots entries.list.toText entries := by
  refine ⟨entries.list.toText.toList, [], .none _, ?_, .none []⟩
  rw [toText, String.toList_ofList, Entries.list, compact, List.cons_append]
  refine .list ?_
  -- no comma leads to the first value
  cases fills with
  | nil => exact .closed (.none _)
  | @cons slot entry slots entries fits fills =>
    obtain ⟨same, admits⟩ := fits
    rw [List.map_cons, compactItems_cons, List.flatMap_map, List.append_assoc, ← Prod.eta entry,
      ← same]
    exact .item (.first (.none _)) (admits.holds _) (Fills.items fills [])

theorem compactMembers_eq (entries : Entries) :
    compactMembers (entries.map fun entry => (entry.1, entry.2.document)) =
      [','].intercalate (entries.map fun entry => (Printed.known entry.1 entry.2).text) := by
  induction entries with
  | nil => rfl
  | cons first entries ih =>
    cases entries with
    | nil =>
      rw [List.map_singleton, List.map_singleton, List.intercalate_singleton]
      rfl
    | cons second entries =>
      simp only [List.map_cons, compactMembers, List.intercalate_cons_cons] at ih ⊢
      rw [ih]
      simp only [Printed.text, List.append_assoc, List.cons_append, List.nil_append]

/-- The compact form of a record is the record put together from its members in order. -/
theorem record_toText (entries : Entries) :
    entries.record.toText = printed (entries.map fun entry => .known entry.1 entry.2) := by
  rw [toText, Entries.record, compact, compactMembers_eq, printed, List.map_map]
  rfl

theorem entriesOf_known (entries : Entries) :
    entriesOf (entries.map fun entry => .known entry.1 entry.2) = entries := by
  rw [entriesOf, List.filterMap_map]
  exact List.filterMap_some

end VectorLink.Document
