import VectorLink.Document.Basic
import VectorLink.Document.Record

/-! The form of documents, told without a reader.

Each relation takes a text to what follows a part of it, so the form of a whole is that of its
parts one behind the other. A value that nobody looks at has a form only; a value that is looked
for has a meaning too. A record with known members means what they hold, and nothing else in it
matters.
-/

set_option autoImplicit false

namespace VectorLink.Document

inductive Several (belongs : Char → Bool) : List Char → List Char → Prop where
  | none (text : List Char) : Several belongs text text
  | more {char : Char} {text rest : List Char} : belongs char = true → Several belongs text rest →
      Several belongs (char :: text) rest

abbrev Blanks : List Char → List Char → Prop := Several isBlank

/-! ### Texts in quotes -/

inductive HexWord : List Char → Nat → List Char → Prop where
  | digits {a b c d : Char} {first second third fourth : Nat} {rest : List Char} :
      hexDigit? a = some first → hexDigit? b = some second → hexDigit? c = some third →
      hexDigit? d = some fourth →
      HexWord (a :: b :: c :: d :: rest) (((first * 16 + second) * 16 + third) * 16 + fourth) rest

inductive Escape : List Char → Char → List Char → Prop where
  | letter {letter char : Char} {rest : List Char} : meaning? letter = some char →
      Escape (letter :: rest) char rest
  | basic {text rest : List Char} {word : Nat} : HexWord text word rest →
      isLeading word = false → isTrailing word = false →
      Escape ('u' :: text) (Char.ofNat word) rest
  /-- A character beyond the basic plane, by its halves. -/
  | halves {text second rest : List Char} {leading trailing : Nat} :
      HexWord text leading ('\\' :: 'u' :: second) → HexWord second trailing rest →
      isLeading leading = true → isTrailing trailing = true →
      Escape ('u' :: text)
        (Char.ofNat (0x10000 + (leading - 0xD800) * 0x400 + (trailing - 0xDC00))) rest

/-- What follows an opening quote, up to the closing one, and the characters that it writes. -/
inductive Quoted : List Char → List Char → List Char → Prop where
  | closed (rest : List Char) : Quoted ('"' :: rest) [] rest
  | plain {char : Char} {text chars rest : List Char} : char ≠ '"' → char ≠ '\\' →
      0x20 ≤ char.toNat → Quoted text chars rest → Quoted (char :: text) (char :: chars) rest
  | escaped {char : Char} {text after chars rest : List Char} : Escape text char after →
      Quoted after chars rest → Quoted ('\\' :: text) (char :: chars) rest

/-- What follows an opening quote, up to the closing one, where halves need no partner. -/
inductive Quotation : List Char → List Char → Prop where
  | closed (rest : List Char) : Quotation ('"' :: rest) rest
  | plain {char : Char} {text rest : List Char} : char ≠ '"' → char ≠ '\\' →
      0x20 ≤ char.toNat → Quotation text rest → Quotation (char :: text) rest
  | letter {letter : Char} {text rest : List Char} : (meaning? letter).isSome = true →
      Quotation text rest → Quotation ('\\' :: letter :: text) rest
  | numbered {text after rest : List Char} {word : Nat} : HexWord text word after →
      Quotation after rest → Quotation ('\\' :: 'u' :: text) rest

/-! ### Numbers -/

/-- Decimal digits, without a zero in front of others. -/
inductive Whole : List Char → List Char → Prop where
  | zero (rest : List Char) : Whole ('0' :: rest) rest
  | nonzero {char : Char} {text rest : List Char} : char.isDigit = true → char ≠ '0' →
      Several Char.isDigit text rest → Whole (char :: text) rest

inductive Fraction : List Char → List Char → Prop where
  | none (text : List Char) : Fraction text text
  | point {char : Char} {text rest : List Char} : char.isDigit = true →
      Several Char.isDigit text rest → Fraction ('.' :: char :: text) rest

inductive Sign : List Char → List Char → Prop where
  | none (text : List Char) : Sign text text
  | plus (rest : List Char) : Sign ('+' :: rest) rest
  | minus (rest : List Char) : Sign ('-' :: rest) rest

inductive Exponent : List Char → List Char → Prop where
  | none (text : List Char) : Exponent text text
  | mark {mark char : Char} {text after rest : List Char} : mark = 'e' ∨ mark = 'E' →
      Sign text (char :: after) → char.isDigit = true → Several Char.isDigit after rest →
      Exponent (mark :: text) rest

def Unsigned (text rest : List Char) : Prop :=
  ∃ point mark, Whole text point ∧ Fraction point mark ∧ Exponent mark rest

/-! ### Values that nobody looks at -/

def Bracket.opening : Bracket → Char
  | list => '['
  | record => '{'

/-- The parts of a value. -/
inductive Part where
  | value
  | within (bracket : Bracket)
  | behind (bracket : Bracket)

inductive WellFormed : Part → List Char → List Char → Prop where
  | word {word : String} (rest : List Char) : word ∈ ["null", "true", "false"] →
      WellFormed .value (word.toList ++ rest) rest
  | text {text rest : List Char} : Quotation text rest → WellFormed .value ('"' :: text) rest
  | unsigned {text rest : List Char} : Unsigned text rest → WellFormed .value text rest
  | negative {text rest : List Char} : Unsigned text rest → WellFormed .value ('-' :: text) rest
  | empty {bracket : Bracket} {text rest : List Char} : Blanks text (bracket.closing :: rest) →
      WellFormed .value (bracket.opening :: text) rest
  | filled {bracket : Bracket} {text rest : List Char} : WellFormed (.within bracket) text rest →
      WellFormed .value (bracket.opening :: text) rest
  | item {text value after rest : List Char} : Blanks text value → WellFormed .value value after →
      WellFormed (.behind .list) after rest → WellFormed (.within .list) text rest
  | member {text name gap blanks value after rest : List Char} : Blanks text ('"' :: name) →
      Quotation name gap → Blanks gap (':' :: blanks) → Blanks blanks value →
      WellFormed .value value after → WellFormed (.behind .record) after rest →
      WellFormed (.within .record) text rest
  | closed {bracket : Bracket} {text rest : List Char} : Blanks text (bracket.closing :: rest) →
      WellFormed (.behind bracket) text rest
  | comma {bracket : Bracket} {text more rest : List Char} : Blanks text (',' :: more) →
      WellFormed (.within bracket) more rest → WellFormed (.behind bracket) text rest

/-! ### Values that are looked for -/

/-- A scalar of a kind, and what it holds. -/
inductive Kind.Holds : Kind → List Char → Scalar → List Char → Prop where
  | text {text rest : List Char} {value : String} : Quoted text value.toList rest →
      Holds .text ('"' :: text) (.text value) rest
  | natural {bound : Nat} {digits rest : List Char} : Whole digits [] →
      digitsValue digits < bound →
      Holds (.natural bound) (digits ++ rest) (.natural (digitsValue digits)) rest

abbrev Entries := List (String × Scalar)

def kindOf? (slots : List Slot) (name : String) : Option Kind :=
  (slots.find? (fun slot => slot.name = name)).map Slot.kind

/-- A member, and the entry that it makes if its name is known. A member whose name is not known
may have any value. -/
inductive Member (slots : List Slot) : List Char → Entries → List Char → Prop where
  | known {text gap blanks item rest : List Char} {name : String} {kind : Kind} {value : Scalar} :
      Quoted text name.toList gap → Blanks gap (':' :: blanks) → Blanks blanks item →
      kindOf? slots name = some kind → kind.Holds item value rest →
      Member slots ('"' :: text) [(name, value)] rest
  | other {text gap blanks item rest : List Char} {name : String} :
      Quoted text name.toList gap → Blanks gap (':' :: blanks) → Blanks blanks item →
      kindOf? slots name = none → WellFormed .value item rest →
      Member slots ('"' :: text) [] rest

inductive Members (slots : List Slot) : List Char → Entries → List Char → Prop where
  | last {text after rest : List Char} {entries : Entries} : Member slots text entries after →
      Blanks after ('}' :: rest) → Members slots text entries rest
  | more {text after gap next rest : List Char} {entries further : Entries} :
      Member slots text entries after → Blanks after (',' :: gap) → Blanks gap next →
      Members slots next further rest → Members slots text (entries ++ further) rest

inductive Led : Bool → List Char → List Char → Prop where
  | first {text item : List Char} : Blanks text item → Led true text item
  | next {text gap item : List Char} : Blanks text (',' :: gap) → Blanks gap item →
      Led false text item

/-- The values of slots in order, as far as the list goes, up to its end. -/
inductive Items : Bool → List Slot → List Char → Entries → List Char → Prop where
  | closed {first : Bool} {slots : List Slot} {text rest : List Char} : Blanks text (']' :: rest) →
      Items first slots text [] rest
  | item {first : Bool} {slot : Slot} {slots : List Slot} {text item after rest : List Char}
      {value : Scalar} {entries : Entries} : Led first text item →
      slot.kind.Holds item value after → Items false slots after entries rest →
      Items first (slot :: slots) text ((slot.name, value) :: entries) rest

/-- A record in one of its two forms, and what its known members hold. None comes twice. -/
inductive Recorded (slots : List Slot) : List Char → Entries → List Char → Prop where
  | list {text rest : List Char} {entries : Entries} : Items true slots text entries rest →
      Recorded slots ('[' :: text) entries rest
  | empty {text rest : List Char} : Blanks text ('}' :: rest) →
      Recorded slots ('{' :: text) [] rest
  | record {text first rest : List Char} {entries : Entries} : Blanks text first →
      Members slots first entries rest → (entries.map Prod.fst).Nodup →
      Recorded slots ('{' :: text) entries rest

/-- A text that holds a record, blanks around it, and nothing else. -/
def Writes (slots : List Slot) (text : String) (entries : Entries) : Prop :=
  ∃ first rest, Blanks text.toList first ∧ Recorded slots first entries rest ∧ Blanks rest []

/-! ### Blanks and what follows them -/

variable {belongs : Char → Bool} {text rest : List Char}

def Leaves (belongs : Char → Bool) (text : List Char) : Prop :=
  ∀ char rest, text = char :: rest → belongs char = false

theorem Leaves.nil (belongs : Char → Bool) : Leaves belongs [] := by
  rintro char rest ⟨⟩

theorem Leaves.cons {char : Char} (outside : belongs char = false) (text : List Char) :
    Leaves belongs (char :: text) := by
  rintro head rest ⟨⟩
  exact outside

theorem Several.dropWhile (belongs : Char → Bool) (text : List Char) :
    Several belongs text (text.dropWhile belongs) := by
  induction text with
  | nil => exact .none []
  | cons char text ih =>
    cases inside : belongs char with
    | true =>
      rw [List.dropWhile_cons_of_pos inside]
      exact .more inside ih
    | false =>
      rw [List.dropWhile_cons_of_neg (by simp [inside])]
      exact .none _

theorem Several.dropWhile_eq (several : Several belongs text rest) (leaves : Leaves belongs rest) :
    text.dropWhile belongs = rest := by
  induction several with
  | none text =>
    cases text with
    | nil => rfl
    | cons char text => exact List.dropWhile_cons_of_neg (by simp [leaves char text rfl])
  | more inside _ ih =>
    rw [List.dropWhile_cons_of_pos inside]
    exact ih leaves

theorem Several.trans {after : List Char} (several : Several belongs text rest)
    (more : Several belongs rest after) : Several belongs text after := by
  induction several with
  | none text => exact more
  | more inside _ ih => exact .more inside (ih more)

theorem blanks_dropBlanks (text : List Char) : Blanks text (dropBlanks text) :=
  Several.dropWhile isBlank text

theorem dropBlanks_eq (blanks : Blanks text rest) (leaves : Leaves isBlank rest) :
    dropBlanks text = rest :=
  Several.dropWhile_eq blanks leaves

theorem dropBlanks_eq_cons {char : Char} (blanks : Blanks text (char :: rest))
    (inked : isBlank char = false) : dropBlanks text = char :: rest :=
  dropBlanks_eq blanks (.cons inked rest)

/-! ### More text behind a value

What follows a part of a document plays no role in its form.
-/

section More

variable (more : List Char)

theorem Several.append {belongs : Char → Bool} (several : Several belongs text rest) :
    Several belongs (text ++ more) (rest ++ more) := by
  induction several with
  | none text => exact .none _
  | more inside _ ih => exact .more inside ih

theorem HexWord.append {word : Nat} (digits : HexWord text word rest) :
    HexWord (text ++ more) word (rest ++ more) := by
  cases digits with
  | digits first second third fourth => exact .digits first second third fourth

theorem Quotation.append (quotation : Quotation text rest) :
    Quotation (text ++ more) (rest ++ more) := by
  induction quotation with
  | closed rest => exact .closed _
  | plain notClosing notEscaped printed _ ih => exact .plain notClosing notEscaped printed ih
  | letter means _ ih => exact .letter means ih
  | numbered digits _ ih => exact .numbered (digits.append more) ih

theorem Unsigned.append (unsigned : Unsigned text rest) :
    Unsigned (text ++ more) (rest ++ more) := by
  obtain ⟨point, mark, whole, fraction, exponent⟩ := unsigned
  refine ⟨point ++ more, mark ++ more, ?_, ?_, ?_⟩
  · cases whole with
    | zero => exact .zero _
    | nonzero digit notZero digits => exact .nonzero digit notZero (digits.append more)
  · cases fraction with
    | none => exact .none _
    | point digit digits => exact .point digit (digits.append more)
  · cases exponent with
    | none => exact .none _
    | mark isMark sign digit digits =>
      refine .mark isMark ?_ digit (digits.append more)
      cases sign with
      | none => exact .none _
      | plus => exact .plus _
      | minus => exact .minus _

theorem WellFormed.append {part : Part} (form : WellFormed part text rest) :
    WellFormed part (text ++ more) (rest ++ more) := by
  induction form with
  | word rest isWord =>
    rw [List.append_assoc]
    exact .word _ isWord
  | text quotation => exact .text (quotation.append more)
  | unsigned unsigned => exact .unsigned (unsigned.append more)
  | negative unsigned => exact .negative (unsigned.append more)
  | empty blanks => exact .empty (blanks.append more)
  | filled _ ih => exact .filled ih
  | item blanks _ _ value behind => exact .item (blanks.append more) value behind
  | member before name between after _ _ value behind =>
    exact .member (before.append more) (name.append more) (between.append more)
      (after.append more) value behind
  | closed blanks => exact .closed (blanks.append more)
  | comma blanks _ ih => exact .comma (blanks.append more) ih

end More

end VectorLink.Document
