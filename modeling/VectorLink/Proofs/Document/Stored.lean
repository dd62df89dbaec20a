import VectorLink.Document.Stored
import VectorLink.Proofs.Document.Printed
import VectorLink.Proofs.Settings.Load

/-! What is stored as a document is read back as it was.

For records this holds of more than the text that is stored: their members may come in any order,
spelled in any way and with others in between, or their values as a list.
-/

set_option autoImplicit false

namespace VectorLink

open Document (Entries Printed Scalar Slot Writes entriesOf printed)

/-! ### Records -/

/-- Values of a type are read back from their documents. -/
structure Restored {α : Type} (slots : List Slot) (entries : α → Entries)
    (document : α → Document) (read : String → Except Document.Problem α) : Prop where
  record : ∀ value, document value = (entries value).record
  compact : ∀ value, read (document value).toText = .ok value
  /-- Known members in any order, and others anywhere between them. -/
  arranged : ∀ value members, (∀ member ∈ members, member.Suits slots) →
    (entriesOf members).Perm (entries value) → read (printed members) = .ok value
  /-- The values alone, in the order of declaration. -/
  listed : ∀ value, read (entries value).list.toText = .ok value
  /-- Any text that tells what the members hold, however it spells that. -/
  written : ∀ value text found, Writes slots text found → found.Perm (entries value) →
    read text = .ok value

theorem read_of_writes_perm {α : Type} {slots : List Slot} {entries found : Entries}
    {build : List (Option Scalar) → Option α} {value : α} {text : String}
    (declared : Document.Declared slots) (fills : Document.Fills slots entries)
    (builds : build (entries.map fun entry => some entry.2) = some value)
    (writes : Writes slots text found) (same : found.Perm entries) :
    Document.parse (Document.readRecord slots build) text = .ok value := by
  refine (Document.parse_readRecord_eq_ok declared).mpr ⟨found, writes, ?_⟩
  have distinct := fills.distinct declared.named
  rw [← builds, ← fills.lookups declared.named]
  exact congrArg build (List.map_congr_left fun slot _ => distinct.lookup_perm same slot.name)

theorem restored_of_fills {α : Type} {slots : List Slot} {entries : α → Entries}
    {document : α → Document} {build : List (Option Scalar) → Option α}
    (declared : Document.Declared slots) (fills : ∀ value, Document.Fills slots (entries value))
    (record : ∀ value, document value = (entries value).record)
    (builds : ∀ value, build ((entries value).map fun entry => some entry.2) = some value) :
    Restored slots entries document (Document.parse (Document.readRecord slots build)) := by
  have arranged (value : α) (members : List Printed) (suits : ∀ member ∈ members, member.Suits slots)
      (same : (entriesOf members).Perm (entries value)) :
      Document.parse (Document.readRecord slots build) (printed members) = .ok value :=
    read_of_writes_perm declared (fills value) (builds value)
      ((fills value).writes_printed declared.named suits same.subperm) same
  exact {
    record
    compact := by
      intro value
      rw [record, Document.record_toText]
      refine arranged value _ ?_ (by rw [Document.entriesOf_known])
      exact List.forall_mem_map.mpr fun _ _ => trivial
    arranged
    listed := fun value =>
      read_of_writes_perm declared (fills value) (builds value)
        (Document.writes_list (fills value)) (.refl _)
    written := fun value _ _ => read_of_writes_perm declared (fills value) (builds value) }

namespace Address

def entries (address : Address) : Entries :=
  [("host", .text address.host), ("port", .natural address.port.toNat)]

theorem declared_slots : Document.Declared slots where
  fits := by decide
  unread := by decide
  named := by decide

theorem fills_entries (address : Address) : Document.Fills slots address.entries :=
  .cons ⟨rfl, trivial⟩ (.cons ⟨rfl, address.port.toNat_lt_size⟩ .nil)

theorem restored : Restored slots entries document read :=
  restored_of_fills declared_slots fills_entries (fun _ => rfl) fun address => by
    rw [entries]
    simp [build]

end Address

namespace Selection

def entries (selection : Selection) : Entries :=
  [("database", .text selection.database), ("dimension", .natural selection.dimension.toNat)]

theorem declared_slots : Document.Declared slots where
  fits := by decide
  unread := by decide
  named := by decide

theorem fills_entries (selection : Selection) : Document.Fills slots selection.entries :=
  .cons ⟨rfl, trivial⟩ (.cons ⟨rfl, selection.dimension.toNat_lt_size⟩ .nil)

theorem restored : Restored slots entries document read :=
  restored_of_fills declared_slots fills_entries (fun _ => rfl) fun selection => by
    rw [entries]
    simp [build]

end Selection

namespace Settings

def entries (settings : Settings) : Entries :=
  [("host", .text settings.host), ("port", .natural settings.port.toNat),
    ("database", .text settings.database), ("dimension", .natural settings.dimension.toNat),
    ("timeout_secs", .natural settings.timeoutSeconds.toNat)]

theorem fills_entries (settings : Settings) : Document.Fills slots settings.entries :=
  .cons ⟨rfl, trivial⟩ (.cons ⟨rfl, settings.port.toNat_lt_size⟩ (.cons ⟨rfl, trivial⟩
    (.cons ⟨rfl, settings.dimension.toNat_lt_size⟩
      (.cons ⟨rfl, settings.timeoutSeconds.toNat_lt_size⟩ .nil))))

theorem restored : Restored slots entries document read :=
  restored_of_fills declared_slots fills_entries (fun _ => rfl) fun settings => by
    simp [entries, build, textOr, naturalOr]

def only (names : List String) (settings : Settings) : Settings where
  host := if "host" ∈ names then settings.host else standard.host
  port := if "port" ∈ names then settings.port else standard.port
  database := if "database" ∈ names then settings.database else standard.database
  dimension := if "dimension" ∈ names then settings.dimension else standard.dimension
  timeoutSeconds :=
    if "timeout_secs" ∈ names then settings.timeoutSeconds else standard.timeoutSeconds

theorem ofEntries_subperm {settings : Settings} {found : Entries}
    (among : found.Subperm settings.entries) :
    ofEntries found = settings.only (found.map Prod.fst) := by
  have lookup := (settings.fills_entries.distinct declared_slots.named).lookup_subperm among
  unfold ofEntries only
  -- one member at a time: it is among those found, or has its built-in value on both sides
  congr 1
  · rw [lookup]
    split <;> rfl
  · rw [lookup]
    split <;> exact UInt16.ofNat_toNat
  · rw [lookup]
    split <;> rfl
  · rw [lookup]
    split <;> exact UInt32.ofNat_toNat
  · rw [lookup]
    split <;> exact UInt64.ofNat_toNat

/-- Settings are read from a part of their entries, and stay the built-in ones elsewhere. -/
structure RestoredInPart (settings : Settings) : Prop where
  arranged : ∀ members, (∀ member ∈ members, member.Suits slots) →
    (entriesOf members).Subperm settings.entries →
    read (printed members) = .ok (settings.only ((entriesOf members).map Prod.fst))
  written : ∀ text found, Writes slots text found → found.Subperm settings.entries →
    read text = .ok (settings.only (found.map Prod.fst))

theorem restored_in_part (settings : Settings) : settings.RestoredInPart := by
  have written (text : String) (found : Entries) (writes : Writes slots text found)
      (among : found.Subperm settings.entries) :
      read text = .ok (settings.only (found.map Prod.fst)) :=
    read_eq_ok.mpr ⟨found, writes, (ofEntries_subperm among).symm⟩
  refine ⟨fun members suits among => written _ _ ?_ among, written⟩
  exact settings.fills_entries.writes_printed declared_slots.named suits among

end Settings

/-! ### Choices -/

namespace Document

theorem readKey_of_quoted {α : Type} {ofKey? : String → Option α} {key : String}
    {value : α} {text rest : List Char} (known : ofKey? key = some value)
    (quoted : Quoted text key.toList rest) :
    readKey ofKey? ('"' :: text) = .ok (value, rest) := by
  simp only [readKey, unquote_eq_ok.mpr quoted, bind, Except.bind, known]
  rfl

theorem parse_readChoice_text {α : Type} {ofKey? : String → Option α} {key : String}
    {value : α} (known : ofKey? key = some value) :
    parse (readChoice ofKey?) (text key).toText = .ok value := by
  obtain ⟨inside, same, quoted⟩ := exists_quoted key []
  rw [List.append_nil] at same
  have isRead : readChoice ofKey? ('"' :: inside) = .ok (value, []) :=
    readKey_of_quoted known quoted
  unfold parse
  rw [toText, compact, String.toList_ofList, same,
    dropBlanks_eq_cons (.none _) rfl, isRead]
  rfl

end Document

theorem Phase.read_document (phase : Phase) : Phase.read phase.document.toText = .ok phase :=
  Document.parse_readChoice_text (Phase.ofKey?_key phase)

/-! ### All that is stored -/

/-- Whatever is stored is read back. -/
structure Stored : Prop where
  addresses : Restored Address.slots Address.entries Address.document Address.read
  selections : Restored Selection.slots Selection.entries Selection.document Selection.read
  settings : Restored Settings.slots Settings.entries Settings.document Settings.read
  partly : ∀ settings : Settings, settings.RestoredInPart
  phases : ∀ phase : Phase, Phase.read phase.document.toText = .ok phase

theorem stored_read_back : Stored where
  addresses := Address.restored
  selections := Selection.restored
  settings := Settings.restored
  partly := Settings.restored_in_part
  phases := Phase.read_document

namespace Settings

/-- Settings at the ends of their ranges, with a text that needs escapes of each form. -/
def odd : Settings := ⟨"\"\\\n\x01/𝄞", 65535, "", 4294967295, 18446744073709551615⟩

def scrambled : List Printed :=
  [.known "timeout_secs" (.natural 18446744073709551615), .other "Host" ['[', '{', '}', ']'],
    .known "dimension" (.natural 4294967295), .known "database" (.text ""),
    .other "port\n" ['n', 'u', 'l', 'l'], .known "port" (.natural 65535),
    .known "host" (.text odd.host)]

theorem scrambled_suits : ∀ member ∈ scrambled, member.Suits slots := by
  have brackets : Document.WellFormed .value ['[', '{', '}', ']'] [] :=
    @Document.WellFormed.filled .list _ _
      (.item (.none _) (@Document.WellFormed.empty .record _ _ (.none _))
        (@Document.WellFormed.closed .list _ _ (.none _)))
  have null : Document.WellFormed .value ['n', 'u', 'l', 'l'] [] :=
    @Document.WellFormed.word "null" [] (by decide)
  simp only [scrambled, List.forall_mem_cons]
  exact ⟨trivial, ⟨by decide, brackets⟩, trivial, trivial, ⟨by decide, null⟩, trivial, trivial,
    List.forall_mem_nil _⟩

theorem scrambled_read_back :
    read (printed scrambled) = .ok odd ∧
      read (printed (scrambled.take 3)) =
        .ok { standard with dimension := 4294967295, timeoutSeconds := 18446744073709551615 } :=
  ⟨stored_read_back.settings.arranged odd scrambled scrambled_suits (by decide +kernel),
    (stored_read_back.partly odd).arranged (scrambled.take 3)
      (fun member inside => scrambled_suits member (List.mem_of_mem_take inside))
      (by decide +kernel)⟩

end Settings

end VectorLink
