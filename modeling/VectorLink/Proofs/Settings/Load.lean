import VectorLink.Proofs.Document.Record
import VectorLink.Proofs.Settings.Override

/-! Where each member of loaded settings comes from.

A variable is looked at first, then one file, then the built-in value. Which file it is does not
depend on what any file holds: the one that a variable names, or else the one in the user's
configuration directory if there is one. A file that was chosen and is of no use is a fault, never
a reason to look elsewhere.
-/

set_option autoImplicit false

namespace VectorLink

open Document (Entries Writes)

/-- The number that a variable stands for: what it says if it is set, else a fallback. -/
def Environment.Gives (environment : Environment) (name : String) (bound fallback value : Nat) :
    Prop :=
  match environment name with
  | none => value = fallback
  | some text => Numeral.Denotes bound text value

namespace Settings

theorem declared_slots : Document.Declared slots where
  fits := by decide
  unread := by decide
  named := by decide

def ofEntries (entries : Entries) : Settings where
  host := textOr standard.host (entries.lookup "host")
  port := UInt16.ofNat (naturalOr standard.port.toNat (entries.lookup "port"))
  database := textOr standard.database (entries.lookup "database")
  dimension := UInt32.ofNat (naturalOr standard.dimension.toNat (entries.lookup "dimension"))
  timeoutSeconds :=
    UInt64.ofNat (naturalOr standard.timeoutSeconds.toNat (entries.lookup "timeout_secs"))

theorem read_eq_ok {text : String} {settings : Settings} :
    read text = .ok settings ↔ ∃ entries, Writes slots text entries ∧ settings = ofEntries entries := by
  unfold read
  rw [Document.parse_readRecord_eq_ok declared_slots]
  refine exists_congr fun entries => and_congr_right fun _ => ?_
  show some (ofEntries entries) = some settings ↔ _
  rw [Option.some.injEq, eq_comm]

theorem ofFile_eq_ok {files : Files} {path : String} {settings : Settings} :
    ofFile files path = .ok settings ↔ ∃ text entries, files.readText path = .ok text ∧
      Writes slots text entries ∧ settings = ofEntries entries := by
  unfold ofFile
  cases files.readText path with
  | error cause => simp
  | ok text =>
    dsimp only
    cases isRead : read text with
    | error problem =>
      constructor
      · intro failed
        cases failed
      rintro ⟨_, entries, ⟨⟩, writes⟩
      cases isRead.symm.trans (read_eq_ok.mpr ⟨entries, writes⟩)
    | ok made =>
      obtain ⟨entries, writes, rfl⟩ := read_eq_ok.mp isRead
      constructor
      · rintro ⟨⟩
        exact ⟨text, entries, rfl, writes, rfl⟩
      · rintro ⟨_, others, ⟨⟩, written⟩
        exact congrArg _ (Except.ok.inj (isRead.symm.trans (read_eq_ok.mpr ⟨others, written⟩)))

theorem ofFile_of_unreadable {files : Files} {path : String} {cause : IoFault}
    (unreadable : files.readText path = .error cause) :
    ofFile files path = .error (.unreadable path cause) := by
  rw [ofFile, unreadable]

theorem ofFile_of_malformed {files : Files} {path text : String}
    (isRead : files.readText path = .ok text) (none : ∀ entries, ¬Writes slots text entries) :
    ∃ problem, ofFile files path = .error (.malformed path problem) := by
  unfold ofFile
  rw [isRead]
  dsimp only
  cases parsed : read text with
  | error problem => exact ⟨problem, rfl⟩
  | ok settings =>
    obtain ⟨entries, writes, -⟩ := read_eq_ok.mp parsed
    exact absurd writes (none entries)

/-! ### The file -/

/-- A path leads to what has this name below a directory. One mark stands between the two. -/
inductive Leads (directory name : String) : String → Prop where
  | marked : directory.toList.getLast? = some '/' → Leads directory name (directory ++ name)
  | unmarked : directory.toList.getLast? ≠ some '/' →
      Leads directory name (directory ++ "/" ++ name)

theorem leads_iff {directory name path : String} :
    Leads directory name path ↔ Files.join directory name = path := by
  unfold Files.join
  split
  next last =>
    constructor
    · intro leads
      cases leads with
      | marked => rfl
      | unmarked other => exact absurd last other
    · rintro rfl
      exact .marked last
  next last =>
    constructor
    · intro leads
      cases leads with
      | marked same => exact absurd same last
      | unmarked => rfl
    · rintro rfl
      exact .unmarked last

/-- Where the user's file is looked for, whether or not it is there: below the configuration
directory if that is given by an absolute path, else in the home directory. -/
inductive Located (surroundings : Surroundings) (path : String) : Prop where
  | configHome {directory : String} : surroundings.configHome = some directory →
      directory.toList.head? = some '/' → Leads directory "redbox/client.json" path →
      Located surroundings path
  | home {directory : String} :
      (∀ other, surroundings.configHome = some other → other.toList.head? ≠ some '/') →
      surroundings.home = some directory → directory ≠ "" →
      Leads directory ".config/redbox/client.json" path → Located surroundings path

/-- What settings are taken from besides the environment: the entries of one file, or none. -/
inductive Chosen (environment : Environment) (surroundings : Surroundings) : Entries → Prop where
  | named {path text : String} {entries : Entries} : environment "REDBOX_CONFIG" = some path →
      surroundings.files.readText path = .ok text → Writes slots text entries →
      Chosen environment surroundings entries
  | found {path text : String} {entries : Entries} : environment "REDBOX_CONFIG" = none →
      Located surroundings path → surroundings.files.has path = true →
      surroundings.files.readText path = .ok text → Writes slots text entries →
      Chosen environment surroundings entries
  | absent : environment "REDBOX_CONFIG" = none →
      (∀ path, Located surroundings path → surroundings.files.has path = false) →
      Chosen environment surroundings []

variable {environment : Environment} {surroundings : Surroundings}

theorem base_of_named {path : String} (named : environment "REDBOX_CONFIG" = some path) :
    base environment surroundings = (ofFile surroundings.files path).mapError (.named path) := by
  simp only [base, named]
  cases ofFile surroundings.files path <;> rfl

theorem isAbsolute_iff {path : String} :
    Files.isAbsolute path = true ↔ path.toList.head? = some '/' := by
  rw [Files.isAbsolute, beq_iff_eq]

theorem located_iff {path : String} :
    Located surroundings path ↔ surroundings.standardPath? = some path := by
  have below (directory : String) : Files.join (Files.join directory "redbox") "client.json" =
      Files.join directory "redbox/client.json" :=
    Files.join_join directory _ ⟨'x', by decide, by decide⟩
  have hidden (directory : String) : Files.join (Files.join directory ".config")
      "redbox/client.json" = Files.join directory ".config/redbox/client.json" :=
    Files.join_join directory _ ⟨'g', by decide, by decide⟩
  unfold Surroundings.standardPath?
  simp only [below]
  -- a configuration directory that is not absolute counts as none
  by_cases absolute : ∃ directory, surroundings.configHome = some directory ∧
      Files.isAbsolute directory = true
  · obtain ⟨directory, given, absolute⟩ := absolute
    rw [given, Option.filter_some_pos absolute]
    simp only [Option.map_some, Option.some.injEq]
    constructor
    · intro located
      cases located with
      | configHome same _ leads =>
        cases given.symm.trans same
        exact leads_iff.mp leads
      | home other => exact absurd (isAbsolute_iff.mp absolute) (other directory given)
    · exact fun same => .configHome given (isAbsolute_iff.mp absolute) (leads_iff.mpr same)
  · have none : surroundings.configHome.filter Files.isAbsolute = none := by
      rw [Option.filter_eq_none_iff]
      exact fun directory given isAbsolute => absolute ⟨directory, given, isAbsolute⟩
    rw [none]
    simp only [Option.map_eq_some_iff, Option.filter_eq_some_iff, decide_eq_true_eq]
    constructor
    · intro located
      cases located with
      | @configHome directory same isAbsolute =>
        exact absurd ⟨directory, same, isAbsolute_iff.mpr isAbsolute⟩ absolute
      | @home directory _ same named leads =>
        exact ⟨_, ⟨directory, ⟨same, named⟩, rfl⟩, (hidden directory).trans (leads_iff.mp leads)⟩
    · rintro ⟨_, ⟨directory, ⟨same, named⟩, rfl⟩, joined⟩
      exact .home (fun other given isAbsolute => absolute ⟨other, given, isAbsolute_iff.mpr isAbsolute⟩)
        same named (leads_iff.mpr ((hidden directory).symm.trans joined))

theorem base_of_found {path : String} (unnamed : environment "REDBOX_CONFIG" = none)
    (located : Located surroundings path) (has : surroundings.files.has path = true) :
    base environment surroundings = ofFile surroundings.files path := by
  simp only [base, unnamed, located_iff.mp located, Option.filter, has, if_true]

theorem base_of_absent (unnamed : environment "REDBOX_CONFIG" = none)
    (absent : ∀ path, Located surroundings path → surroundings.files.has path = false) :
    base environment surroundings = .ok standard := by
  cases place : surroundings.standardPath? with
  | none => simp only [base, unnamed, place, Option.filter]
  | some path =>
    simp only [base, unnamed, place, Option.filter, absent path (located_iff.mpr place),
      Bool.false_eq_true, if_false]

theorem base_eq_ok {settings : Settings} :
    base environment surroundings = .ok settings ↔
      ∃ entries, Chosen environment surroundings entries ∧ settings = ofEntries entries := by
  constructor
  · intro based
    cases config : environment "REDBOX_CONFIG" with
    | some path =>
      rw [base_of_named config] at based
      cases taken : ofFile surroundings.files path with
      | error cause =>
        rw [taken] at based
        cases based
      | ok settings =>
        rw [taken] at based
        cases based
        obtain ⟨text, entries, isRead, writes, rfl⟩ := ofFile_eq_ok.mp taken
        exact ⟨entries, .named config isRead writes, rfl⟩
    | none =>
      by_cases exist : ∃ path, Located surroundings path ∧ surroundings.files.has path = true
      · obtain ⟨path, located, has⟩ := exist
        rw [base_of_found config located has] at based
        obtain ⟨text, entries, isRead, writes, rfl⟩ := ofFile_eq_ok.mp based
        exact ⟨entries, .found config located has isRead writes, rfl⟩
      · have absent : ∀ path, Located surroundings path → surroundings.files.has path = false :=
          fun path located => eq_false_of_ne_true fun has => exist ⟨path, located, has⟩
        rw [base_of_absent config absent] at based
        cases based
        exact ⟨[], .absent config absent, rfl⟩
  · rintro ⟨entries, chosen, rfl⟩
    cases chosen with
    | named config isRead writes =>
      rw [base_of_named config, ofFile_eq_ok.mpr ⟨_, entries, isRead, writes, rfl⟩]
      rfl
    | found config located has isRead writes =>
      rw [base_of_found config located has]
      exact ofFile_eq_ok.mpr ⟨_, entries, isRead, writes, rfl⟩
    | absent config absent => exact base_of_absent config absent

theorem Chosen.admitted {entries : Entries} (chosen : Chosen environment surroundings entries) :
    entries.Admitted slots := by
  cases chosen with
  | named _ _ writes | found _ _ _ _ writes => exact writes.admitted
  | absent => exact List.forall_mem_nil _

theorem load_eq_ok {settings : Settings} :
    load environment surroundings = .ok settings ↔
      ∃ made, base environment surroundings = .ok made ∧
        made.override environment = (settings, .ok ()) := by
  unfold load
  cases base environment surroundings with
  | error fault => simp
  | ok made =>
    simp only [Except.ok.injEq, exists_eq_left']
    rcases made.override environment with ⟨result, _ | ⟨⟨⟩⟩⟩ <;> simp

/-! ### The members -/

/-- Each member of settings has its value from the first source that tells one. -/
structure Layered (environment : Environment) (entries : Entries) (settings : Settings) : Prop where
  host : settings.host =
    (environment "REDBOX_HOST").getD (textOr standard.host (entries.lookup "host"))
  port : environment.Gives "REDBOX_PORT" UInt16.size
    (naturalOr standard.port.toNat (entries.lookup "port")) settings.port.toNat
  database : settings.database =
    (environment "REDBOX_DB").getD (textOr standard.database (entries.lookup "database"))
  dimension : environment.Gives "REDBOX_DIM" UInt32.size
    (naturalOr standard.dimension.toNat (entries.lookup "dimension")) settings.dimension.toNat
  timeoutSeconds : environment.Gives "REDBOX_TIMEOUT_SECS" UInt64.size
    (naturalOr standard.timeoutSeconds.toNat (entries.lookup "timeout_secs"))
    settings.timeoutSeconds.toNat

theorem naturalOr_lt {entries : Entries} {name : String} {bound fallback : Nat}
    (admitted : entries.Admitted slots)
    (ranged : ∀ slot ∈ slots, slot.name = name → slot.kind = .natural bound)
    (small : fallback < bound) : naturalOr fallback (entries.lookup name) < bound := by
  cases held : entries.lookup name with
  | none => exact small
  | some value =>
    obtain ⟨before, after, rfl, -⟩ := List.lookup_eq_some_iff.mp held
    obtain ⟨slot, member, isName, admits⟩ :=
      admitted (name, value) (List.mem_append_right before (.head after))
    rw [ranged slot member isName] at admits
    cases value with
    | text => exact small
    | natural value => exact admits

theorem gives_iff {α : Type} (toNat : α → Nat) (ofNat : Nat → α) {name : String}
    {bound fallback : Nat} {member : α} (back : ∀ value, ofNat (toNat value) = value)
    (forth : ∀ number, number < bound → toNat (ofNat number) = number) (small : fallback < bound) :
    environment.Gives name bound fallback (toNat member) ↔
      ∃ value, environment.natural? name bound = .ok value ∧
        member = value.elim (ofNat fallback) ofNat := by
  unfold Environment.Gives Environment.natural?
  cases environment name with
  | none =>
    dsimp only
    constructor
    · intro same
      exact ⟨none, rfl, by rw [← same]; exact (back member).symm⟩
    · rintro ⟨_, ⟨⟩, rfl⟩
      exact forth fallback small
  | some text =>
    dsimp only
    rw [← Numeral.read_eq_ok]
    constructor
    · intro isRead
      exact ⟨some (toNat member), by rw [isRead]; rfl, (back member).symm⟩
    · rintro ⟨value, isRead, rfl⟩
      cases parsed : Numeral.read bound text with
      | error cause =>
        rw [parsed] at isRead
        cases isRead
      | ok number =>
        rw [parsed] at isRead
        cases isRead
        obtain ⟨_, -, -, -, -, below⟩ := Numeral.read_eq_ok.mp parsed
        exact congrArg _ (forth number below).symm

theorem layered_iff {entries : Entries} {settings : Settings} (admitted : entries.Admitted slots) :
    Layered environment entries settings ↔
      (ofEntries entries).override environment = (settings, .ok ()) := by
  -- the file's numbers are in range, so each fits the width of its member
  have port : naturalOr standard.port.toNat (entries.lookup "port") < UInt16.size :=
    naturalOr_lt admitted (by decide) (by decide)
  have dimension : naturalOr standard.dimension.toNat (entries.lookup "dimension") < UInt32.size :=
    naturalOr_lt admitted (by decide) (by decide)
  have timeout : naturalOr standard.timeoutSeconds.toNat (entries.lookup "timeout_secs") <
      UInt64.size := naturalOr_lt admitted (by decide) (by decide)
  have givesPort := @gives_iff environment _ UInt16.toNat UInt16.ofNat "REDBOX_PORT" _ _
    settings.port (fun _ => UInt16.ofNat_toNat) (fun _ => UInt16.toNat_ofNat_of_lt') port
  have givesDimension := @gives_iff environment _ UInt32.toNat UInt32.ofNat "REDBOX_DIM" _ _
    settings.dimension (fun _ => UInt32.ofNat_toNat) (fun _ => UInt32.toNat_ofNat_of_lt') dimension
  have givesTimeout := @gives_iff environment _ UInt64.toNat UInt64.ofNat "REDBOX_TIMEOUT_SECS" _ _
    settings.timeoutSeconds (fun _ => UInt64.ofNat_toNat) (fun _ => UInt64.toNat_ofNat_of_lt')
    timeout
  rw [override_eq_ok]
  constructor
  · intro layered
    obtain ⟨port, readPort, isPort⟩ := givesPort.mp layered.port
    obtain ⟨dimension, readDimension, isDimension⟩ := givesDimension.mp layered.dimension
    obtain ⟨timeout, readTimeout, isTimeout⟩ := givesTimeout.mp layered.timeoutSeconds
    refine ⟨port, dimension, timeout, readPort, readDimension, readTimeout, ?_⟩
    have isHost := layered.host
    have isDatabase := layered.database
    cases settings
    simp only at isHost isPort isDatabase isDimension isTimeout
    subst isHost isPort isDatabase isDimension isTimeout
    rfl
  · rintro ⟨port, dimension, timeout, readPort, readDimension, readTimeout, rfl⟩
    exact {
      host := rfl
      port := givesPort.mpr ⟨port, readPort, rfl⟩
      database := rfl
      dimension := givesDimension.mpr ⟨dimension, readDimension, rfl⟩
      timeoutSeconds := givesTimeout.mpr ⟨timeout, readTimeout, rfl⟩ }

/-! ### Loading -/

def numbers : List (String × Nat) :=
  [("REDBOX_PORT", UInt16.size), ("REDBOX_DIM", UInt32.size), ("REDBOX_TIMEOUT_SECS", UInt64.size)]

structure Resolved (environment : Environment) (surroundings : Surroundings) : Prop where
  /-- Where a variable names a file, no other file matters, nor where it would be looked for. -/
  isolated : ∀ path, environment "REDBOX_CONFIG" = some path →
    ∀ other : Environment, Environment.AgreeOn consulted environment other →
    ∀ elsewhere : Surroundings, elsewhere.files path = surroundings.files path →
      load other elsewhere = load environment surroundings
  named_unreadable : ∀ path cause, environment "REDBOX_CONFIG" = some path →
    surroundings.files.readText path = .error cause →
    load environment surroundings = .error (.named path (.unreadable path cause))
  named_malformed : ∀ path text, environment "REDBOX_CONFIG" = some path →
    surroundings.files.readText path = .ok text → (∀ entries, ¬Writes slots text entries) →
    ∃ problem, load environment surroundings = .error (.named path (.malformed path problem))
  found_unreadable : ∀ path cause, environment "REDBOX_CONFIG" = none →
    Located surroundings path → surroundings.files.has path = true →
    surroundings.files.readText path = .error cause →
    load environment surroundings = .error (.unreadable path cause)
  found_malformed : ∀ path text, environment "REDBOX_CONFIG" = none →
    Located surroundings path → surroundings.files.has path = true →
    surroundings.files.readText path = .ok text → (∀ entries, ¬Writes slots text entries) →
    ∃ problem, load environment surroundings = .error (.malformed path problem)
  /-- Settings are found exactly if a file was chosen and every number can be read. -/
  loads_iff : ∀ settings, load environment surroundings = .ok settings ↔
    ∃ entries, Chosen environment surroundings entries ∧ Layered environment entries settings
  invalid : ∀ name bound text, (name, bound) ∈ numbers → environment name = some text →
    (∀ value, ¬Numeral.Denotes bound text value) →
    ∃ fault, load environment surroundings = .error fault

theorem load_eq_ok_iff {settings : Settings} :
    load environment surroundings = .ok settings ↔
      ∃ entries, Chosen environment surroundings entries ∧ Layered environment entries settings := by
  rw [load_eq_ok]
  constructor
  · rintro ⟨made, based, overridden⟩
    obtain ⟨entries, chosen, rfl⟩ := base_eq_ok.mp based
    exact ⟨entries, chosen, (layered_iff chosen.admitted).mpr overridden⟩
  · rintro ⟨entries, chosen, layered⟩
    exact ⟨ofEntries entries, base_eq_ok.mpr ⟨entries, chosen, rfl⟩,
      (layered_iff chosen.admitted).mp layered⟩

theorem load_of_base_error {fault : SettingsFault}
    (failed : base environment surroundings = .error fault) :
    load environment surroundings = .error fault := by
  rw [load, failed]

theorem load_congr_named {path : String} (named : environment "REDBOX_CONFIG" = some path)
    {elsewhere : Surroundings} (same : elsewhere.files path = surroundings.files path) :
    load environment elsewhere = load environment surroundings := by
  have text : elsewhere.files.readText path = surroundings.files.readText path := by
    rw [Files.readText, Files.readText, same]
  unfold load
  rw [base_of_named named, base_of_named named, ofFile, ofFile, text]

theorem numbers_denoted {entries : Entries} {settings : Settings}
    (layered : Layered environment entries settings) {name text : String} {bound : Nat}
    (member : (name, bound) ∈ numbers) (set : environment name = some text) :
    ∃ value, Numeral.Denotes bound text value := by
  have port := layered.port
  have dimension := layered.dimension
  have timeout := layered.timeoutSeconds
  unfold Environment.Gives at port dimension timeout
  simp only [numbers, List.mem_cons, List.not_mem_nil, or_false, Prod.mk.injEq] at member
  rcases member with ⟨rfl, rfl⟩ | ⟨rfl, rfl⟩ | ⟨rfl, rfl⟩
  · rw [set] at port
    exact ⟨_, port⟩
  · rw [set] at dimension
    exact ⟨_, dimension⟩
  · rw [set] at timeout
    exact ⟨_, timeout⟩

theorem load_resolves (environment : Environment) (surroundings : Surroundings) :
    Resolved environment surroundings where
  isolated path named other agree elsewhere same := by
    rw [← load_congr agree, load_congr_named named same]
  named_unreadable path cause named unreadable := by
    apply load_of_base_error
    rw [base_of_named named, ofFile_of_unreadable unreadable]
    rfl
  named_malformed path text named isRead none := by
    obtain ⟨problem, malformed⟩ := ofFile_of_malformed isRead none
    refine ⟨problem, load_of_base_error ?_⟩
    rw [base_of_named named, malformed]
    rfl
  found_unreadable path cause unnamed located has unreadable := by
    apply load_of_base_error
    rw [base_of_found unnamed located has, ofFile_of_unreadable unreadable]
  found_malformed path text unnamed located has isRead none := by
    obtain ⟨problem, malformed⟩ := ofFile_of_malformed isRead none
    refine ⟨problem, load_of_base_error ?_⟩
    rw [base_of_found unnamed located has, malformed]
  loads_iff _ := load_eq_ok_iff
  invalid name bound text member set unreadable := by
    cases loaded : load environment surroundings with
    | error fault => exact ⟨fault, rfl⟩
    | ok settings =>
      obtain ⟨entries, -, layered⟩ := load_eq_ok_iff.mp loaded
      obtain ⟨value, denoted⟩ := numbers_denoted layered member set
      exact absurd denoted (unreadable value)

def overriding (named : Option String) : Environment := fun name =>
  if name = "REDBOX_CONFIG" then named
  else if name = "REDBOX_PORT" then some "+9002"
  else none

def threeFiles (configHome : Option String) : Surroundings where
  home := some "/home/"
  configHome := configHome
  files := fun path =>
    if path = "client.json" then
      .ok (.file "\x7b\"note\": [\x7b\x7d, 1e9], \"timeout_secs\": 7, \"port\": 9000\x7d".toUTF8.toList)
    else if path = "/etc/xdg/redbox/client.json" then
      .ok (.file "\x7b\"port\": 9000, \"dimension\": 4\x7d".toUTF8.toList)
    else if path = "/home/.config/redbox/client.json" then
      .ok (.file "\x7b\"dim\": 1, \"host\": \"::1\"\x7d".toUTF8.toList)
    else .error .noSuchFile

theorem load_eq_ok_of_toOption {settings : Settings}
    (loaded : (load environment surroundings).toOption = some settings) :
    load environment surroundings = .ok settings := by
  cases result : load environment surroundings with
  | error fault =>
    rw [result] at loaded
    cases loaded
  | ok other =>
    rw [result] at loaded
    exact congrArg _ (Option.some.inj loaded)

/-- A named file hides the others, an absolute configuration directory hides the home directory, and
one that is not absolute does not. -/
theorem threeFiles_layered :
    (∃ entries, Chosen (overriding "client.json") (threeFiles "/etc/xdg") entries ∧
      Layered (overriding "client.json") entries
        { standard with port := 9002, timeoutSeconds := 7 }) ∧
    (Located (threeFiles "/etc/xdg") "/etc/xdg/redbox/client.json" ∧
      ∃ entries, Chosen (overriding none) (threeFiles "/etc/xdg") entries ∧
        Layered (overriding none) entries { standard with port := 9002, dimension := 4 }) ∧
    (Located (threeFiles "xdg") "/home/.config/redbox/client.json" ∧
      ∃ entries, Chosen (overriding none) (threeFiles "xdg") entries ∧
        Layered (overriding none) entries { standard with port := 9002, host := "::1" }) := by
  refine ⟨?_, ⟨?_, ?_⟩, ?_, ?_⟩
  · apply ((load_resolves _ _).loads_iff _).mp
    exact load_eq_ok_of_toOption (by decide +kernel)
  · exact .configHome rfl (by decide) (.unmarked (by decide))
  · apply ((load_resolves _ _).loads_iff _).mp
    exact load_eq_ok_of_toOption (by decide +kernel)
  · exact .home (by simp [threeFiles]) rfl (by decide) (.marked (by decide))
  · apply ((load_resolves _ _).loads_iff _).mp
    exact load_eq_ok_of_toOption (by decide +kernel)

end Settings

end VectorLink
