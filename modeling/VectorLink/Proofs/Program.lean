import VectorLink.Program
import VectorLink.Proofs.Routine.Acceptance
import VectorLink.Proofs.Routine.Benchmark
import VectorLink.Proofs.Settings.Override

/-! What the exit status says.

The program looks at its arguments, then at its settings, then at the size of a benchmark, and
nothing is done with the network before all of them are found good. Its status is zero exactly if the
routine that was selected has done all it had to, and depends on nothing that is only printed.
-/

set_option autoImplicit false

namespace VectorLink.Program

/-! ### Arguments -/

def known : List String := ["bench", "validate", "--json"]

def Mode.named? : String → Option Mode
  | "bench" => some .benchmark
  | "validate" => some .acceptance
  | _ => none

/-- The last routine that is named, or the one that would be run without. -/
def Mode.last (unnamed : Mode) (arguments : List String) : Mode :=
  (arguments.filterMap named?).getLast?.getD unnamed

def selected (arguments : List String) : Mode := Mode.last .benchmark arguments

def unknown? (arguments : List String) : Option String := arguments.find? (· ∉ known)

theorem unknown?_eq_none {arguments : List String} :
    unknown? arguments = none ↔ ∀ argument ∈ arguments, argument ∈ known := by
  simp [unknown?, List.find?_eq_none]

theorem Mode.last_cons (unnamed mode : Mode) {argument : String} (arguments : List String)
    (named : named? argument = some mode) :
    last unnamed (argument :: arguments) = last mode arguments := by
  unfold last
  rw [List.filterMap_cons_some named, List.getLast?_cons]
  rfl

theorem Mode.last_cons_of_none (unnamed : Mode) {argument : String} (arguments : List String)
    (unused : named? argument = none) :
    last unnamed (argument :: arguments) = last unnamed arguments := by
  unfold last
  rw [List.filterMap_cons_none unused]

theorem unknown?_cons {argument : String} {arguments : List String} (known : argument ∈ known) :
    unknown? (argument :: arguments) = unknown? arguments :=
  List.find?_cons_of_neg (by simpa using known)

theorem readArguments_eq (read : Arguments) (arguments : List String) :
    readArguments read arguments =
      match unknown? arguments with
      | some argument => .error (.unknownArgument argument)
      | none => .ok ⟨.last read.mode arguments, read.json || arguments.contains "--json"⟩ := by
  -- an argument that is known changes what was read so far, and both sides go on with it
  fun_induction readArguments read arguments with
  | case1 read => simp [unknown?, Mode.last]
  | case2 read rest ih =>
    rw [ih, Mode.last_cons _ .benchmark rest rfl]
    rfl
  | case3 read rest ih =>
    rw [ih, Mode.last_cons _ .acceptance rest rfl]
    rfl
  | case4 read rest ih =>
    rw [ih, unknown?_cons (by decide), Mode.last_cons_of_none _ rest rfl]
    cases unknown? rest <;> simp
  | case5 read argument rest first second third =>
    have other : argument ∉ known := by simpa [known] using ⟨first, second, third⟩
    simp [unknown?, other]

theorem unknown?_filter (arguments : List String) :
    unknown? (arguments.filter (· ≠ "--json")) = unknown? arguments := by
  unfold unknown?
  rw [List.find?_filter]
  congr 1
  funext argument
  by_cases json : argument = "--json"
  · subst json
    decide
  · simp [json]

theorem selected_filter (arguments : List String) :
    selected (arguments.filter (· ≠ "--json")) = selected arguments := by
  unfold selected Mode.last
  rw [List.filterMap_filter]
  congr 3
  funext argument
  by_cases json : argument = "--json"
  · subst json
    rfl
  · simp [json]

/-! ### Runs -/

def Result.ofEnding : Except ProgramFault Result → Result
  | .ok result => result
  | .error fault => .ofFault fault

variable {arguments : List String} {environment : Environment}
  {surroundings : Settings.Surroundings} {chance : Chance} {world : World} {settings : Settings}

theorem run_eq : run arguments environment surroundings chance world =
    (.ofEnding (routine arguments environment surroundings chance world).1,
      (routine arguments environment surroundings chance world).2) := by
  unfold run
  rcases routine arguments environment surroundings chance world with ⟨fault | result, last⟩ <;> rfl

def chosen (mode : Mode) (json : Bool) (environment : Environment) (address : Address)
    (chance : Chance) : Routine ProgramFault Result :=
  match mode with
  | .benchmark => benchmark json environment address chance
  | .acceptance => acceptance json address chance

theorem routine_of_unknown {argument : String} (unknown : unknown? arguments = some argument) :
    routine arguments environment surroundings chance =
      Routine.fail (.unknownArgument argument) := by
  unfold routine
  rw [readArguments_eq, unknown]

theorem routine_of_settings {fault : SettingsFault} (known : unknown? arguments = none)
    (bad : Settings.load environment surroundings = .error fault) :
    routine arguments environment surroundings chance = Routine.fail (.settings fault) := by
  unfold routine
  rw [readArguments_eq, known, bad]

theorem routine_of_load (known : unknown? arguments = none)
    (loaded : Settings.load environment surroundings = .ok settings) :
    routine arguments environment surroundings chance =
      chosen (selected arguments) (arguments.contains "--json") environment settings.address
        chance := by
  unfold routine
  rw [readArguments_eq, known, loaded]
  rfl

/-- The routine does all that it has to. A benchmark needs a size that can be read and no more
vectors than there are ids; a link must open, and every exchange on it must succeed. An acceptance
run must come to its end, and then every check of the answers must hold. -/
def Succeeds (environment : Environment) (address : Address) (chance : Chance) (world : World) :
    Mode → Prop
  | .benchmark => ∃ workload, Workload.standard.override environment = (workload, .ok ()) ∧
      workload.vectors ≤ UInt32.size ∧
      ∃ done last, Plan.carryOut
        (.connect address ⟨workload.database, workload.dimension⟩ Link.standardLimit ::
          (Benchmark.requests workload chance.lots).map .ask) world = (.ok done, last)
  | .acceptance => ∃ findings last,
      (Acceptance.plan address chance.suffix chance.target).carryOut world =
        (.ok (Acceptance.Findings.transcript address chance.suffix chance.target findings), last) ∧
      ∀ check ∈ findings.checks chance.target, check.passed

theorem benchmark_of_error {json : Bool} {address : Address} {workload : Workload}
    {fault : SettingsFault} (bad : Workload.standard.override environment = (workload, .error fault)) :
    benchmark json environment address chance = Routine.fail (.workload fault) := by
  unfold benchmark
  rw [bad]

theorem benchmark_of_ok {workload : Workload} (json : Bool) (address : Address) (world : World)
    (sized : Workload.standard.override environment = (workload, .ok ())) :
    benchmark json environment address chance world =
      match Benchmark.run address workload chance.lots chance.started world with
      | (.ok report, last) =>
        (.ok ⟨0, ofLines (if json then [report.document.toLines] else report.lines), ""⟩, last)
      | (.error fault, last) => (.error (.benchmark fault), last) := by
  unfold benchmark
  rw [sized]
  dsimp only
  rcases ran : Benchmark.run address workload chance.lots chance.started world with
    ⟨fault | report, last⟩
  · exact Routine.bind_of_error (Routine.mapError_of_error ran)
  · exact Routine.bind_of_ok (Routine.mapError_of_ok ran)

theorem acceptance_eq (json : Bool) (address : Address) (chance : Chance) (world : World) :
    acceptance json address chance world =
      match Acceptance.run address chance.suffix chance.target world with
      | (.ok list, last) =>
        (.ok ⟨if list.isSuccess then 0 else 1,
          ofLines (if json then [list.document.toLines] else list.lines), ""⟩, last)
      | (.error fault, last) => (.error (.acceptance fault), last) := by
  unfold acceptance
  rcases ran : Acceptance.run address chance.suffix chance.target world with ⟨fault | list, last⟩
  · exact Routine.bind_of_error (Routine.mapError_of_error ran)
  · exact Routine.bind_of_ok (Routine.mapError_of_ok ran)

theorem benchmark_status_eq_zero (json : Bool) (address : Address) :
    (Result.ofEnding (benchmark json environment address chance world).1).status = 0 ↔
      Succeeds environment address chance world .benchmark := by
  unfold Succeeds
  rcases overridden : Workload.standard.override environment with ⟨workload, fault | _⟩
  · rw [benchmark_of_error overridden]
    constructor
    · intro zero
      cases zero
    · rintro ⟨other, same, -⟩
      cases same
  · have ends := Benchmark.run_isOk_iff address workload chance.lots chance.started world
    rw [Plan.session_isOk_iff] at ends
    rw [benchmark_of_ok json address world overridden]
    constructor
    · intro zero
      refine ⟨workload, rfl, ends.mp ?_⟩
      rcases ran : Benchmark.run address workload chance.lots chance.started world with
        ⟨fault | report, last⟩
      · rw [ran] at zero
        cases zero
      · exact ⟨report, last, rfl⟩
    · rintro ⟨_, ⟨⟩, holds⟩
      obtain ⟨report, last, ran⟩ := ends.mpr holds
      rw [ran]
      rfl

theorem acceptance_status_eq_zero (json : Bool) (address : Address) :
    (Result.ofEnding (acceptance json address chance world).1).status = 0 ↔
      Succeeds environment address chance world .acceptance := by
  unfold Succeeds
  rw [← Acceptance.run_isSuccess_iff, acceptance_eq]
  rcases ran : Acceptance.run address chance.suffix chance.target world with ⟨fault | report, last⟩
  · constructor
    · intro zero
      cases zero
    · rintro ⟨other, last, same, -⟩
      cases same
  · cases success : report.isSuccess <;> simp [Result.ofEnding, success]

theorem chosen_status_eq_zero (mode : Mode) (json : Bool) (address : Address) :
    (Result.ofEnding (chosen mode json environment address chance world).1).status = 0 ↔
      Succeeds environment address chance world mode := by
  cases mode with
  | benchmark => exact benchmark_status_eq_zero json address
  | acceptance => exact acceptance_status_eq_zero json address

theorem chosen_exit (mode : Mode) (json other : Bool) (address : Address) :
    (Result.ofEnding (chosen mode json environment address chance world).1).status =
        (Result.ofEnding (chosen mode other environment address chance world).1).status ∧
      (chosen mode json environment address chance world).2 =
        (chosen mode other environment address chance world).2 := by
  cases mode with
  | benchmark =>
    show (Result.ofEnding (benchmark json environment address chance world).1).status =
        (Result.ofEnding (benchmark other environment address chance world).1).status ∧
      (benchmark json environment address chance world).2 =
        (benchmark other environment address chance world).2
    rcases overridden : Workload.standard.override environment with ⟨workload, fault | _⟩
    · rw [benchmark_of_error overridden, benchmark_of_error overridden]
      exact ⟨rfl, rfl⟩
    · rw [benchmark_of_ok json address world overridden, benchmark_of_ok other address world overridden]
      rcases Benchmark.run address workload chance.lots chance.started world with
        ⟨fault | report, last⟩ <;> exact ⟨rfl, rfl⟩
  | acceptance =>
    show (Result.ofEnding (acceptance json address chance world).1).status =
        (Result.ofEnding (acceptance other address chance world).1).status ∧
      (acceptance json address chance world).2 = (acceptance other address chance world).2
    rw [acceptance_eq, acceptance_eq]
    rcases Acceptance.run address chance.suffix chance.target world with ⟨fault | list, last⟩ <;>
      exact ⟨rfl, rfl⟩

theorem chosen_congr {mode : Mode} {first second : Environment} (json : Bool) (address : Address)
    (agree : mode = .benchmark →
      Environment.AgreeOn (Workload.overrides.map Override.name) first second) :
    chosen mode json first address chance = chosen mode json second address chance := by
  cases mode with
  | acceptance => rfl
  | benchmark =>
    have same : Workload.standard.override first = Workload.standard.override second :=
      Override.applyAll_congr (agree rfl) _
    show benchmark json first address chance = benchmark json second address chance
    unfold benchmark
    rw [same]

/-! ### What is reported -/

theorem hanging_of_line (label : String) {text : String} (line : '\n' ∉ text.toList) :
    hanging label text = label ++ text := by
  -- only an end of line would be followed by blanks
  have same : (text.toList.flatMap fun char =>
      if char = '\n' then '\n' :: List.replicate label.length ' ' else [char]) = text.toList := by
    generalize text.toList = chars at line
    induction chars with
    | nil => rfl
    | cons char rest ih =>
      rw [List.mem_cons, not_or] at line
      rw [List.flatMap_cons, if_neg (Ne.symm line.1), ih line.2]
      rfl
  rw [hanging, same, String.ofList_toList]

theorem faultText_unknown (argument : String) :
    faultText (ProgramFault.unknownArgument argument).chain =
      s!"Error: Unknown argument: {argument} (usage: redbox-bench [bench|validate] [--json])\n" := by
  have start : "Error: Unknown argument: " = "Error: " ++ "Unknown argument: " := rfl
  have usage : " (usage: redbox-bench [bench|validate] [--json])\n" =
      " (usage: redbox-bench [bench|validate] [--json])" ++ "\n" := rfl
  simp only [ProgramFault.chain, faultText, start, usage, String.append_assoc, toString]

theorem faultText_pair (outermost : String) {cause : String} (line : '\n' ∉ cause.toList) :
    faultText [outermost, cause] = s!"Error: {outermost}\n\nCaused by:\n    {cause}\n" := by
  have shown : hanging (causeLabel false 0) cause = "    " ++ cause := hanging_of_line _ line
  have text : faultText [outermost, cause] =
      "Error: " ++ outermost ++ "\n\nCaused by:\n" ++
        String.join [hanging (causeLabel false 0) cause ++ "\n"] := rfl
  have head : "\n\nCaused by:\n    " = "\n\nCaused by:\n" ++ "    " := rfl
  rw [text, shown, String.join_cons, String.join_nil, String.append_empty, head]
  simp only [String.append_assoc, toString]

theorem faultText_many (outermost first second : String) (more : List String) :
    ∃ rest, faultText (outermost :: first :: second :: more) =
      "Error: " ++ outermost ++ "\n\nCaused by:\n    0: " ++ rest := by
  have head : "\n\nCaused by:\n    0: " = "\n\nCaused by:\n" ++ "    0: " := rfl
  have label : causeLabel true 0 = "    0: " := by decide
  have many : decide ((first :: second :: more).length ≠ 1) = true := by simp
  unfold faultText
  simp only [many, List.zipIdx_cons, List.map_cons, String.join_cons, hanging, label, head,
    String.append_assoc, toString]
  exact ⟨_, rfl⟩

theorem message_line (cause : NumeralFault) : '\n' ∉ cause.message.toList := by
  cases cause <;> decide

theorem chain_eq_cons (fault : SettingsFault) :
    ∃ (first second : String) (more : List String), fault.chain = first :: second :: more := by
  induction fault with
  | invalid name text cause => exact ⟨_, _, [], rfl⟩
  | unreadable path cause => exact ⟨_, _, [], rfl⟩
  | malformed path cause => exact ⟨_, _, [], rfl⟩
  | named path cause ih =>
    obtain ⟨first, second, more, same⟩ := ih
    exact ⟨_, first, second :: more, congrArg (List.cons _) same⟩

/-! ### The exit status -/

/-- What the exit status of a run means, what is reported before anything is tried, and what makes
no difference. -/
structure Truthful (arguments : List String) (environment : Environment)
    (surroundings : Settings.Surroundings) (chance : Chance) (world : World) : Prop where
  status_eq_zero_iff :
    (run arguments environment surroundings chance world).1.status = 0 ↔
      (∀ argument ∈ arguments, argument ∈ known) ∧
      ∃ settings, Settings.load environment surroundings = .ok settings ∧
        Succeeds environment settings.address chance world (selected arguments)
  /-- The first unknown argument is reported, whatever the settings are, and nothing is done. -/
  unknown : ∀ argument, unknown? arguments = some argument →
    run arguments environment surroundings chance world = (⟨1, "",
      s!"Error: Unknown argument: {argument} (usage: redbox-bench [bench|validate] [--json])\n"⟩,
      world)
  settings : (∀ argument ∈ arguments, argument ∈ known) →
    ∀ fault, Settings.load environment surroundings = .error fault →
    ∃ causes : String, run arguments environment surroundings chance world = (⟨1, "",
      "Error: Failed to load client configuration\n\nCaused by:\n    0: " ++ causes⟩, world)
  workload : (∀ argument ∈ arguments, argument ∈ known) →
    ∀ settings, Settings.load environment surroundings = .ok settings →
    selected arguments = .benchmark →
    ∀ workload fault, Workload.standard.override environment = (workload, .error fault) →
    ∃ (name text : String) (cause : NumeralFault), name ∈ Workload.overrides.map Override.name ∧
      environment name = some text ∧ fault = .invalid name text cause ∧
      run arguments environment surroundings chance world = (⟨1, "",
        s!"Error: Invalid {name} value: {text}\n\nCaused by:\n    {cause.message}\n"⟩, world)
  /-- Asking for a document, wherever and however often, changes only what is printed. -/
  json : ∀ others : List String,
    others.filter (· ≠ "--json") = arguments.filter (· ≠ "--json") →
    (run others environment surroundings chance world).1.status =
        (run arguments environment surroundings chance world).1.status ∧
      (run others environment surroundings chance world).2 =
        (run arguments environment surroundings chance world).2
  size : selected arguments = .acceptance → ∀ other : Environment,
    (∀ name, name ∉ Workload.overrides.map Override.name → other name = environment name) →
    run arguments other surroundings chance world =
      run arguments environment surroundings chance world
  /-- Of good settings, wherever they come from, the address alone matters. -/
  address : ∀ (settings others : Settings) (other : Environment) (place : Settings.Surroundings),
    Settings.load environment surroundings = .ok settings →
    Settings.load other place = .ok others → others.address = settings.address →
    (selected arguments = .benchmark →
      ∀ name ∈ Workload.overrides.map Override.name, other name = environment name) →
    run arguments other place chance world = run arguments environment surroundings chance world

theorem run_of_fault {fault : ProgramFault}
    (fails : routine arguments environment surroundings chance = Routine.fail fault) :
    run arguments environment surroundings chance world = (.ofFault fault, world) := by
  rw [run_eq, fails]
  rfl

theorem run_congr {others : List String} {other : Environment} {place : Settings.Surroundings}
    (same : routine others other place chance = routine arguments environment surroundings chance) :
    run others other place chance world =
      run arguments environment surroundings chance world := by
  rw [run_eq, run_eq, same]

theorem agreeOn_consulted {other : Environment}
    (same : ∀ name, name ∉ Workload.overrides.map Override.name → other name = environment name) :
    Environment.AgreeOn Settings.consulted other environment := by
  -- the two lists of variables have no name in common
  have apart : ∀ name ∈ Settings.consulted, name ∉ Workload.overrides.map Override.name := by
    decide
  exact fun name member => same name (apart name member)

theorem status_eq_zero_iff : (run arguments environment surroundings chance world).1.status = 0 ↔
    (∀ argument ∈ arguments, argument ∈ known) ∧
    ∃ settings, Settings.load environment surroundings = .ok settings ∧
      Succeeds environment settings.address chance world (selected arguments) := by
  rw [← unknown?_eq_none]
  cases unknown : unknown? arguments with
  | some argument =>
    rw [run_of_fault (routine_of_unknown unknown)]
    simp [Result.ofFault]
  | none =>
    cases loaded : Settings.load environment surroundings with
    | error fault =>
      rw [run_of_fault (routine_of_settings unknown loaded)]
      simp [Result.ofFault]
    | ok settings =>
      rw [run_eq, routine_of_load unknown loaded, chosen_status_eq_zero]
      simp

theorem run_of_settings {fault : SettingsFault} (known : unknown? arguments = none)
    (bad : Settings.load environment surroundings = .error fault) :
    ∃ causes : String, run arguments environment surroundings chance world = (⟨1, "",
      "Error: Failed to load client configuration\n\nCaused by:\n    0: " ++ causes⟩, world) := by
  -- below the text of the program there are the variable or the file, and what is wrong with it
  obtain ⟨first, second, more, chain⟩ := chain_eq_cons fault
  obtain ⟨rest, text⟩ := faultText_many "Failed to load client configuration" first second more
  refine ⟨rest, ?_⟩
  rw [run_of_fault (routine_of_settings known bad), Result.ofFault, ProgramFault.chain, chain, text]
  rfl

theorem run_of_workload {workload : Workload} {name text : String} {cause : NumeralFault}
    (known : unknown? arguments = none)
    (loaded : Settings.load environment surroundings = .ok settings)
    (benchmark : selected arguments = .benchmark)
    (bad : Workload.standard.override environment =
      (workload, .error (.invalid name text cause))) :
    run arguments environment surroundings chance world = (⟨1, "",
      s!"Error: Invalid {name} value: {text}\n\nCaused by:\n    {cause.message}\n"⟩, world) := by
  have fails : routine arguments environment surroundings chance =
      Routine.fail (.workload (.invalid name text cause)) := by
    rw [routine_of_load known loaded, benchmark]
    exact benchmark_of_error bad
  rw [run_of_fault fails, Result.ofFault, ProgramFault.chain, SettingsFault.chain,
    faultText_pair _ (message_line cause)]
  rfl

theorem run_json {others : List String}
    (same : others.filter (· ≠ "--json") = arguments.filter (· ≠ "--json")) :
    (run others environment surroundings chance world).1.status =
        (run arguments environment surroundings chance world).1.status ∧
      (run others environment surroundings chance world).2 =
        (run arguments environment surroundings chance world).2 := by
  have unknowns : unknown? others = unknown? arguments := by
    rw [← unknown?_filter others, same, unknown?_filter]
  have selects : selected others = selected arguments := by
    rw [← selected_filter others, same, selected_filter]
  cases unknown : unknown? arguments with
  | some argument =>
    rw [run_of_fault (routine_of_unknown unknown),
      run_of_fault (routine_of_unknown (unknowns.trans unknown))]
    exact ⟨rfl, rfl⟩
  | none =>
    cases loaded : Settings.load environment surroundings with
    | error fault =>
      rw [run_of_fault (routine_of_settings unknown loaded),
        run_of_fault (routine_of_settings (unknowns.trans unknown) loaded)]
      exact ⟨rfl, rfl⟩
    | ok settings =>
      rw [run_eq, run_eq, routine_of_load unknown loaded,
        routine_of_load (unknowns.trans unknown) loaded, selects]
      exact chosen_exit ..

theorem run_size {other : Environment} (acceptance : selected arguments = .acceptance)
    (same : ∀ name, name ∉ Workload.overrides.map Override.name → other name = environment name) :
    run arguments other surroundings chance world =
      run arguments environment surroundings chance world := by
  refine run_congr ?_
  have loads := Settings.load_congr (agreeOn_consulted same) surroundings
  cases unknown : unknown? arguments with
  | some argument => rw [routine_of_unknown unknown, routine_of_unknown unknown]
  | none =>
    cases loaded : Settings.load environment surroundings with
    | error fault =>
      rw [routine_of_settings unknown loaded, routine_of_settings unknown (loads.trans loaded)]
    | ok settings =>
      rw [routine_of_load unknown loaded, routine_of_load unknown (loads.trans loaded), acceptance]
      rfl

theorem run_address {others : Settings} {other : Environment} {place : Settings.Surroundings}
    (loaded : Settings.load environment surroundings = .ok settings)
    (loadedOther : Settings.load other place = .ok others)
    (same : others.address = settings.address)
    (agree : selected arguments = .benchmark →
      ∀ name ∈ Workload.overrides.map Override.name, other name = environment name) :
    run arguments other place chance world = run arguments environment surroundings chance world := by
  refine run_congr ?_
  cases unknown : unknown? arguments with
  | some argument => rw [routine_of_unknown unknown, routine_of_unknown unknown]
  | none =>
    rw [routine_of_load unknown loaded, routine_of_load unknown loadedOther, same]
    exact chosen_congr _ _ agree

/-- The exit status tells the truth, for all arguments, settings and networks. It is zero exactly if
every argument is known, the settings can be loaded, and the routine that was named last, or else the
benchmark, does all it has to. An unknown argument is reported before the settings are looked at,
bad settings and a bad size before anything is tried. Neither the form of the report nor, for an
acceptance run, the size of a benchmark makes a difference, nor any setting but the address. -/
theorem run_truthful (arguments : List String) (environment : Environment)
    (surroundings : Settings.Surroundings) (chance : Chance) (world : World) :
    Truthful arguments environment surroundings chance world where
  status_eq_zero_iff := status_eq_zero_iff
  unknown argument unknown := by
    rw [run_of_fault (routine_of_unknown unknown), Result.ofFault, faultText_unknown]
  settings known fault bad := run_of_settings (unknown?_eq_none.mpr known) bad
  workload known settings loaded benchmark workload fault bad := by
    obtain ⟨name, text, cause, member, isSet, rfl⟩ := Override.applyAll_eq_error bad
    exact ⟨name, text, cause, member, isSet, rfl,
      run_of_workload (unknown?_eq_none.mpr known) loaded benchmark bad⟩
  json _ same := run_json same
  size acceptance _ same := run_size acceptance same
  address _ _ _ _ loaded loadedOther same agree := run_address loaded loadedOther same agree

def bare : Settings.Surroundings := ⟨none, none, fun _ => .error .noSuchFile⟩

def orderly : Chance := ⟨0, 1000, Benchmark.orderly, ⟨0, 0⟩⟩

def briefly : Environment := fun name =>
  if name = "REDBOX_BENCH_DB" then some "brief"
  else if name = "REDBOX_BENCH_DIM" then some "1"
  else if name = "REDBOX_BENCH_VECTORS" then some "2"
  else if name = "REDBOX_BENCH_QUERIES" then some "1"
  else none

theorem served_run_truthful :
    ((run ["bench", "--json", "validate"] (fun _ => none) bare orderly
        (Acceptance.serving 1002 1002 1)).1.status = 0 ∧
      Succeeds (fun _ => none) .standard orderly (Acceptance.serving 1002 1002 1) .acceptance) ∧
    ((run ["validate", "bench"] briefly bare orderly Benchmark.obliging).1.status = 0 ∧
      Succeeds briefly .standard orderly Benchmark.obliging .benchmark) ∧
    run ["--json", "--jsn", "-h"] briefly bare orderly Benchmark.obliging = (⟨1, "",
      "Error: Unknown argument: --jsn (usage: redbox-bench [bench|validate] [--json])\n"⟩,
      Benchmark.obliging) := by
  refine ⟨?_, ?_, ?_⟩
  · have zero : (run ["bench", "--json", "validate"] (fun _ => none) bare orderly
        (Acceptance.serving 1002 1002 1)).1.status = 0 := by decide +kernel
    obtain ⟨-, settings, loaded, succeeds⟩ := (run_truthful ["bench", "--json", "validate"]
      (fun _ => none) bare orderly (Acceptance.serving 1002 1002 1)).status_eq_zero_iff.mp zero
    cases loaded
    exact ⟨zero, succeeds⟩
  · have zero : (run ["validate", "bench"] briefly bare orderly Benchmark.obliging).1.status = 0 := by
      decide +kernel
    obtain ⟨-, settings, loaded, succeeds⟩ := (run_truthful ["validate", "bench"] briefly bare
      orderly Benchmark.obliging).status_eq_zero_iff.mp zero
    cases loaded
    exact ⟨zero, succeeds⟩
  · exact (run_truthful ["--json", "--jsn", "-h"] briefly bare orderly
      Benchmark.obliging).unknown "--jsn" (by decide)

end VectorLink.Program
