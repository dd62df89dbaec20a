import VectorLink.Routine.Acceptance
import VectorLink.Routine.Benchmark
import VectorLink.Settings.Basic

/-! The command line: which routine to run, with which settings, and what to print.

Arguments come first, then the settings, then the routine; the first fault ends the program. The
exit status is zero if the routine has succeeded and, where it makes checks, none has failed.
-/

set_option autoImplicit false

namespace VectorLink.Program

inductive Mode where
  | benchmark
  | acceptance
  deriving DecidableEq, Repr

structure Arguments where
  mode : Mode
  json : Bool
  deriving DecidableEq, Repr

inductive ProgramFault where
  | unknownArgument (argument : String)
  | settings (cause : SettingsFault)
  | workload (cause : SettingsFault)
  | benchmark (cause : BenchmarkFault)
  | acceptance (cause : Fault)
  deriving DecidableEq, Repr

def ProgramFault.chain : ProgramFault → List String
  | unknownArgument argument =>
    [s!"Unknown argument: {argument} (usage: redbox-bench [bench|validate] [--json])"]
  | settings cause => "Failed to load client configuration" :: cause.chain
  | workload cause => cause.chain
  | benchmark cause => "Benchmark failed" :: cause.chain
  | acceptance cause => "Validation aborted" :: cause.chain

def readArguments (read : Arguments) : List String → Except ProgramFault Arguments
  | [] => .ok read
  | "bench" :: rest => readArguments { read with mode := .benchmark } rest
  | "validate" :: rest => readArguments { read with mode := .acceptance } rest
  | "--json" :: rest => readArguments { read with json := true } rest
  | argument :: _ => .error (.unknownArgument argument)

def standardArguments : Arguments := ⟨.benchmark, false⟩

/-! ### How faults are printed -/

/-- A text behind a label, its further lines below its first. -/
def hanging (label text : String) : String :=
  label ++ .ofList (text.toList.flatMap fun char =>
    if char = '\n' then '\n' :: List.replicate label.length ' ' else [char])

def causeLabel (many : Bool) (number : Nat) : String :=
  if many then
    let digits := toString number
    "".pushn ' ' (5 - digits.length) ++ digits ++ ": "
  else "    "

def faultText : List String → String
  | [] => ""
  | [outermost] => s!"Error: {outermost}\n"
  | outermost :: causes =>
    let many := causes.length ≠ 1
    let shown := causes.zipIdx.map fun (text, number) =>
      hanging (causeLabel many number) text ++ "\n"
    s!"Error: {outermost}\n\nCaused by:\n{String.join shown}"

/-! ### Running -/

structure Result where
  status : UInt8
  output : String
  errors : String
  deriving DecidableEq, Repr

structure Chance where
  suffix : UInt32
  target : UInt32
  lots : Lots
  started : Moment

def Result.ofFault (fault : ProgramFault) : Result := ⟨1, "", faultText fault.chain⟩

def ofLines (lines : List String) : String := String.join (lines.map (· ++ "\n"))

def benchmark (json : Bool) (environment : Environment) (address : Address) (chance : Chance) :
    Routine ProgramFault Result :=
  match Workload.standard.override environment with
  | (_, .error fault) => Routine.fail (.workload fault)
  | (workload, .ok ()) => do
    let report ← (Benchmark.run address workload chance.lots chance.started).mapError .benchmark
    return ⟨0, ofLines (if json then [report.document.toLines] else report.lines), ""⟩

def acceptance (json : Bool) (address : Address) (chance : Chance) :
    Routine ProgramFault Result := do
  let list ← (Acceptance.run address chance.suffix chance.target).mapError .acceptance
  return ⟨if list.isSuccess then 0 else 1,
    ofLines (if json then [list.document.toLines] else list.lines), ""⟩

/-- What the arguments, the settings and the network make of the program. Of the settings only the
address matters. -/
def routine (arguments : List String) (environment : Environment)
    (surroundings : Settings.Surroundings) (chance : Chance) : Routine ProgramFault Result :=
  match readArguments standardArguments arguments with
  | .error fault => Routine.fail fault
  | .ok arguments =>
    match Settings.load environment surroundings with
    | .error fault => Routine.fail (.settings fault)
    | .ok settings =>
      match arguments.mode with
      | .benchmark => benchmark arguments.json environment settings.address chance
      | .acceptance => acceptance arguments.json settings.address chance

def run (arguments : List String) (environment : Environment)
    (surroundings : Settings.Surroundings) (chance : Chance) (world : World) : Result × World :=
  match routine arguments environment surroundings chance world with
  | (.ok result, world) => (result, world)
  | (.error fault, world) => (.ofFault fault, world)

end VectorLink.Program
