import Std.Time.DateTime.Timestamp
import VectorLink.Program

/-! The program on a real machine.

Variables, the two files that settings may come from, the time and the lots are taken from the
machine; all else is decided by `Program.run`. No network is at hand here, so every attempt to
connect finds no route.
-/

set_option autoImplicit false

namespace VectorLink.Machine

def variableNames : List String :=
  ["REDBOX_CONFIG", "HOME", "XDG_CONFIG_HOME"] ++ Settings.overrides.map Override.name ++
    Workload.overrides.map Override.name

def readVariables : IO (List (String × String)) :=
  variableNames.filterMapM fun name => do
    return (← IO.getEnv name).map fun text => (name, text)

def ioFault : IO.Error → IoFault
  | .noFileOrDirectory .. => .noSuchFile
  | .inappropriateType .. => .notDirectory
  | fault => ⟨.other, toString fault⟩

def readFile (path : String) : IO (Except IoFault FileNode) := do
  try
    let bytes ← IO.FS.readBinFile path
    return .ok (.file bytes.toList)
  catch
    | .inappropriateType _ 21 _ => return .ok .directory
    | .permissionDenied _ code text =>
      return .ok (.barred ⟨.permissionDenied, s!"{text} (os error {code})"⟩)
    | fault => return .error (ioFault fault)

def readDice : IO Dice := do
  let bytes ← IO.getRandomBytes 8
  return ⟨UInt64.ofNat (LittleEndian.decode bytes.toList)⟩

def chanceOf (dice : Dice) (started : Moment) : Program.Chance :=
  { suffix := UInt32.ofNat (dice.below 0 UInt32.size)
    target := UInt32.ofNat (1000 + dice.below 1 998999)
    lots := dice.others.lots
    started }

end VectorLink.Machine

open VectorLink Machine in
def main (arguments : List String) : IO UInt32 := do
  let given ← readVariables
  let environment : Environment := fun name => given.lookup name
  let absent : Settings.Surroundings :=
    ⟨environment "HOME", environment "XDG_CONFIG_HOME", fun _ => .error .noSuchFile⟩
  let paths := (environment "REDBOX_CONFIG").toList ++ absent.standardPath?.toList
  let files ← paths.mapM fun path => do return (path, ← readFile path)
  let surroundings := { absent with
    files := fun path => (files.lookup path).getD (.error .noSuchFile) }
  let stamp := (← Std.Time.Timestamp.now).toNanosecondsSinceUnixEpoch.toInt
  let chance := chanceOf (← readDice) ⟨stamp / 1000000000, (stamp % 1000000000).toNat⟩
  let (result, _) := Program.run arguments environment surroundings chance (.ofNetwork [])
  (← IO.getStdout).putStr result.output
  (← IO.getStderr).putStr result.errors
  return result.status.toUInt32
