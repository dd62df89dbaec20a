import VectorLink.Address
import VectorLink.Document.Basic
import VectorLink.Document.Record
import VectorLink.Link.Basic
import VectorLink.Settings.Environment
import VectorLink.Settings.Files

/-! The settings of a client and where they come from.

Three sources, the later over the earlier: built-in values, a file, the environment. A file that a
variable names must be there; the one in the user's configuration directory is read if it exists.
-/

set_option autoImplicit false

namespace VectorLink

structure Settings where
  host : String
  port : UInt16
  database : String
  dimension : UInt32
  timeoutSeconds : UInt64
  deriving DecidableEq, Repr

namespace Settings

def standard : Settings :=
  ⟨Address.standard.host, Address.standard.port, "default", 128,
    UInt64.ofNat Link.standardLimit.seconds⟩

instance : Inhabited Settings := ⟨standard⟩

def address (settings : Settings) : Address := ⟨settings.host, settings.port⟩

def limit (settings : Settings) : Span := .ofSeconds settings.timeoutSeconds.toNat

def selection (settings : Settings) : Selection := ⟨settings.database, settings.dimension⟩

/-! ### Documents -/

def document (settings : Settings) : Document :=
  .record [("host", .text settings.host), ("port", .natural settings.port.toNat),
    ("database", .text settings.database), ("dimension", .natural settings.dimension.toNat),
    ("timeout_secs", .natural settings.timeoutSeconds.toNat)]

def slots : List Document.Slot :=
  [.empty "host" .text, .empty "port" (.natural UInt16.size), .empty "database" .text,
    .empty "dimension" (.natural UInt32.size), .empty "timeout_secs" (.natural UInt64.size)]

def textOr (fallback : String) : Option Document.Scalar → String
  | some (.text value) => value
  | _ => fallback

def naturalOr (fallback : Nat) : Option Document.Scalar → Nat
  | some (.natural value) => value
  | _ => fallback

def build : List (Option Document.Scalar) → Option Settings
  | [host, port, database, dimension, timeout] =>
    some {
      host := textOr standard.host host
      port := UInt16.ofNat (naturalOr standard.port.toNat port)
      database := textOr standard.database database
      dimension := UInt32.ofNat (naturalOr standard.dimension.toNat dimension)
      timeoutSeconds := UInt64.ofNat (naturalOr standard.timeoutSeconds.toNat timeout) }
  | _ => none

def read (text : String) : Except Document.Problem Settings :=
  Document.parse (Document.readRecord slots build) text

/-! ### Sources -/

def overrides : List (Override Settings) :=
  [.text "REDBOX_HOST" fun host settings => { settings with host },
    .natural "REDBOX_PORT" UInt16.size fun port settings =>
      { settings with port := UInt16.ofNat port },
    .text "REDBOX_DB" fun database settings => { settings with database },
    .natural "REDBOX_DIM" UInt32.size fun dimension settings =>
      { settings with dimension := UInt32.ofNat dimension },
    .natural "REDBOX_TIMEOUT_SECS" UInt64.size fun timeout settings =>
      { settings with timeoutSeconds := UInt64.ofNat timeout }]

def override (settings : Settings) (environment : Environment) :
    Settings × Except SettingsFault Unit :=
  Override.applyAll environment overrides settings

def ofFile (files : Files) (path : String) : Except SettingsFault Settings :=
  match files.readText path with
  | .error cause => .error (.unreadable path cause)
  | .ok text =>
    match read text with
    | .error cause => .error (.malformed path cause)
    | .ok settings => .ok settings

structure Surroundings where
  home : Option String
  configHome : Option String
  files : Files

/-- Where the user's file is looked for: in the configuration directory if an absolute one is
given, else in its customary place in the home directory. An empty name is no home directory. -/
def Surroundings.standardPath? (surroundings : Surroundings) : Option String :=
  let directory := match surroundings.configHome.filter Files.isAbsolute with
    | some directory => some directory
    | none => (surroundings.home.filter (· ≠ "")).map (Files.join · ".config")
  directory.map fun directory => Files.join (Files.join directory "redbox") "client.json"

def base (environment : Environment) (surroundings : Surroundings) :
    Except SettingsFault Settings :=
  match environment "REDBOX_CONFIG" with
  | some path =>
    match ofFile surroundings.files path with
    | .ok settings => .ok settings
    | .error cause => .error (.named path cause)
  | none =>
    match surroundings.standardPath?.filter surroundings.files.has with
    | some path => ofFile surroundings.files path
    | none => .ok standard

def load (environment : Environment) (surroundings : Surroundings) :
    Except SettingsFault Settings :=
  match base environment surroundings with
  | .error fault => .error fault
  | .ok settings =>
    match settings.override environment with
    | (settings, .ok ()) => .ok settings
    | (_, .error fault) => .error fault

end Settings

end VectorLink
