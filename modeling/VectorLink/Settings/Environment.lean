import VectorLink.Document.Quoted
import VectorLink.Fault
import VectorLink.Number.Unsigned

/-! Environment variables that override settings.

Overrides are made in a fixed order and stop at the first variable whose text is no numeral of its
range. What was overridden before it stays so.
-/

set_option autoImplicit false

namespace VectorLink

abbrev Environment := String → Option String

inductive SettingsFault where
  | invalid (name text : String) (cause : NumeralFault)
  | unreadable (path : String) (cause : IoFault)
  | malformed (path : String) (cause : Document.Problem)
  | named (path : String) (cause : SettingsFault)
  deriving DecidableEq, Repr

def SettingsFault.chain : SettingsFault → List String
  | invalid name text cause => [s!"Invalid {name} value: {text}", cause.message]
  | unreadable path cause => [s!"Failed to read config file {path}", cause.text]
  | malformed path cause => [s!"Invalid config file {path}", cause.message]
  | named path cause => s!"Config file from REDBOX_CONFIG not usable: {path}" :: cause.chain

/-- A variable and what its text makes of some settings. -/
structure Override (σ : Type) where
  name : String
  apply : String → σ → Except NumeralFault σ

namespace Override

variable {σ : Type}

def text (name : String) (set : String → σ → σ) : Override σ :=
  ⟨name, fun text settings => .ok (set text settings)⟩

def natural (name : String) (bound : Nat) (set : Nat → σ → σ) : Override σ :=
  ⟨name, fun text settings => (Numeral.read bound text).map (set · settings)⟩

/-- Makes overrides in order up to the first fault, and tells how far the settings came. -/
def applyAll (environment : Environment) : List (Override σ) → σ → σ × Except SettingsFault Unit
  | [], settings => (settings, .ok ())
  | override :: rest, settings =>
    match environment override.name with
    | none => applyAll environment rest settings
    | some text =>
      match override.apply text settings with
      | .ok settings => applyAll environment rest settings
      | .error cause => (settings, .error (.invalid override.name text cause))

end Override

end VectorLink
