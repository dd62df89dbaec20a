import VectorLink.Settings.Basic
import VectorLink.Settings.Workload

/-! What the environment makes of settings.

Overriding goes through a list of variables and may stop at any of them. Here it is told what comes
of it when it does not stop: each member that has a variable is what this variable says, if it is
set. Nothing else of the environment matters.
-/

set_option autoImplicit false

namespace VectorLink

def Environment.natural? (environment : Environment) (name : String) (bound : Nat) :
    Except NumeralFault (Option Nat) :=
  match environment name with
  | none => .ok none
  | some text => (Numeral.read bound text).map some

def Environment.AgreeOn (names : List String) (first second : Environment) : Prop :=
  ∀ name ∈ names, first name = second name

theorem Environment.AgreeOn.of_cons {name : String} {names : List String}
    {first second : Environment} (agree : AgreeOn (name :: names) first second) :
    first name = second name ∧ AgreeOn names first second :=
  ⟨agree name (.head _), fun other member => agree other (.tail _ member)⟩

namespace Override

variable {σ : Type} {environment other : Environment}

/-- Overriding depends on no variable but those of its list. -/
theorem applyAll_congr {overrides : List (Override σ)}
    (agree : Environment.AgreeOn (overrides.map name) environment other) (settings : σ) :
    applyAll environment overrides settings = applyAll other overrides settings := by
  induction overrides generalizing settings with
  | nil => rfl
  | cons override rest ih =>
    obtain ⟨same, agree⟩ := Environment.AgreeOn.of_cons agree
    unfold applyAll
    rw [same]
    cases other override.name with
    | none => exact ih agree settings
    | some text =>
      dsimp only
      cases override.apply text settings with
      | ok settings => exact ih agree settings
      | error cause => rfl

theorem applyAll_eq_error {overrides : List (Override σ)} {settings after : σ}
    {fault : SettingsFault}
    (failed : applyAll environment overrides settings = (after, .error fault)) :
    ∃ (name text : String) (cause : NumeralFault), name ∈ overrides.map Override.name ∧
      environment name = some text ∧ fault = .invalid name text cause := by
  induction overrides generalizing settings with
  | nil => cases failed
  | cons override rest ih =>
    -- an override that is not set, or whose text is good, leaves the fault to those behind it
    have later (settings : σ) (failed : applyAll environment rest settings = (after, .error fault)) :
        ∃ (name text : String) (cause : NumeralFault),
          name ∈ (override :: rest).map Override.name ∧ environment name = some text ∧
            fault = .invalid name text cause := by
      obtain ⟨name, text, cause, member, isSet, same⟩ := ih failed
      exact ⟨name, text, cause, .tail _ member, isSet, same⟩
    unfold applyAll at failed
    cases isSet : environment override.name with
    | none =>
      rw [isSet] at failed
      exact later settings failed
    | some text =>
      rw [isSet] at failed
      dsimp only at failed
      cases applied : override.apply text settings with
      | ok settings =>
        rw [applied] at failed
        exact later settings failed
      | error cause =>
        rw [applied] at failed
        cases failed
        exact ⟨override.name, text, cause, .head _, isSet, rfl⟩

theorem applyAll_nil (settings : σ) : applyAll environment [] settings = (settings, .ok ()) := rfl

theorem applyAll_text (name : String) (set : String → σ → σ) (rest : List (Override σ))
    (settings : σ) :
    applyAll environment (text name set :: rest) settings =
      applyAll environment rest ((environment name).elim settings (set · settings)) := by
  rw [applyAll]
  cases set : environment name <;> simp [text, set]

theorem applyAll_natural_eq_ok {name : String} {bound : Nat} {set : Nat → σ → σ}
    {rest : List (Override σ)} {settings result : σ} :
    applyAll environment (natural name bound set :: rest) settings = (result, .ok ()) ↔
      ∃ value, environment.natural? name bound = .ok value ∧
        applyAll environment rest (value.elim settings (set · settings)) = (result, .ok ()) := by
  rw [applyAll]
  unfold Environment.natural?
  show (match environment name with | none => _ | some text => _) = _ ↔ _
  cases given : environment name with
  | none => simp
  | some text =>
    cases read : Numeral.read bound text <;> simp [natural, read, Except.map]

end Override

theorem Settings.override_eq_ok {settings result : Settings} {environment : Environment} :
    settings.override environment = (result, .ok ()) ↔
      ∃ port dimension timeout,
        environment.natural? "REDBOX_PORT" UInt16.size = .ok port ∧
        environment.natural? "REDBOX_DIM" UInt32.size = .ok dimension ∧
        environment.natural? "REDBOX_TIMEOUT_SECS" UInt64.size = .ok timeout ∧
        result = {
          host := (environment "REDBOX_HOST").getD settings.host
          port := port.elim settings.port UInt16.ofNat
          database := (environment "REDBOX_DB").getD settings.database
          dimension := dimension.elim settings.dimension UInt32.ofNat
          timeoutSeconds := timeout.elim settings.timeoutSeconds UInt64.ofNat } := by
  unfold override overrides
  simp only [Override.applyAll_text, Override.applyAll_natural_eq_ok, Override.applyAll_nil,
    Prod.mk.injEq, and_true]
  constructor
  · rintro ⟨port, readPort, dimension, readDimension, timeout, readTimeout, rfl⟩
    refine ⟨port, dimension, timeout, readPort, readDimension, readTimeout, ?_⟩
    cases environment "REDBOX_HOST" <;> cases environment "REDBOX_DB" <;> cases port <;>
      cases dimension <;> cases timeout <;> rfl
  · rintro ⟨port, dimension, timeout, readPort, readDimension, readTimeout, rfl⟩
    refine ⟨port, readPort, dimension, readDimension, timeout, readTimeout, ?_⟩
    cases environment "REDBOX_HOST" <;> cases environment "REDBOX_DB" <;> cases port <;>
      cases dimension <;> cases timeout <;> rfl

theorem Workload.override_eq_ok {workload result : Workload} {environment : Environment} :
    workload.override environment = (result, .ok ()) ↔
      ∃ dimension vectors queries,
        environment.natural? "REDBOX_BENCH_DIM" UInt32.size = .ok dimension ∧
        environment.natural? "REDBOX_BENCH_VECTORS" UInt64.size = .ok vectors ∧
        environment.natural? "REDBOX_BENCH_QUERIES" UInt64.size = .ok queries ∧
        result = {
          database := (environment "REDBOX_BENCH_DB").getD workload.database
          dimension := dimension.elim workload.dimension UInt32.ofNat
          vectors := vectors.getD workload.vectors
          queries := queries.getD workload.queries } := by
  unfold override overrides
  simp only [Override.applyAll_text, Override.applyAll_natural_eq_ok, Override.applyAll_nil,
    Prod.mk.injEq, and_true]
  constructor
  · rintro ⟨dimension, readDimension, vectors, readVectors, queries, readQueries, rfl⟩
    refine ⟨dimension, vectors, queries, readDimension, readVectors, readQueries, ?_⟩
    cases environment "REDBOX_BENCH_DB" <;> cases dimension <;> cases vectors <;> cases queries <;> rfl
  · rintro ⟨dimension, vectors, queries, readDimension, readVectors, readQueries, rfl⟩
    refine ⟨dimension, readDimension, vectors, readVectors, queries, readQueries, ?_⟩
    cases environment "REDBOX_BENCH_DB" <;> cases dimension <;> cases vectors <;> cases queries <;> rfl

/-- Of the environment, loading settings looks at the name of a file and at the overrides. -/
def Settings.consulted : List String := "REDBOX_CONFIG" :: overrides.map Override.name

theorem Settings.load_congr {first second : Environment}
    (agree : Environment.AgreeOn consulted first second) (surroundings : Surroundings) :
    load first surroundings = load second surroundings := by
  obtain ⟨config, agree⟩ := Environment.AgreeOn.of_cons agree
  have same : base first surroundings = base second surroundings := by
    unfold base
    rw [config]
  unfold load
  rw [same]
  cases base second surroundings with
  | error fault => rfl
  | ok settings =>
    dsimp only
    rw [override, override, Override.applyAll_congr agree]

end VectorLink
