import VectorLink.Proofs.Number.Unsigned
import VectorLink.Settings.Basic
import VectorLink.Settings.Workload

/-! How far overriding comes.

Each variable overrides one member. Overriding goes through the variables in their order and stops at
the first whose text is of no use to its member: the members before it follow their variables, it and
all behind it are kept. Two laws carry this. What an override sets is what its text says, and to set
what is there already changes nothing. No other member is touched in either case.
-/

set_option autoImplicit false

namespace VectorLink

open Document (Kind Scalar)

variable {σ : Type}

inductive Tells : Kind → String → Scalar → Prop where
  | text (text : String) : Tells .text text (.text text)
  | natural {bound : Nat} {text : String} {value : Nat} : Numeral.Denotes bound text value →
      Tells (.natural bound) text (.natural value)

structure Member (σ : Type) where
  name : String
  kind : Kind
  held : σ → Scalar

def Environment.Suits (environment : Environment) (member : Member σ) : Prop :=
  ∀ text, environment member.name = some text → ∃ value, Tells member.kind text value

/-- A member is what its variable says if that is set, and what it was if not. -/
def Member.Follows (member : Member σ) (environment : Environment) (before after : σ) : Prop :=
  match environment member.name with
  | none => member.held after = member.held before
  | some text => Tells member.kind text (member.held after)

/-- What comes of overriding members in their order. -/
inductive Overridden (environment : Environment) (members : List (Member σ)) (before : σ) :
    σ × Except SettingsFault Unit → Prop where
  | throughout {after : σ} : (∀ member ∈ members, environment.Suits member) →
      (∀ member ∈ members, member.Follows environment before after) →
      Overridden environment members before (after, .ok ())
  /-- The first variable of no use is named together with its text. -/
  | stopped {passed rest : List (Member σ)} {member : Member σ} {text : String}
      {cause : NumeralFault} {after : σ} : members = passed ++ member :: rest →
      (∀ earlier ∈ passed, environment.Suits earlier) → environment member.name = some text →
      (∀ value, ¬Tells member.kind text value) →
      (∀ earlier ∈ passed, earlier.Follows environment before after) →
      (∀ later ∈ member :: rest, later.held after = later.held before) →
      Overridden environment members before (after, .error (.invalid member.name text cause))

/-! ### Another member in front -/

theorem Member.Follows.of_held {environment : Environment} {member : Member σ}
    {before middle after : σ} (same : member.held middle = member.held before)
    (follows : member.Follows environment middle after) :
    member.Follows environment before after := by
  unfold Follows at follows ⊢
  rwa [same] at follows

theorem Overridden.cons {environment : Environment} {member : Member σ} {members : List (Member σ)}
    {before middle : σ} {result : σ × Except SettingsFault Unit}
    (overridden : Overridden environment members middle result)
    (suits : environment.Suits member) (follows : member.Follows environment before result.1)
    (kept : ∀ other ∈ members, other.held middle = other.held before) :
    Overridden environment (member :: members) before result := by
  cases overridden with
  | throughout suit follow =>
    refine .throughout (List.forall_mem_cons.mpr ⟨suits, suit⟩)
      (List.forall_mem_cons.mpr ⟨follows, fun other inside => ?_⟩)
    exact (follow other inside).of_held (kept other inside)
  | @stopped passed rest failed text cause after split suit set refused follow stay =>
    subst split
    obtain ⟨keptPassed, keptRest⟩ := List.forall_mem_append.mp kept
    refine .stopped List.cons_append.symm (List.forall_mem_cons.mpr ⟨suits, suit⟩) set refused
      (List.forall_mem_cons.mpr ⟨follows, fun other inside => ?_⟩) fun other inside => ?_
    · exact (follow other inside).of_held (keptPassed other inside)
    · exact (stay other inside).trans (keptRest other inside)

namespace Override

/-! ### Laws of one override -/

structure Sets (override : Override σ) (member : Member σ) : Prop where
  name : override.name = member.name
  tells : ∀ text before after, override.apply text before = .ok after →
    Tells member.kind text (member.held after)
  refuses : ∀ text before cause, override.apply text before = .error cause →
    ∀ value, ¬Tells member.kind text value
  again : ∀ text settings, Tells member.kind text (member.held settings) →
    override.apply text settings = .ok settings

def Keeps (override : Override σ) (member : Member σ) : Prop :=
  ∀ text before after, override.apply text before = .ok after →
    member.held after = member.held before

theorem sets_text {name : String} {set : String → σ → σ} {held : σ → String}
    (held_set : ∀ text settings, held (set text settings) = text)
    (set_held : ∀ settings, set (held settings) settings = settings) :
    (text name set).Sets ⟨name, .text, fun settings => .text (held settings)⟩ where
  name := rfl
  tells text before after applied := by
    cases applied
    dsimp only
    rw [held_set]
    exact .text text
  refuses := nofun
  again text settings tells := by
    cases tells
    exact congrArg _ (set_held settings)

theorem natural_apply_eq_ok {name text : String} {bound : Nat} {set : Nat → σ → σ}
    {before after : σ} :
    (natural name bound set).apply text before = .ok after ↔
      ∃ value, Numeral.Denotes bound text value ∧ set value before = after := by
  simp only [← Numeral.read_eq_ok]
  cases read : Numeral.read bound text <;> simp [natural, read, Except.map]

theorem sets_natural {name : String} {bound : Nat} {set : Nat → σ → σ} {held : σ → Nat}
    (held_set : ∀ value settings, value < bound → held (set value settings) = value)
    (set_held : ∀ settings, set (held settings) settings = settings) :
    (natural name bound set).Sets ⟨name, .natural bound, fun settings => .natural (held settings)⟩
    where
  name := rfl
  tells text before after applied := by
    obtain ⟨value, denotes, rfl⟩ := natural_apply_eq_ok.mp applied
    have ⟨_, _, _, _, _, small⟩ := denotes
    dsimp only
    rw [held_set value before small]
    exact .natural denotes
  refuses text before cause failed value tells := by
    cases tells with
    | natural denotes => cases failed.symm.trans (natural_apply_eq_ok.mpr ⟨_, denotes, rfl⟩)
  again text settings tells := by
    cases tells with
    | natural denotes => exact natural_apply_eq_ok.mpr ⟨_, denotes, set_held settings⟩

theorem keeps_text {name : String} {set : String → σ → σ} {member : Member σ}
    (same : ∀ text settings, member.held (set text settings) = member.held settings) :
    (text name set).Keeps member := by
  intro text before after applied
  cases applied
  exact same text before

theorem keeps_natural {name : String} {bound : Nat} {set : Nat → σ → σ} {member : Member σ}
    (same : ∀ value settings, member.held (set value settings) = member.held settings) :
    (natural name bound set).Keeps member := by
  intro text before after applied
  obtain ⟨value, -, rfl⟩ := natural_apply_eq_ok.mp applied
  exact same value before

/-! ### Laws of all overrides -/

/-- Each override sets its own member and keeps the others. -/
inductive Drive : List (Override σ) → List (Member σ) → Prop where
  | nil : Drive [] []
  | cons {override : Override σ} {member : Member σ} {overrides : List (Override σ)}
      {members : List (Member σ)} : override.Sets member →
      (∀ other ∈ members, override.Keeps other) → (∀ other ∈ overrides, other.Keeps member) →
      Drive overrides members → Drive (override :: overrides) (member :: members)

variable {environment : Environment} {overrides : List (Override σ)} {members : List (Member σ)}

theorem applyAll_unset {override : Override σ} (unset : environment override.name = none)
    (overrides : List (Override σ)) (settings : σ) :
    applyAll environment (override :: overrides) settings =
      applyAll environment overrides settings := by
  rw [applyAll, unset]

theorem applyAll_of_ok {override : Override σ} {text : String} {settings after : σ}
    (set : environment override.name = some text) (applied : override.apply text settings = .ok after)
    (overrides : List (Override σ)) :
    applyAll environment (override :: overrides) settings =
      applyAll environment overrides after := by
  rw [applyAll, set]
  dsimp only
  rw [applied]

theorem applyAll_of_error {override : Override σ} {text : String} {settings : σ}
    {cause : NumeralFault} (set : environment override.name = some text)
    (failed : override.apply text settings = .error cause) (overrides : List (Override σ)) :
    applyAll environment (override :: overrides) settings =
      (settings, .error (.invalid override.name text cause)) := by
  rw [applyAll, set]
  dsimp only
  rw [failed]

theorem applyAll_keeps {member : Member σ} (keep : ∀ override ∈ overrides, override.Keeps member)
    (environment : Environment) (settings : σ) :
    member.held (applyAll environment overrides settings).1 = member.held settings := by
  induction overrides generalizing settings with
  | nil => rfl
  | cons override rest ih =>
    obtain ⟨keeps, keep⟩ := List.forall_mem_cons.mp keep
    cases set : environment override.name with
    | none =>
      rw [applyAll_unset set]
      exact ih keep settings
    | some text =>
      cases applied : override.apply text settings with
      | error cause => rw [applyAll_of_error set applied]
      | ok after =>
        rw [applyAll_of_ok set applied, ih keep after]
        exact keeps text settings after applied

theorem Drive.overridden (drive : Drive overrides members) (environment : Environment)
    (settings : σ) :
    Overridden environment members settings (applyAll environment overrides settings) := by
  induction drive generalizing settings with
  | nil => exact .throughout (List.forall_mem_nil _) (List.forall_mem_nil _)
  | @cons override member overrides members sets keeps kept _ ih =>
    cases set : environment override.name with
    | none =>
      -- nothing sets the member, since no later override touches it either
      rw [sets.name] at set
      have still := applyAll_keeps kept environment settings
      rw [applyAll_unset (sets.name ▸ set)]
      refine (ih settings).cons ?_ ?_ fun _ _ => rfl
      · intro text given
        cases set.symm.trans given
      · unfold Member.Follows
        rw [set]
        exact still
    | some text =>
      cases applied : override.apply text settings with
      | error cause =>
        rw [applyAll_of_error set applied, sets.name]
        rw [sets.name] at set
        exact .stopped (List.nil_append _).symm (List.forall_mem_nil _) set
          (sets.refuses text settings cause applied) (List.forall_mem_nil _) fun _ _ => rfl
      | ok middle =>
        have tells := sets.tells text settings middle applied
        have still := applyAll_keeps kept environment middle
        rw [applyAll_of_ok set applied]
        rw [sets.name] at set
        refine (ih middle).cons ?_ ?_ fun other inside => keeps other inside text _ _ applied
        · intro other given
          cases set.symm.trans given
          exact ⟨_, tells⟩
        · unfold Member.Follows
          rw [set]
          dsimp only
          rw [still]
          exact tells

theorem Drive.again (drive : Drive overrides members) (environment : Environment) (settings : σ) :
    applyAll environment overrides (applyAll environment overrides settings).1 =
      applyAll environment overrides settings := by
  induction drive generalizing settings with
  | nil => rfl
  | @cons override member overrides members sets keeps kept _ ih =>
    cases set : environment override.name with
    | none =>
      rw [applyAll_unset set, applyAll_unset set]
      exact ih settings
    | some text =>
      cases applied : override.apply text settings with
      | error cause => rw [applyAll_of_error set applied, applyAll_of_error set applied]
      | ok middle =>
        have tells := sets.tells text settings middle applied
        rw [applyAll_of_ok set applied]
        -- what was overridden first is not touched later, so its text finds itself there
        rw [← applyAll_keeps kept environment middle] at tells
        rw [applyAll_of_ok set (sets.again text _ tells)]
        exact ih middle

end Override

/-! ### Two environments -/

def Environment.under (lower upper : Environment) : Environment :=
  fun name => (upper name).or (lower name)

theorem Overridden.of_suits {environment : Environment} {members : List (Member σ)} {before : σ}
    {result : σ × Except SettingsFault Unit}
    (overridden : Overridden environment members before result)
    (suit : ∀ member ∈ members, environment.Suits member) :
    result = (result.1, .ok ()) ∧
      ∀ member ∈ members, member.Follows environment before result.1 := by
  cases overridden with
  | throughout _ follow => exact ⟨rfl, follow⟩
  | @stopped passed rest member text cause after split _ set refused =>
    have inside : member ∈ members := split ▸ List.mem_append_right passed (.head rest)
    obtain ⟨value, tells⟩ := suit member inside text set
    exact absurd tells (refused value)

theorem Overridden.suits_of_ok {environment : Environment} {members : List (Member σ)} {before : σ}
    {result : σ × Except SettingsFault Unit}
    (overridden : Overridden environment members before result) (ends : result.2 = .ok ()) :
    ∀ member ∈ members, environment.Suits member := by
  cases overridden with
  | throughout suit _ => exact suit
  | stopped => cases ends

theorem Member.Follows.under {lower upper : Environment} {member : Member σ}
    {before middle after : σ} (first : member.Follows lower before middle)
    (second : member.Follows upper middle after) :
    member.Follows (lower.under upper) before after := by
  unfold Follows at first second ⊢
  unfold Environment.under
  cases set : upper member.name with
  | some text =>
    rw [set] at second
    exact second
  | none =>
    rw [set] at second
    rwa [Option.none_or, second]

/-- How overriding acts on settings that are made of some members. -/
structure OverridesInOrder (members : List (Member σ))
    (override : σ → Environment → σ × Except SettingsFault Unit) : Prop where
  /-- There is nothing to the settings beyond these members. -/
  determined : ∀ one two, (∀ member ∈ members, member.held one = member.held two) → one = two
  overridden : ∀ settings environment,
    Overridden environment members settings (override settings environment)
  again : ∀ settings environment,
    override (override settings environment).1 environment = override settings environment
  /-- Of two environments in turn, each member follows the later one wherever that says something. -/
  later_wins : ∀ settings earlier later, (∀ member ∈ members, earlier.Suits member) →
    (∀ member ∈ members, later.Suits member) →
    ∃ after, override (override settings earlier).1 later = (after, .ok ()) ∧
      ∀ member ∈ members, member.Follows (earlier.under later) settings after

theorem Override.Drive.inOrder {overrides : List (Override σ)} {members : List (Member σ)}
    (drive : Drive overrides members)
    (determined : ∀ one two, (∀ member ∈ members, member.held one = member.held two) → one = two) :
    OverridesInOrder members fun settings environment => applyAll environment overrides settings where
  determined := determined
  overridden settings environment := drive.overridden environment settings
  again settings environment := drive.again environment settings
  later_wins settings earlier later suit too := by
    obtain ⟨-, first⟩ := (drive.overridden earlier settings).of_suits suit
    obtain ⟨ends, second⟩ := (drive.overridden later _).of_suits too
    exact ⟨_, ends, fun member inside => (first member inside).under (second member inside)⟩

/-! ### Settings and workloads -/

open Override

def Settings.members : List (Member Settings) :=
  [⟨"REDBOX_HOST", .text, fun settings => .text settings.host⟩,
    ⟨"REDBOX_PORT", .natural UInt16.size, fun settings => .natural settings.port.toNat⟩,
    ⟨"REDBOX_DB", .text, fun settings => .text settings.database⟩,
    ⟨"REDBOX_DIM", .natural UInt32.size, fun settings => .natural settings.dimension.toNat⟩,
    ⟨"REDBOX_TIMEOUT_SECS", .natural UInt64.size,
      fun settings => .natural settings.timeoutSeconds.toNat⟩]

theorem Settings.drive : Drive overrides members := by
  unfold overrides members
  refine .cons (sets_text (fun _ _ => rfl) fun _ => rfl) ?_ ?_
    (.cons (sets_natural (fun _ _ small => UInt16.toNat_ofNat_of_lt' small) ?_) ?_ ?_
    (.cons (sets_text (fun _ _ => rfl) fun _ => rfl) ?_ ?_
    (.cons (sets_natural (fun _ _ small => UInt32.toNat_ofNat_of_lt' small) ?_) ?_ ?_
    (.cons (sets_natural (fun _ _ small => UInt64.toNat_ofNat_of_lt' small) ?_) ?_ ?_ .nil))))
  all_goals simp [keeps_text, keeps_natural]

theorem Settings.eq_of_held {one two : Settings}
    (same : ∀ member ∈ members, member.held one = member.held two) : one = two := by
  simp only [members, List.forall_mem_cons, List.not_mem_nil, false_imp_iff, implies_true,
    and_true, Scalar.text.injEq, Scalar.natural.injEq, UInt16.toNat_inj, UInt32.toNat_inj,
    UInt64.toNat_inj] at same
  obtain ⟨host, port, database, dimension, timeout⟩ := same
  cases one
  cases two
  simp only at host port database dimension timeout
  subst host port database dimension timeout
  rfl

def Workload.members : List (Member Workload) :=
  [⟨"REDBOX_BENCH_DB", .text, fun workload => .text workload.database⟩,
    ⟨"REDBOX_BENCH_DIM", .natural UInt32.size, fun workload => .natural workload.dimension.toNat⟩,
    ⟨"REDBOX_BENCH_VECTORS", .natural UInt64.size, fun workload => .natural workload.vectors⟩,
    ⟨"REDBOX_BENCH_QUERIES", .natural UInt64.size, fun workload => .natural workload.queries⟩]

theorem Workload.drive : Drive overrides members := by
  unfold overrides members
  refine .cons (sets_text (fun _ _ => rfl) fun _ => rfl) ?_ ?_
    (.cons (sets_natural (fun _ _ small => UInt32.toNat_ofNat_of_lt' small) ?_) ?_ ?_
    (.cons (sets_natural (fun _ _ _ => rfl) fun _ => rfl) ?_ ?_
    (.cons (sets_natural (fun _ _ _ => rfl) fun _ => rfl) ?_ ?_ .nil)))
  all_goals simp [keeps_text, keeps_natural]

theorem Workload.eq_of_held {one two : Workload}
    (same : ∀ member ∈ members, member.held one = member.held two) : one = two := by
  simp only [members, List.forall_mem_cons, List.not_mem_nil, false_imp_iff, implies_true,
    and_true, Scalar.text.injEq, Scalar.natural.injEq, UInt32.toNat_inj] at same
  obtain ⟨database, dimension, vectors, queries⟩ := same
  cases one
  cases two
  simp only at database dimension vectors queries
  subst database dimension vectors queries
  rfl

/-- Settings and workloads follow their variables in order, up to the first that says nothing to its
member. That one is named together with its text, and its member and all behind it are kept. To go
over the same variables again changes nothing, and of two environments in turn the later one wins. -/
theorem overrides_in_order :
    OverridesInOrder Settings.members Settings.override ∧
      OverridesInOrder Workload.members Workload.override :=
  ⟨Settings.drive.inOrder fun _ _ => Settings.eq_of_held,
    Workload.drive.inOrder fun _ _ => Workload.eq_of_held⟩

namespace Settings

def faulty : Environment := fun name =>
  if name = "REDBOX_HOST" then some "db.local"
  else if name = "REDBOX_PORT" then some "+65536"
  else if name = "REDBOX_DIM" then some "++3"
  else if name = "REDBOX_DB" then some "vectors"
  else none

def upper : Environment := fun name =>
  if name = "REDBOX_PORT" then some "+65535" else if name = "REDBOX_DB" then some "" else none

def lower : Environment := fun name =>
  if name = "REDBOX_PORT" then some "007" else if name = "REDBOX_DIM" then some "4294967295" else none

theorem overrides_in_order_faulty :
    Overridden faulty members standard
        ({ standard with host := "db.local" }, .error (.invalid "REDBOX_PORT" "+65536" .tooLarge)) ∧
      (∀ member ∈ members, lower.Suits member) ∧ (∀ member ∈ members, upper.Suits member) ∧
      ∃ after, after = { standard with port := 65535, database := "", dimension := 4294967295 } ∧
        (standard.override lower).1.override upper = (after, .ok ()) ∧
        ∀ member ∈ members, member.Follows (lower.under upper) standard after := by
  obtain ⟨⟨-, overridden, -, later_wins⟩, -⟩ := overrides_in_order
  have suit : ∀ member ∈ members, lower.Suits member :=
    (overridden standard lower).suits_of_ok (by rfl)
  have too : ∀ member ∈ members, upper.Suits member :=
    (overridden standard upper).suits_of_ok (by rfl)
  obtain ⟨after, ends, follow⟩ := later_wins standard lower upper suit too
  exact ⟨overridden standard faulty, suit, too, after, (congrArg Prod.fst ends).symm, ends, follow⟩

end Settings

end VectorLink
