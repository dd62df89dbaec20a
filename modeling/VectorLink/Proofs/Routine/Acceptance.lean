import Mathlib.Data.List.Nodup
import VectorLink.Proofs.Routine.Session
import VectorLink.Proofs.Wire.Reply
import VectorLink.Routine.Acceptance

/-! What the acceptance run can report.

The run does the same things whatever the server answers, and its report is computed from a dozen
answers. So everything about reports is a question about those answers: which checks can fail at
all, which of them go together, and what it takes to pass.
-/

set_option autoImplicit false

namespace VectorLink

/-! ### Counting checks -/

namespace Checklist

def Passes (list : Checklist) (name : String) : Prop :=
  ∃ check ∈ list.checks, check.name = name ∧ check.passed

theorem checks_foldl (list : Checklist) (checks : List Check) :
    (checks.foldl add list).checks = list.checks ++ checks := by
  induction checks generalizing list with
  | nil => simp
  | cons check checks ih =>
    rw [List.foldl_cons, ih]
    simp [add]

theorem checks_foldl_empty (checks : List Check) : (checks.foldl add empty).checks = checks := by
  rw [checks_foldl, empty, List.nil_append]

theorem passed_foldl (list : Checklist) (checks : List Check) :
    (checks.foldl add list).passed = list.passed + checks.countP Check.passed := by
  induction checks generalizing list with
  | nil => simp
  | cons check checks ih =>
    rw [List.foldl_cons, ih, List.countP_cons]
    simp only [add]
    omega

theorem failed_foldl (list : Checklist) (checks : List Check) :
    (checks.foldl add list).failed = list.failed + checks.countP (!·.passed) := by
  induction checks generalizing list with
  | nil => simp
  | cons check checks ih =>
    rw [List.foldl_cons, ih, List.countP_cons]
    cases passed : check.passed <;> (simp [add, passed]; try omega)

structure Counted (list : Checklist) : Prop where
  passed : list.passed = list.checks.countP Check.passed
  failed : list.failed = list.checks.countP (!·.passed)

theorem counted_foldl (checks : List Check) : (checks.foldl add empty).Counted := by
  constructor
  · rw [passed_foldl, checks_foldl_empty, empty, Nat.zero_add]
  · rw [failed_foldl, checks_foldl_empty, empty, Nat.zero_add]

theorem Counted.isSuccess_iff {list : Checklist} (counted : list.Counted) :
    list.isSuccess ↔ ∀ check ∈ list.checks, check.passed := by
  simp [isSuccess, counted.failed, List.countP_eq_zero]

theorem passes_iff {list : Checklist} (distinct : (list.checks.map Check.name).Nodup)
    {check : Check} (member : check ∈ list.checks) : list.Passes check.name ↔ check.passed := by
  constructor
  · rintro ⟨other, among, same, passed⟩
    rwa [← List.inj_on_of_nodup_map distinct among member same]
  · exact fun passed => ⟨check, member, rfl, passed⟩

end Checklist

theorem Check.passed_equal (name : String) (actual expected : Checked) :
    (Check.equal name actual expected).passed ↔ actual = expected := by
  unfold equal
  split <;> simp [*]

theorem Check.name_equal (name : String) (actual expected : Checked) :
    (Check.equal name actual expected).name = name := by
  unfold equal
  split <;> rfl

namespace Acceptance

/-! ### The answers that are judged -/

structure Proximity where
  nearX : Int32
  nearY : Int32
  deriving Inhabited

structure Lifecycle where
  stored : Int32
  updated : Bool
  revised : Int32
  deleted : Bool
  fallback : Int32
  assigned : UInt64
  automatic : Int32
  ranked : List Int32
  deriving Inhabited

structure Findings extends Proximity, Lifecycle where
  replaced : Bool
  survived : Int32
  deriving Inhabited

def opened (address : Address) (database : String) (dimension : UInt32) : Done :=
  ⟨.connect address ⟨database, dimension⟩ Link.standardLimit, ()⟩

def Proximity.transcript (address : Address) (findings : Proximity) : List Done :=
  [opened address "verify_math" 3,
    ⟨.ask (.insert 10 [one, zero, zero]), ()⟩,
    ⟨.ask (.insert 20 [zero, one, zero]), ()⟩,
    ⟨.ask (.insert 30 [zero, zero, one]), ()⟩,
    ⟨.ask (.search [nineTenths, tenth, zero]), findings.nearX⟩,
    ⟨.ask (.search [tenth, nineTenths, zero]), findings.nearY⟩,
    ⟨.hangUp, ()⟩]

def Lifecycle.transcript (address : Address) (suffix target : UInt32) (findings : Lifecycle) :
    List Done :=
  [opened address ("verify_crud_" ++ suffixText suffix) 4,
    ⟨.ask (.insert target (constant 4 one)), ()⟩,
    ⟨.ask (.search (constant 4 one)), findings.stored⟩,
    ⟨.ask (.update target (constant 4 two)), findings.updated⟩,
    ⟨.ask (.search (constant 4 two)), findings.revised⟩,
    ⟨.ask (.delete target), findings.deleted⟩,
    ⟨.ask (.insert (target + 1) (constant 4 five)), ()⟩,
    ⟨.ask (.search (constant 4 two)), findings.fallback⟩,
    ⟨.ask (.insertAuto (constant 4 minusThree)), findings.assigned⟩,
    ⟨.ask (.search (constant 4 minusThree)), findings.automatic⟩,
    ⟨.ask (.searchMany (constant 4 zero) 10), findings.ranked⟩,
    ⟨.hangUp, ()⟩]

def isolationTranscript (address : Address) (replaced : Bool) : List Done :=
  [opened address "verify_iso_tiny" 2,
    ⟨.ask (.insert 1 (constant 2 one)), ()⟩,
    ⟨.hangUp, ()⟩,
    opened address "verify_iso_huge" 10,
    ⟨.ask (.update 99999 (constant 10 zero)), replaced⟩,
    ⟨.hangUp, ()⟩]

def persistenceTranscript (address : Address) (survived : Int32) : List Done :=
  [opened address "verify_persist" 3,
    ⟨.ask (.insert 777 (constant 3 half)), ()⟩,
    ⟨.hangUp, ()⟩,
    ⟨.wait rest, ()⟩,
    opened address "verify_persist" 3,
    ⟨.ask (.search (constant 3 half)), survived⟩,
    ⟨.hangUp, ()⟩]

/-- All that is done in a run that has come to its end, with the answers. -/
def Findings.transcript (address : Address) (suffix target : UInt32) (findings : Findings) :
    List Done :=
  findings.toProximity.transcript address ++
    (findings.toLifecycle.transcript address suffix target ++
      (isolationTranscript address findings.replaced ++
        persistenceTranscript address findings.survived))

def plan (address : Address) (suffix target : UInt32) : Plan :=
  ((default : Findings).transcript address suffix target).map Done.deed

/-! ### The checks that are made of them -/

def Proximity.checks (findings : Proximity) : List Check :=
  [.equal "search proximity to X axis" (.integer findings.nearX.toInt)
      (.integer (10 : Int32).toInt),
    .equal "search proximity to Y axis" (.integer findings.nearY.toInt)
      (.integer (20 : Int32).toInt)]

def Lifecycle.gone (target : UInt32) (findings : Lifecycle) : Check :=
  ⟨"deleted id not found", findings.fallback != target.toInt32, s!"got {findings.fallback.toInt}"⟩

def Lifecycle.besides (target : UInt32) (findings : Lifecycle) : Check :=
  .equal "search falls back to distractor" (.integer findings.fallback.toInt)
    (.integer (target + 1).toInt32.toInt)

def Lifecycle.searchable (findings : Lifecycle) : Check :=
  .equal "auto insert is searchable" (.integer findings.automatic.toInt)
    (.integer findings.assigned.toInt64.toInt)

def Lifecycle.few (findings : Lifecycle) : Check :=
  ⟨"search_n respects requested count", findings.ranked.length ≤ 10,
    s!"got {findings.ranked.length} ids"⟩

def Lifecycle.checks (target : UInt32) (findings : Lifecycle) : List Check :=
  [.equal "insert and retrieve" (.integer findings.stored.toInt) (.integer target.toInt32.toInt),
    ⟨"update returned success", findings.updated, s!"id {target.toNat}"⟩,
    .equal "search finds updated vector" (.integer findings.revised.toInt)
      (.integer target.toInt32.toInt),
    ⟨"delete returned success", findings.deleted, s!"id {target.toNat}"⟩,
    findings.gone target, findings.besides target, findings.searchable, findings.few]

def blocked : Check := mismatch (.error (.dimensionMismatch 10 2))

def isolationChecks (replaced : Bool) : List Check :=
  [blocked,
    ⟨"strict update on missing id returns false", !replaced, s!"got {boolText replaced}"⟩]

def persistenceChecks (survived : Int32) : List Check :=
  [.equal "data survived reconnection" (.integer survived.toInt) (.integer (777 : Int32).toInt)]

def Findings.checks (target : UInt32) (findings : Findings) : List Check :=
  findings.toProximity.checks ++ (findings.toLifecycle.checks target ++
    (isolationChecks findings.replaced ++ persistenceChecks findings.survived))

/-! ### The run follows its plan -/

variable {address : Address} {suffix target : UInt32} {world : World}

abbrev Follows {α : Type} (plan : Plan) (routine : Routine Fault α) (world : World)
    (good : List Done → α → Prop) : Prop :=
  plan.Describes routine world good fun fault error => error = fault

theorem describes_record {α : Type} {list : Checklist} {check : Check} {plan : Plan}
    {next : Checklist → Routine Fault α} {good : List Done → α → Prop}
    (follows : Follows plan (next (list.add check)) (world.note check.note) good) :
    Follows plan (record list check >>= next) world good :=
  follows.silent rfl rfl

theorem describes_recordId {α : Type} {list : Checklist} {name : String} {found expected : Int32}
    {plan : Plan} {next : Checklist → Routine Fault α} {good : List Done → α → Prop}
    (follows : ∀ world : World, Follows plan
      (next (list.add (.equal name (.integer found.toInt) (.integer expected.toInt)))) world good) :
    Follows plan (recordId list name found expected >>= next) world good :=
  describes_record (follows _)

theorem proximity_describes (address : Address) (list : Checklist) (world : World) :
    Follows (((default : Proximity).transcript address).map Done.deed) (proximity address list)
      world fun done result => ∃ findings : Proximity, done = findings.transcript address ∧
        result = findings.checks.foldl .add list := by
  unfold proximity
  refine .note (.cons fun _ _ _ => .cons fun _ _ _ => .cons fun _ _ _ => .cons fun _ _ _ => ?_)
  refine .cons fun nearX _ _ => describes_recordId fun _ => ?_
  refine .cons fun nearY _ _ => describes_recordId fun _ => ?_
  refine .cons fun _ _ _ => Plan.describes_pure ?_
  exact ⟨⟨nearX, nearY⟩, rfl, rfl⟩

theorem lifecycle_describes (address : Address) (suffix target : UInt32) (list : Checklist)
    (world : World) :
    Follows (((default : Lifecycle).transcript address suffix target).map Done.deed)
      (lifecycle address suffix target list) world
      fun done result => ∃ findings : Lifecycle,
        done = findings.transcript address suffix target ∧
          findings.ranked.length ≤ 10 ∧ result = (findings.checks target).foldl .add list := by
  unfold lifecycle
  refine .note (.cons fun _ _ _ => .cons fun _ _ _ => ?_)
  refine .cons fun stored _ _ => describes_recordId fun _ => ?_
  refine .cons fun updated _ _ => describes_record ?_
  refine .cons fun revised _ _ => describes_recordId fun _ => ?_
  refine .cons fun deleted _ _ => describes_record ?_
  refine .cons fun _ _ _ => .cons fun fallback _ _ => describes_record ?_
  refine describes_recordId fun _ => ?_
  refine .cons fun assigned _ _ => .cons fun automatic _ _ => describes_record ?_
  refine .cons fun ranked after run => describes_record ?_
  refine .cons fun _ _ _ => Plan.describes_pure ?_
  refine ⟨⟨stored, updated, revised, deleted, fallback, assigned, automatic, ranked⟩, rfl, ?_, rfl⟩
  exact Routine.searchMany_few run

theorem isolation_describes (address : Address) (list : Checklist) (world : World) :
    Follows ((isolationTranscript address default).map Done.deed) (isolation address list) world
      fun done result => ∃ replaced : Bool, done = isolationTranscript address replaced ∧
        result = (isolationChecks replaced).foldl .add list := by
  unfold isolation
  refine .note (.cons fun _ _ _ => .cons fun _ _ _ => .cons fun _ _ _ => ?_)
  refine .cons fun _ opened run => ?_
  -- the search is refused on the spot, so it is no deed
  have refused : attempt (Routine.search (constant 2 one)) opened =
      (.ok (.error (.dimensionMismatch 10 2)), opened) := by
    unfold attempt
    rw [Routine.search_mismatch run (by decide)]
    rfl
  refine .silent refused rfl (describes_record ?_)
  refine .cons fun replaced _ _ => describes_record ?_
  refine .cons fun _ _ _ => Plan.describes_pure ?_
  exact ⟨replaced, rfl, rfl⟩

theorem persistence_describes (address : Address) (list : Checklist) (world : World) :
    Follows ((persistenceTranscript address default).map Done.deed) (persistence address list) world
      fun done result => ∃ survived : Int32, done = persistenceTranscript address survived ∧
        result = (persistenceChecks survived).foldl .add list := by
  unfold persistence
  refine .note (.cons fun _ _ _ => .cons fun _ _ _ => .cons fun _ _ _ => .cons fun _ _ _ => ?_)
  refine .cons fun _ _ _ => .cons fun survived _ _ => describes_recordId fun _ => ?_
  refine .cons fun _ _ _ => Plan.describes_pure ?_
  exact ⟨survived, rfl, rfl⟩

/-- The run does what its plan says, and its report judges what it was answered. -/
theorem run_describes (address : Address) (suffix target : UInt32) (world : World) :
    Follows (plan address suffix target) (run address suffix target) world
      fun done report => ∃ findings : Findings,
        done = findings.transcript address suffix target ∧ findings.ranked.length ≤ 10 ∧
          report = (findings.checks target).foldl .add .empty := by
  unfold run plan Findings.transcript
  simp only [List.map_append]
  refine (proximity_describes address .empty world).bind _ ?_
  rintro _ _ _ - ⟨proximity, rfl, rfl⟩
  refine (lifecycle_describes address suffix target _ _).bind _ ?_
  rintro _ _ _ - ⟨lifecycle, rfl, few, rfl⟩
  refine (isolation_describes address _ _).bind _ ?_
  rintro _ _ _ - ⟨replaced, rfl, rfl⟩
  refine (persistence_describes address _ _).mono ?_
  rintro _ _ ⟨survived, rfl, rfl⟩
  refine ⟨⟨proximity, lifecycle, replaced, survived⟩, rfl, few, ?_⟩
  simp only [Findings.checks, List.foldl_append]

/-! ### What a report can say -/

def names : List String :=
  ["search proximity to X axis", "search proximity to Y axis", "insert and retrieve",
    "update returned success", "search finds updated vector", "delete returned success",
    "deleted id not found", "search falls back to distractor", "auto insert is searchable",
    "search_n respects requested count", "dimension mismatch blocked",
    "strict update on missing id returns false", "data survived reconnection"]

theorem Findings.map_name_checks (findings : Findings) (target : UInt32) :
    (findings.checks target).map Check.name = names := by
  simp [checks, Proximity.checks, Lifecycle.checks, Lifecycle.gone, Lifecycle.besides,
    Lifecycle.searchable, Lifecycle.few, isolationChecks, blocked, mismatch, persistenceChecks,
    Check.name_equal, names]

theorem Findings.passes_iff {findings : Findings} {report : Checklist} {name : String}
    (judged : report.checks = findings.checks target) (check : Check) (named : check.name = name)
    (member : check ∈ findings.checks target) : report.Passes name ↔ check.passed := by
  subst named
  refine Checklist.passes_iff ?_ (judged ▸ member)
  rw [judged, findings.map_name_checks]
  decide

theorem toInt32_ne_succ (id : UInt32) : (id + 1).toInt32 ≠ id.toInt32 := by
  intro same
  have same := congrArg Int32.toUInt32 same
  rw [UInt32.toUInt32_toInt32, UInt32.toUInt32_toInt32] at same
  simp at same

/-- What every report says, whatever it was that the server answered. -/
structure Sound (report : Checklist) : Prop where
  names : report.checks.map Check.name = names
  counted : report.Counted
  isSuccess_iff : report.isSuccess ↔ ∀ check ∈ report.checks, check.passed
  few : report.Passes "search_n respects requested count"
  blocked : report.Passes "dimension mismatch blocked"
  fallback : report.Passes "search falls back to distractor" → report.Passes "deleted id not found"

theorem sound_of_findings {findings : Findings} (few : findings.ranked.length ≤ 10) :
    Sound ((findings.checks target).foldl .add .empty) := by
  have judged := Checklist.checks_foldl_empty (findings.checks target)
  have counted := Checklist.counted_foldl (findings.checks target)
  generalize (findings.checks target).foldl Checklist.add .empty = report at judged counted
  constructor
  case names => rw [judged, findings.map_name_checks]
  case counted => exact counted
  case isSuccess_iff => exact counted.isSuccess_iff
  case few =>
    refine (Findings.passes_iff judged findings.few rfl ?_).mpr (decide_eq_true few)
    simp [Findings.checks, Lifecycle.checks]
  case blocked =>
    refine (Findings.passes_iff judged Acceptance.blocked rfl ?_).mpr rfl
    simp [Findings.checks, isolationChecks]
  case fallback =>
    have besides := Findings.passes_iff judged (findings.besides target)
      (Check.name_equal ..) (by simp [Findings.checks, Lifecycle.checks])
    have gone := Findings.passes_iff judged (findings.gone target) rfl
      (by simp [Findings.checks, Lifecycle.checks])
    refine fun passed => gone.mpr ?_
    have passed := besides.mp passed
    -- the id that is found is the one behind the deleted one, so it is another
    have found : findings.fallback = (target + 1).toInt32 := by
      have same := (Check.passed_equal ..).mp passed
      exact Int32.toInt_inj.mp (Checked.integer.inj same)
    show (findings.fallback != target.toInt32) = true
    rw [found]
    exact bne_iff_ne.mpr (toInt32_ne_succ target)

/-- How a run goes, on every network. -/
structure Conduct (address : Address) (suffix target : UInt32) (world : World) : Prop where
  reports : ∀ {report : Checklist} {last : World},
    run address suffix target world = (.ok report, last) → Sound report ∧
      ∃ (findings : Findings) (final : World),
        (plan address suffix target).carryOut world =
          (.ok (findings.transcript address suffix target), final) ∧
        final.links = last.links ∧ report.checks = findings.checks target
  /-- The first deed that fails ends the run with its fault, and nothing is done behind it. -/
  stops : ∀ {before rest : Plan} {deed : Deed} {done : List Done} {between after : World}
      {fault : Fault}, plan address suffix target = before ++ deed :: rest →
    before.carryOut world = (.ok done, between) → deed.carryOut between = (.error fault, after) →
    ∃ last : World, run address suffix target world = (.error fault, last) ∧
      last.links = after.links ∧ last.network = after.network
  /-- A run fails in no other way. -/
  stopped : ∀ {fault : Fault} {last : World},
    run address suffix target world = (.error fault, last) →
    ∃ (before rest : Plan) (deed : Deed) (done : List Done) (between after : World),
      plan address suffix target = before ++ deed :: rest ∧
      before.carryOut world = (.ok done, between) ∧ deed.carryOut between = (.error fault, after) ∧
      last.links = after.links ∧ last.network = after.network
  /-- A ranking that is announced to be too long breaks the protocol. -/
  violation : ∀ {before rest : Plan} {done : List Done} {between : World} {link : Link}
      {others : List Link} {announced : Nat},
    plan address suffix target = before ++ .ask (.searchMany (constant 4 zero) 10) :: rest →
    before.carryOut world = (.ok done, between) → between.links = link :: others →
    link.Announces (constant 4 zero) 10 announced → 10 < announced →
    ∃ last : World, run address suffix target world = (.error (.violation
      s!"search_n returned {announced} results, requested at most 10"), last)
  /-- The search for a vector of the wrong dimension leaves the world as it is. -/
  blocked : ∀ {earlier opened : World},
    connect address "verify_iso_huge" 10 earlier = (.ok (), opened) →
    Routine.search (constant 2 one) opened = (.error (.dimensionMismatch 10 2), opened)

theorem stops (address : Address) {suffix target : UInt32} {world : World} {before rest : Plan}
    {deed : Deed} {done : List Done} {between after : World} {fault : Fault}
    (split : plan address suffix target = before ++ deed :: rest)
    (carried : before.carryOut world = (.ok done, between))
    (fails : deed.carryOut between = (.error fault, after)) :
    ∃ last : World, run address suffix target world = (.error fault, last) ∧
      last.links = after.links ∧ last.network = after.network := by
  have failed :=
    Plan.carryOut_error_iff.mpr ⟨before, rest, deed, done, between, split, carried, fails⟩
  obtain ⟨_, last, ran, rfl, alike⟩ := (run_describes address suffix target world).error_of failed
  exact ⟨last, ran, (World.links_of_quiet alike).symm, (World.network_of_quiet alike).symm⟩

/-- Whatever the network does, a run reports thirteen checks on what it was answered or fails as the
first of its deeds that does. -/
theorem run_conduct (address : Address) (suffix target : UInt32) (world : World) :
    Conduct address suffix target world := by
  have describes := run_describes address suffix target world
  constructor
  case reports =>
    intro report last ran
    obtain ⟨_, final, carried, ⟨findings, rfl, few, rfl⟩, alike⟩ := describes.of_ok ran
    exact ⟨sound_of_findings few, findings, final, carried, World.links_of_quiet alike,
      Checklist.checks_foldl_empty _⟩
  case stops => exact stops address
  case stopped =>
    intro fault last ran
    obtain ⟨_, after, failed, rfl, alike⟩ := describes.of_error ran
    obtain ⟨before, rest, deed, done, between, split, carried, fails⟩ :=
      Plan.carryOut_error_iff.mp failed
    exact ⟨before, rest, deed, done, between, after, split, carried, fails,
      (World.links_of_quiet alike).symm, (World.network_of_quiet alike).symm⟩
  case violation =>
    intro before rest done between link others announced split carried top announces above
    obtain ⟨after, fails⟩ := Routine.searchMany_violation top announces above
    obtain ⟨last, ran, -⟩ := stops address split carried fails
    have text : s!"search_n returned {announced} results, requested at most {(10 : UInt32).toNat}" =
        s!"search_n returned {announced} results, requested at most 10" :=
      String.append_assoc ..
    exact ⟨last, text ▸ ran⟩
  case blocked =>
    intro earlier opened connects
    exact Routine.search_mismatch connects (by decide)

theorem Findings.transcript_injective {first second : Findings}
    (same : first.transcript address suffix target = second.transcript address suffix target) :
    first = second := by
  obtain ⟨⟨nearX, nearY⟩, ⟨stored, updated, revised, deleted, fallback, assigned, automatic, ranked⟩,
    replaced, survived⟩ := first
  obtain ⟨⟨_, _⟩, ⟨_, _, _, _, _, _, _, _⟩, _, _⟩ := second
  simp only [transcript, Proximity.transcript, Lifecycle.transcript, isolationTranscript,
    persistenceTranscript, List.cons_append, List.nil_append, List.cons.injEq, true_and,
    and_true] at same
  obtain ⟨⟨⟩, ⟨⟩, ⟨⟩, ⟨⟩, ⟨⟩, ⟨⟩, ⟨⟩, ⟨⟩, ⟨⟩, ⟨⟩, ⟨⟩, ⟨⟩⟩ := same
  rfl

/-- A run ends well and without a failed check exactly if all its deeds succeed and all that is
checked of the answers holds. -/
theorem run_isSuccess_iff (address : Address) (suffix target : UInt32) (world : World) :
    (∃ report last, run address suffix target world = (.ok report, last) ∧ report.isSuccess) ↔
      ∃ (findings : Findings) (last : World),
        (plan address suffix target).carryOut world =
          (.ok (findings.transcript address suffix target), last) ∧
        ∀ check ∈ findings.checks target, check.passed := by
  have describes := run_describes address suffix target world
  have judged (findings : Findings) :
      ((findings.checks target).foldl Checklist.add .empty).isSuccess ↔
        ∀ check ∈ findings.checks target, check.passed := by
    rw [(Checklist.counted_foldl _).isSuccess_iff, Checklist.checks_foldl_empty]
  constructor
  · rintro ⟨report, last, ran, success⟩
    obtain ⟨_, final, carried, ⟨findings, rfl, -, rfl⟩, -⟩ := describes.of_ok ran
    exact ⟨findings, final, carried, (judged findings).mp success⟩
  · rintro ⟨findings, final, carried, passed⟩
    obtain ⟨report, last, ran, ⟨other, same, -, rfl⟩, -⟩ := describes.ok_of carried
    obtain rfl := Findings.transcript_injective same
    exact ⟨_, last, ran, (judged findings).mpr passed⟩

def serving (assigned : UInt64) (found : Int32) (announced : Nat) : World :=
  let answering (replies : List UInt8) : Event Socket :=
    .answer (.ofReads [.answer (.data replies)])
  .ofNetwork [
    answering ([0x31, 0x31, 0x31, 0x31] ++ Reply.idBytes 10 ++ Reply.idBytes 20),
    answering ([0x31, 0x31] ++ Reply.idBytes 1000 ++ [0x31] ++ Reply.idBytes 1000 ++
      [0x31, 0x31] ++ Reply.idBytes 1001 ++
      LittleEndian.encode Reply.assignedLength assigned.toNat ++ Reply.idBytes found ++
      LittleEndian.encode Reply.countLength announced ++ Reply.idBytes 1001),
    answering [0x31, 0x31],
    answering [0x31, 0x30],
    answering [0x31, 0x31],
    answering ([0x31] ++ Reply.idBytes 777)]

theorem serving_conduct : ∃ (report : Checklist) (last : World),
    run .standard 0 1000 (serving 1002 1002 1) = (.ok report, last) ∧ Sound report ∧
      report.isSuccess := by
  have succeeds : (run .standard 0 1000 (serving 1002 1002 1)).1.toOption.any (·.isSuccess) := by
    decide +kernel
  rcases ran : run .standard 0 1000 (serving 1002 1002 1) with ⟨fault | report, last⟩
  · rw [ran] at succeeds
    cases succeeds
  · rw [ran] at succeeds
    exact ⟨report, last, rfl, ((run_conduct ..).reports ran).1, succeeds⟩

example : (run .standard 0 1000 (serving 1002 1002 11)).1 =
    .error (.violation "search_n returned 11 results, requested at most 10") := by
  decide +kernel

/-! ### Ids of two widths -/

/-- The id that was assigned is taken for a signed number before it is compared. So beside equal
ids those pass that differ by the range of an assigned id. -/
theorem Lifecycle.passed_searchable_iff (findings : Lifecycle) :
    findings.searchable.passed ↔
      (findings.assigned.toNat : Int) = findings.automatic.toInt ∨
        findings.automatic.toInt < 0 ∧
          (findings.assigned.toNat : Int) = findings.automatic.toInt + UInt64.size := by
  have wrapped : findings.assigned.toInt64.toInt =
      (findings.assigned.toNat : Int).bmod UInt64.size := BitVec.toInt_eq_toNat_bmod _
  have below := findings.automatic.toInt_lt
  have above := findings.automatic.le_toInt
  have size := findings.assigned.toNat_lt
  rw [searchable, Check.passed_equal, Checked.integer.injEq, wrapped, Int.bmod_def]
  simp only [UInt64.size]
  split <;> omega

/-- Of every run that returns a report: the check of the id that was assigned passes exactly if the
id that was found is the same number, or is negative and differs from it by the range of an assigned
id. -/
theorem searchable_passes_iff {report : Checklist} {last : World}
    (ran : run address suffix target world = (.ok report, last)) :
    ∃ (assigned : UInt64) (found : Int32) (before after : List Done) (final : World),
      (plan address suffix target).carryOut world =
        (.ok (before ++ ⟨.ask (.insertAuto (constant 4 minusThree)), assigned⟩ ::
          ⟨.ask (.search (constant 4 minusThree)), found⟩ :: after), final) ∧
      final.links = last.links ∧
      (report.Passes "auto insert is searchable" ↔
        (assigned.toNat : Int) = found.toInt ∨
          found.toInt < 0 ∧ (assigned.toNat : Int) = found.toInt + UInt64.size) := by
  obtain ⟨_, final, carried, ⟨findings, rfl, few, rfl⟩, alike⟩ :=
    (run_describes address suffix target world).of_ok ran
  have judged := Checklist.checks_foldl_empty (findings.checks target)
  -- the two deeds stand behind eight others of the second part
  have split : findings.transcript address suffix target =
      (findings.toProximity.transcript address ++
        (findings.toLifecycle.transcript address suffix target).take 8) ++
        ⟨.ask (.insertAuto (constant 4 minusThree)), findings.assigned⟩ ::
          ⟨.ask (.search (constant 4 minusThree)), findings.automatic⟩ ::
            ((findings.toLifecycle.transcript address suffix target).drop 10 ++
              (isolationTranscript address findings.replaced ++
                persistenceTranscript address findings.survived)) := by
    rw [List.append_assoc]
    rfl
  rw [split] at carried
  have links := World.links_of_quiet alike
  refine ⟨findings.assigned, findings.automatic, _, _, final, carried, links, ?_⟩
  rw [Findings.passes_iff judged findings.searchable (Check.name_equal ..)
    (by simp [Findings.checks, Lifecycle.checks]), findings.passed_searchable_iff]

theorem serving_searchable : ∃ (report : Checklist) (last : World),
    run .standard 0 1000 (serving 1002 1002 1) = (.ok report, last) ∧
      ∃ (assigned : UInt64) (found : Int32) (before after : List Done) (final : World),
        (plan .standard 0 1000).carryOut (serving 1002 1002 1) =
          (.ok (before ++ ⟨.ask (.insertAuto (constant 4 minusThree)), assigned⟩ ::
            ⟨.ask (.search (constant 4 minusThree)), found⟩ :: after), final) ∧
        final.links = last.links ∧
        (report.Passes "auto insert is searchable" ↔
          (assigned.toNat : Int) = found.toInt ∨
            found.toInt < 0 ∧ (assigned.toNat : Int) = found.toInt + UInt64.size) := by
  have ends : (run .standard 0 1000 (serving 1002 1002 1)).1.isOk := by decide +kernel
  rcases ran : run .standard 0 1000 (serving 1002 1002 1) with ⟨fault | report, last⟩
  · rw [ran] at ends
    cases ends
  · exact ⟨report, last, rfl, searchable_passes_iff ran⟩

def midway (deeds : Nat) (world : World) : World :=
  (Plan.carryOut ((plan .standard 0 1000).take deeds) world).2

-- The server assigns the greatest id and finds nothing, and the check is passed.
theorem unfound_id_passes :
    (run .standard 0 1000 (serving 18446744073709551615 (-1) 1)).1.toOption.bind (·.checks[8]?) =
        some ⟨"auto insert is searchable", true, "got -1"⟩ ∧
      (plan .standard 0 1000)[15]? = some (.ask (.insertAuto (constant 4 minusThree))) ∧
      (Routine.insertAuto (constant 4 minusThree)
        (midway 15 (serving 18446744073709551615 (-1) 1))).1 = .ok 18446744073709551615 ∧
      (plan .standard 0 1000)[16]? = some (.ask (.search (constant 4 minusThree))) ∧
      (Routine.search (constant 4 minusThree) (Routine.insertAuto (constant 4 minusThree)
        (midway 15 (serving 18446744073709551615 (-1) 1))).2).1 = .ok (-1) ∧
      ((18446744073709551615 : UInt64).toNat : Int) ≠ (-1 : Int32).toInt := by
  decide +kernel

end Acceptance

end VectorLink
