import VectorLink.Routine.World

/-! Routines that follow a plan.

A routine may do the same things with the network whatever it is answered, and use the answers only
for what it returns and what it logs. Then a list of deeds says all that it does. `Plan.Describes`
relates such a routine to its plan, with one rule for each way in which routines are put together,
so that questions about the network are asked of a list.
-/

set_option autoImplicit false

namespace VectorLink

/-! ### Plans -/

/-- One thing that is done with the network. -/
inductive Deed where
  | connect (address : Address) (selection : Selection) (limit : Span)
  | ask (request : Request)
  | hangUp
  | wait (millis : Nat)
  deriving DecidableEq, Repr

namespace Deed

def Answer : Deed → Type
  | ask request => request.Answer
  | connect .. | hangUp | wait _ => Unit

def carryOut : (deed : Deed) → Routine Fault deed.Answer
  | connect address selection limit => Routine.connect address selection limit
  | ask request => Routine.ask request
  | hangUp => Routine.hangUp
  | wait millis => Routine.wait millis

end Deed

structure Done where
  deed : Deed
  answer : deed.Answer

abbrev Plan := List Deed

/-- Carries a plan out up to the first deed that fails. -/
def Plan.carryOut : Plan → Routine Fault (List Done)
  | [] => return []
  | deed :: rest => do
    let answer ← deed.carryOut
    let later ← carryOut rest
    return ⟨deed, answer⟩ :: later

/-! ### How routines run -/

namespace Routine

variable {ε ε' α β : Type} {world after : World}

theorem bind_of_ok {first : Routine ε α} {next : α → Routine ε β} {value : α}
    (run : first world = (.ok value, after)) : (first >>= next) world = next value after := by
  show Routine.bind first next world = _
  simp only [Routine.bind, run]

theorem bind_of_error {first : Routine ε α} {next : α → Routine ε β} {error : ε}
    (run : first world = (.error error, after)) :
    (first >>= next) world = (.error error, after) := by
  show Routine.bind first next world = _
  simp only [Routine.bind, run]

theorem of_bind_ok {first : Routine ε α} {next : α → Routine ε β} {result : β} {last : World}
    (run : (first >>= next) world = (.ok result, last)) :
    ∃ (value : α) (after : World), first world = (.ok value, after) ∧
      next value after = (.ok result, last) := by
  rcases ran : first world with ⟨error | value, after⟩
  · rw [bind_of_error ran] at run
    cases run
  · rw [bind_of_ok ran] at run
    exact ⟨value, after, rfl, run⟩

instance : LawfulMonad (Routine ε) := LawfulMonad.mk' _
  (fun routine => by
    funext world
    rcases run : routine world with ⟨_ | value, after⟩
    · exact bind_of_error run
    · exact bind_of_ok run)
  (fun _ _ => rfl)
  (fun first second third => by
    funext world
    rcases run : first world with ⟨_ | value, after⟩
    · rw [bind_of_error (bind_of_error run), bind_of_error run]
    · rw [bind_of_ok run]
      show Routine.bind (Routine.bind first second) third world = _
      simp only [Routine.bind, run]
      rfl)

theorem mapError_of_ok {routine : Routine ε α} {restate : ε → ε'} {value : α}
    (run : routine world = (.ok value, after)) :
    mapError restate routine world = (.ok value, after) := by
  simp only [mapError, run]

theorem mapError_of_error {routine : Routine ε α} {restate : ε → ε'} {error : ε}
    (run : routine world = (.error error, after)) :
    mapError restate routine world = (.error (restate error), after) := by
  simp only [mapError, run]

end Routine

def World.quiet (world : World) : World := { world with log := [] }

namespace World

variable {first second : World}

theorem links_of_quiet (same : first.quiet = second.quiet) : first.links = second.links :=
  congrArg (List.map Line.link) (World.mk.inj same).2.1

theorem network_of_quiet (same : first.quiet = second.quiet) : first.network = second.network :=
  (World.mk.inj same).1

end World

namespace Routine

variable {ε α β : Type}

/-- Worlds that differ only in their logs are the same to the routine. -/
def IgnoresLog (routine : Routine ε α) : Prop :=
  ∀ first second : World, first.quiet = second.quiet →
    (routine first).1 = (routine second).1 ∧ (routine first).2.quiet = (routine second).2.quiet

theorem IgnoresLog.of_quiet {routine : Routine ε α}
    (same : ∀ world : World, (routine world.quiet).1 = (routine world).1 ∧
      (routine world.quiet).2.quiet = (routine world).2.quiet) : routine.IgnoresLog := by
  intro first second alike
  rw [← (same first).1, ← (same first).2, alike]
  exact same second

theorem IgnoresLog.bind {first : Routine ε α} {next : α → Routine ε β} (ignores : first.IgnoresLog)
    (all : ∀ value, (next value).IgnoresLog) : (first >>= next).IgnoresLog := by
  intro left right alike
  obtain ⟨result, world⟩ := ignores left right alike
  rcases runLeft : first left with ⟨resultLeft, afterLeft⟩
  rcases runRight : first right with ⟨resultRight, afterRight⟩
  rw [runLeft, runRight] at result world
  obtain rfl : resultLeft = resultRight := result
  cases resultLeft with
  | ok value =>
    rw [bind_of_ok runLeft, bind_of_ok runRight]
    exact all value afterLeft afterRight world
  | error error =>
    rw [bind_of_error runLeft, bind_of_error runRight]
    exact ⟨rfl, world⟩

theorem ignoresLog_pure (value : α) : (pure value : Routine ε α).IgnoresLog :=
  fun _ _ alike => ⟨rfl, alike⟩

theorem ignoresLog_connect (address : Address) (selection : Selection) (limit : Span) :
    (connect address selection limit).IgnoresLog := by
  refine .of_quiet fun world => ?_
  have network : (world.quiet.note ⟨.debug, "connecting", [("endpoint", address.text)]⟩).network =
      (world.note ⟨.debug, "connecting", [("endpoint", address.text)]⟩).network := rfl
  unfold connect
  dsimp only [World.quiet, World.note]
  split <;> exact ⟨rfl, rfl⟩

theorem ignoresLog_ask (request : Request) : (ask request).IgnoresLog := by
  refine .of_quiet fun world => ?_
  unfold ask
  dsimp only [World.quiet]
  split <;> exact ⟨rfl, rfl⟩

theorem ignoresLog_hangUp : (hangUp : Routine ε Unit).IgnoresLog := by
  refine .of_quiet fun world => ?_
  unfold hangUp
  dsimp only [World.quiet]
  split <;> exact ⟨rfl, rfl⟩

end Routine

theorem Deed.ignoresLog_carryOut (deed : Deed) : deed.carryOut.IgnoresLog := by
  cases deed with
  | connect address selection limit => exact Routine.ignoresLog_connect address selection limit
  | ask request => exact Routine.ignoresLog_ask request
  | hangUp => exact Routine.ignoresLog_hangUp
  | wait millis => exact .of_quiet fun world => ⟨rfl, rfl⟩

namespace Plan

theorem ignoresLog_carryOut (plan : Plan) : plan.carryOut.IgnoresLog := by
  induction plan with
  | nil => exact Routine.ignoresLog_pure []
  | cons deed rest ih =>
    exact deed.ignoresLog_carryOut.bind fun answer => ih.bind fun later =>
      Routine.ignoresLog_pure _

/-! ### Plans carried out -/

variable {plan rest : Plan} {world after last : World} {done later : List Done} {fault : Fault}

theorem carryOut_append (plan rest : Plan) :
    carryOut (plan ++ rest) = do
      let done ← plan.carryOut
      let later ← rest.carryOut
      return done ++ later := by
  induction plan with
  | nil => simp [carryOut]
  | cons deed plan ih => simp [carryOut, ih]

theorem carryOut_append_of_ok (run : plan.carryOut world = (.ok done, after))
    (more : rest.carryOut after = (.ok later, last)) :
    carryOut (plan ++ rest) world = (.ok (done ++ later), last) := by
  rw [carryOut_append, Routine.bind_of_ok run, Routine.bind_of_ok more]
  rfl

theorem carryOut_append_of_error (run : plan.carryOut world = (.error fault, after)) :
    carryOut (plan ++ rest) world = (.error fault, after) := by
  rw [carryOut_append, Routine.bind_of_error run]

theorem carryOut_append_of_later_error (run : plan.carryOut world = (.ok done, after))
    (more : rest.carryOut after = (.error fault, last)) :
    carryOut (plan ++ rest) world = (.error fault, last) := by
  rw [carryOut_append, Routine.bind_of_ok run, Routine.bind_of_error more]

theorem carryOut_cons_of_error {deed : Deed} (run : deed.carryOut world = (.error fault, after)) :
    carryOut (deed :: rest) world = (.error fault, after) := by
  rw [carryOut, Routine.bind_of_error run]

theorem carryOut_cons_of_ok {deed : Deed} {answer : deed.Answer}
    (run : deed.carryOut world = (.ok answer, after))
    (more : rest.carryOut after = (.ok later, last)) :
    carryOut (deed :: rest) world = (.ok (⟨deed, answer⟩ :: later), last) := by
  rw [carryOut, Routine.bind_of_ok run, Routine.bind_of_ok more]
  rfl

theorem carryOut_cons_of_later_error {deed : Deed} {answer : deed.Answer}
    (run : deed.carryOut world = (.ok answer, after))
    (more : rest.carryOut after = (.error fault, last)) :
    carryOut (deed :: rest) world = (.error fault, last) := by
  rw [carryOut, Routine.bind_of_ok run, Routine.bind_of_error more]

/-- A plan fails exactly as one of its deeds does, and then nothing is done behind that deed. -/
theorem carryOut_error_iff :
    plan.carryOut world = (.error fault, last) ↔
      ∃ (before rest : Plan) (deed : Deed) (done : List Done) (between : World),
        plan = before ++ deed :: rest ∧ before.carryOut world = (.ok done, between) ∧
          deed.carryOut between = (.error fault, last) := by
  constructor
  · intro run
    induction plan generalizing world with
    | nil => cases run
    | cons deed plan ih =>
      rcases first : deed.carryOut world with ⟨error | answer, between⟩
      · rw [carryOut_cons_of_error first] at run
        cases run
        exact ⟨[], plan, deed, [], world, rfl, rfl, first⟩
      rcases second : carryOut plan between with ⟨error | others, final⟩
      · rw [carryOut_cons_of_later_error first second] at run
        cases run
        obtain ⟨before, rest, failing, done, middle, rfl, carried, fails⟩ := ih second
        exact ⟨deed :: before, rest, failing, ⟨deed, answer⟩ :: done, middle, rfl,
          carryOut_cons_of_ok first carried, fails⟩
      rw [carryOut_cons_of_ok first second] at run
      cases run
  · rintro ⟨before, rest, deed, done, between, rfl, carried, fails⟩
    exact carryOut_append_of_later_error carried (carryOut_cons_of_error fails)

/-! ### What a plan describes -/

variable {ε α β : Type}

/-- A routine and a plan have come to the same end: both well, with what `good` says of the deeds
done and the value returned, or both with a failure. The worlds differ at most in their logs. -/
inductive Agrees (good : List Done → α → Prop) (bad : Fault → ε → Prop) :
    Except Fault (List Done) × World → Except ε α × World → Prop where
  | done {done : List Done} {value : α} {last after : World} : good done value →
      last.quiet = after.quiet → Agrees good bad (.ok done, last) (.ok value, after)
  | failed {fault : Fault} {error : ε} {last after : World} : bad fault error →
      last.quiet = after.quiet → Agrees good bad (.error fault, last) (.error error, after)

/-- In this world, what a routine does is what the plan says. -/
def Describes (plan : Plan) (routine : Routine ε α) (world : World)
    (good : List Done → α → Prop) (bad : Fault → ε → Prop) : Prop :=
  Agrees good bad (plan.carryOut world) (routine world)

variable {good : List Done → α → Prop} {bad : Fault → ε → Prop} {routine : Routine ε α}

theorem describes_pure {value : α} (holds : good [] value) :
    Describes [] (pure value : Routine ε α) world good bad :=
  .done holds rfl

theorem Describes.mono {stronger : List Done → α → Prop}
    (describes : plan.Describes routine world stronger bad)
    (weaker : ∀ done value, stronger done value → good done value) :
    plan.Describes routine world good bad := by
  unfold Describes at describes ⊢
  generalize plan.carryOut world = carried, routine world = run at describes ⊢
  cases describes with
  | done holds alike => exact .done (weaker _ _ holds) alike
  | failed holds alike => exact .failed holds alike

/-- The rule for one routine after another. The second may know how the first has gone. -/
theorem Describes.bind {first : Routine ε β} {next : β → Routine ε α}
    {middle : List Done → β → Prop} (describes : plan.Describes first world middle bad)
    (rest : Plan)
    (follows : ∀ (done : List Done) (value : β) (after : World), first world = (.ok value, after) →
      middle done value →
      rest.Describes (next value) after (fun later result => good (done ++ later) result) bad) :
    Describes (plan ++ rest) (first >>= next) world good bad := by
  unfold Describes at describes ⊢
  rcases carried : plan.carryOut world with ⟨ending, last⟩
  rcases run : first world with ⟨result, after⟩
  rw [carried, run] at describes
  cases describes with
  | failed holds alike =>
    rw [carryOut_append_of_error carried, Routine.bind_of_error run]
    exact .failed holds alike
  | @done done value last after holds alike =>
    have describes := follows done value after run holds
    rw [Routine.bind_of_ok run]
    -- the rest of the plan begins in a world that may differ in its log
    obtain ⟨sameResult, sameWorld⟩ := rest.ignoresLog_carryOut last after alike
    unfold Describes at describes
    rcases more : rest.carryOut last with ⟨ending, final⟩
    rcases other : rest.carryOut after with ⟨_, _⟩
    rw [more, other] at sameResult sameWorld
    obtain rfl : ending = _ := sameResult
    rw [other] at describes
    generalize next value after = run at describes
    cases describes with
    | done holds alike =>
      rw [carryOut_append_of_ok carried more]
      exact .done holds (sameWorld.trans alike)
    | failed holds alike =>
      rw [carryOut_append_of_later_error carried more]
      exact .failed holds (sameWorld.trans alike)

theorem describes_deed (deed : Deed) (world : World) :
    Describes [deed] deed.carryOut world (fun done answer => done = [⟨deed, answer⟩])
      (fun fault error => error = fault) := by
  unfold Describes
  rcases run : deed.carryOut world with ⟨_ | answer, after⟩
  · rw [carryOut_cons_of_error run]
    exact .failed rfl rfl
  · rw [carryOut_cons_of_ok run rfl]
    exact .done rfl rfl

theorem Describes.mapError {ε' : Type} {restate : ε → ε'} {other : Fault → ε' → Prop}
    (describes : plan.Describes routine world good bad)
    (restated : ∀ fault error, bad fault error → other fault (restate error)) :
    plan.Describes (routine.mapError restate) world good other := by
  unfold Describes at describes ⊢
  rcases run : routine world with ⟨result, after⟩
  rw [run] at describes
  generalize plan.carryOut world = carried at describes ⊢
  cases describes with
  | done holds alike =>
    rw [Routine.mapError_of_ok run]
    exact .done holds alike
  | failed holds alike =>
    rw [Routine.mapError_of_error run]
    exact .failed (restated _ _ holds) alike

theorem Describes.cons {deed : Deed} {next : deed.Answer → Routine Fault α}
    (follows : ∀ (answer : deed.Answer) (after : World), deed.carryOut world = (.ok answer, after) →
      rest.Describes (next answer) after (fun later result => good (⟨deed, answer⟩ :: later) result)
        (fun fault error => error = fault)) :
    Describes (deed :: rest) (deed.carryOut >>= next) world good
      (fun fault error => error = fault) := by
  refine (describes_deed deed world).bind rest ?_
  rintro done answer after run rfl
  exact follows answer after run

theorem Describes.silent {first : Routine ε β} {next : β → Routine ε α} {value : β}
    (run : first world = (.ok value, after)) (alike : world.quiet = after.quiet)
    (describes : plan.Describes (next value) after good bad) :
    plan.Describes (first >>= next) world good bad := by
  have nothing : Describes [] first world (fun done result => done = [] ∧ result = value) bad := by
    unfold Describes
    rw [run]
    exact .done ⟨rfl, rfl⟩ alike
  refine nothing.bind plan ?_
  rintro done result other same ⟨rfl, rfl⟩
  rw [run] at same
  cases same
  exact describes

theorem Describes.note {note : Note} {next : Unit → Routine ε α}
    (describes : plan.Describes (next ()) (world.note note) good bad) :
    plan.Describes (Routine.note note >>= next) world good bad :=
  describes.silent rfl rfl

theorem Describes.of_ok {value : α} (describes : plan.Describes routine world good bad)
    (run : routine world = (.ok value, after)) :
    ∃ (done : List Done) (last : World), plan.carryOut world = (.ok done, last) ∧
      good done value ∧ last.quiet = after.quiet := by
  unfold Describes at describes
  rw [run] at describes
  generalize plan.carryOut world = carried at describes ⊢
  cases describes with
  | done holds alike => exact ⟨_, _, rfl, holds, alike⟩

theorem Describes.of_error {error : ε} (describes : plan.Describes routine world good bad)
    (run : routine world = (.error error, after)) :
    ∃ (fault : Fault) (last : World), plan.carryOut world = (.error fault, last) ∧
      bad fault error ∧ last.quiet = after.quiet := by
  unfold Describes at describes
  rw [run] at describes
  generalize plan.carryOut world = carried at describes ⊢
  cases describes with
  | failed holds alike => exact ⟨_, _, rfl, holds, alike⟩

theorem Describes.ok_of (describes : plan.Describes routine world good bad)
    (carried : plan.carryOut world = (.ok done, last)) :
    ∃ (value : α) (after : World), routine world = (.ok value, after) ∧
      good done value ∧ last.quiet = after.quiet := by
  unfold Describes at describes
  rw [carried] at describes
  generalize routine world = run at describes ⊢
  cases describes with
  | done holds alike => exact ⟨_, _, rfl, holds, alike⟩

theorem Describes.error_of (describes : plan.Describes routine world good bad)
    (carried : plan.carryOut world = (.error fault, last)) :
    ∃ (error : ε) (after : World), routine world = (.error error, after) ∧
      bad fault error ∧ last.quiet = after.quiet := by
  unfold Describes at describes
  rw [carried] at describes
  generalize routine world = run at describes ⊢
  cases describes with
  | failed holds alike => exact ⟨_, _, rfl, holds, alike⟩

end Plan

end VectorLink
