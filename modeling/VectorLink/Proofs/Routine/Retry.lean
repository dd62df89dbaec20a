import Mathlib.Algebra.Group.Nat.Defs
import VectorLink.Routine.Retry

/-! Connecting again makes the attempts that are allowed, and no others.

What a run of attempts has done is told by the list of them, each with the world it began in and the
world it left. Between two of them there is one pause and nothing else, so a list whose attempts fit
together in this way leaves no room for another attempt or another pause anywhere.

Attempts are counted in words of the machine, and so are the milliseconds between them. Neither
comes near the end of its word, however many attempts are allowed.
-/

set_option autoImplicit false

namespace VectorLink

def Fault.MayPass (fault : Fault) : Prop :=
  (∃ address cause, fault = .unreachable address cause) ∨ ∃ limit, fault = .timeout limit

theorem Fault.isRetryable_iff (fault : Fault) : fault.isRetryable ↔ fault.MayPass := by
  cases fault <;> simp [isRetryable, MayPass]

namespace Retry

/-! ### Attempts -/

structure Attempt where
  before : World
  result : Except Fault Unit
  after : World

theorem pause_eq (attempt : Nat) : pause attempt = 100 * 2 ^ min (attempt - 1) 16 :=
  Nat.shiftLeft_eq ..

/-- The world at the end of the pause after a failed attempt: the attempt is logged, and the time has
passed. -/
def rested (address : Address) (number : Nat) (fault : Fault) (world : World) : World :=
  { world with
    clock := world.clock + 100 * 2 ^ min (number - 1) 16
    log := note address number fault :: world.log }

/-- These are the attempts of a run that begins with attempt number `number`, and `most` of them are
allowed. -/
structure Made (address : Address) (open_ : Routine Fault Unit) (number most : Nat) (world : World)
    (made : List Attempt) (run : Except Fault Unit × World) : Prop where
  opened : ∀ attempt ∈ made, open_ attempt.before = (attempt.result, attempt.after)
  first : made.head?.map Attempt.before = some world
  last : made.getLast?.map (fun attempt => (attempt.result, attempt.after)) = some run
  /-- An attempt before another has failed in a way that may pass, and one pause is between them. -/
  again : ∀ (i : Nat) (earlier later : Attempt),
    made[i]? = some earlier → made[i + 1]? = some later →
    ∃ fault, earlier.result = .error fault ∧ fault.MayPass ∧
      later.before = rested address (number + i) fault earlier.after
  few : made.length ≤ most
  /-- Only an attempt that need not be the last one is followed by another. -/
  ended : made.length = most ∨ ∀ fault, run.1 = .error fault → ¬ fault.MayPass

variable {address : Address} {open_ : Routine Fault Unit} {number most : Nat} {world : World}

theorem made_once (allowed : 1 ≤ most)
    (final : most = 1 ∨ ∀ fault, (open_ world).1 = .error fault → ¬ fault.MayPass) :
    Made address open_ number most world [⟨world, (open_ world).1, (open_ world).2⟩]
      (open_ world) := by
  constructor
  · intro attempt member
    rw [List.mem_singleton.mp member]
  · rfl
  · rfl
  · intro i earlier later one two
    cases two
  · exact allowed
  · exact final.imp_left Eq.symm

theorem Made.cons {fault : Fault} {after : World} {made : List Attempt}
    {run : Except Fault Unit × World} (step : open_ world = (.error fault, after))
    (passing : fault.MayPass)
    (rest : Made address open_ (number + 1) most (rested address number fault after) made run) :
    Made address open_ number (most + 1) world (⟨world, .error fault, after⟩ :: made) run := by
  constructor
  · intro attempt member
    cases member with
    | head => exact step
    | tail _ member => exact rest.opened attempt member
  · rfl
  · cases made with
    | nil => cases rest.first
    | cons second made => exact rest.last
  · intro i earlier later one two
    cases i with
    | zero =>
      cases one
      have begins := rest.first
      rw [List.head?_eq_getElem?, show made[0]? = some later from two] at begins
      exact ⟨fault, rfl, passing, Option.some.inj begins⟩
    | succ i =>
      have next := rest.again i earlier later one two
      rw [Nat.add_right_comm] at next
      exact next
  · exact Nat.succ_le_succ rest.few
  · exact rest.ended.imp_left (congrArg Nat.succ)

theorem attempts_again {further : Nat} {fault : Fault} {after : World}
    (step : open_ world = (.error fault, after)) (passing : fault.MayPass) :
    attempts address open_ (further + 1) number world =
      attempts address open_ further (number + 1) (rested address number fault after) := by
  rw [attempts]
  simp only [step, if_pos (fault.isRetryable_iff.mpr passing)]
  unfold rested
  rw [← pause_eq]
  rfl

theorem attempts_done {further : Nat}
    (final : ∀ fault, (open_ world).1 = .error fault → ¬ fault.MayPass) :
    attempts address open_ further number world = open_ world := by
  cases further with
  | zero => rfl
  | succ further =>
    rcases step : open_ world with ⟨result, after⟩
    rw [step] at final
    cases result with
    | ok value => simp only [attempts, step]
    | error fault =>
      have stops : ¬ fault.isRetryable = true := fun retry =>
        final fault rfl (fault.isRetryable_iff.mp retry)
      simp only [attempts, step, if_neg stops]

/-- A run of attempts makes no more than it may, and the last of them decides. -/
theorem attempts_made (address : Address) (open_ : Routine Fault Unit) (further number : Nat)
    (world : World) :
    ∃ made, Made address open_ number (further + 1) world made
      (attempts address open_ further number world) := by
  induction further generalizing number world with
  | zero => exact ⟨_, made_once (Nat.le_refl 1) (.inl rfl)⟩
  | succ further ih =>
    have alone (final : ∀ fault, (open_ world).1 = .error fault → ¬ fault.MayPass) :
        ∃ made, Made address open_ number (further + 1 + 1) world made
          (attempts address open_ (further + 1) number world) := by
      rw [attempts_done final]
      exact ⟨_, made_once (Nat.succ_pos _) (.inr final)⟩
    rcases step : open_ world with ⟨result, after⟩
    rw [step] at alone
    cases result with
    | ok value => exact alone nofun
    | error fault =>
      by_cases passing : fault.MayPass
      · obtain ⟨made, rest⟩ := ih (number + 1) (rested address number fault after)
        rw [attempts_again step passing]
        exact ⟨_, rest.cons step passing⟩
      · apply alone
        rintro _ ⟨⟩
        exact passing

/-! ### Counting in words -/

def doublings (attempt : UInt32) : UInt32 := if attempt - 1 ≤ 16 then attempt - 1 else 16

def wordPause (attempt : UInt32) : UInt64 := 100 * ((1 : UInt64) <<< (doublings attempt).toUInt64)

def allowance (most : UInt32) : UInt32 := if most = 0 then 1 else most

theorem toNat_succ_of_lt {attempt most : UInt32} (more : attempt < most) :
    (attempt + 1).toNat = attempt.toNat + 1 := by
  have := most.toNat_lt
  have := UInt32.lt_iff_toNat_lt.mp more
  rw [UInt32.toNat_add, UInt32.toNat_one]
  exact Nat.mod_eq_of_lt (by omega)

def wordAttempts (address : Address) (open_ : Routine Fault Unit) (most attempt : UInt32) :
    Routine Fault Unit := fun world =>
  match open_ world with
  | (.ok (), world) => (.ok (), world)
  | (.error fault, world) =>
    if _again : fault.isRetryable ∧ attempt < most then
      (do
        Routine.note (note address attempt.toNat fault)
        Routine.wait (wordPause attempt).toNat
        wordAttempts address open_ most (attempt + 1)) world
    else (.error fault, world)
  termination_by most.toNat - attempt.toNat
  decreasing_by
    have fewer := UInt32.lt_iff_toNat_lt.mp _again.2
    rw [toNat_succ_of_lt _again.2]
    omega

structure Fits (attempt : UInt32) : Prop where
  earlier : (attempt - 1).toNat = attempt.toNat - 1
  shift : (doublings attempt).toNat = min (attempt.toNat - 1) 16
  power : ((1 : UInt64) <<< (doublings attempt).toUInt64).toNat = 2 ^ min (attempt.toNat - 1) 16
  pause : (wordPause attempt).toNat = 100 * 2 ^ min (attempt.toNat - 1) 16
  next : (attempt + 1).toNat = attempt.toNat + 1

theorem toNat_doublings {attempt : UInt32} (begun : 1 ≤ attempt) :
    (doublings attempt).toNat = min (attempt.toNat - 1) 16 := by
  have earlier : (attempt - 1).toNat = attempt.toNat - 1 := UInt32.toNat_sub_of_le _ _ begun
  have sixteen : (16 : UInt32).toNat = 16 := rfl
  unfold doublings
  split
  · rename_i few
    have := UInt32.le_iff_toNat_le.mp few
    omega
  · rename_i many
    have := mt UInt32.le_iff_toNat_le.mpr many
    omega

theorem fits_of_lt {attempt most : UInt32} (begun : 1 ≤ attempt) (more : attempt < most) :
    Fits attempt := by
  have shift := toNat_doublings begun
  -- sixteen doublings of one are far from the end of the word, and a hundred times as many still are
  have small : 2 ^ min (attempt.toNat - 1) 16 ≤ 2 ^ 16 :=
    Nat.pow_le_pow_right (by decide) (Nat.min_le_right ..)
  have power : ((1 : UInt64) <<< (doublings attempt).toUInt64).toNat =
      2 ^ min (attempt.toNat - 1) 16 := by
    have inside : min (attempt.toNat - 1) 16 % 64 = min (attempt.toNat - 1) 16 :=
      Nat.mod_eq_of_lt (by omega)
    rw [UInt64.toNat_shiftLeft, UInt32.toNat_toUInt64, shift, inside, UInt64.toNat_one,
      Nat.one_shiftLeft]
    exact Nat.mod_eq_of_lt (by omega)
  constructor
  · exact UInt32.toNat_sub_of_le _ _ begun
  · exact shift
  · exact power
  · unfold wordPause
    rw [UInt64.toNat_mul, power]
    exact Nat.mod_eq_of_lt (by change 100 * _ < _; omega)
  · exact toNat_succ_of_lt more

theorem wordAttempts_again {most attempt : UInt32} {fault : Fault} {after : World}
    (begun : 1 ≤ attempt) (more : attempt < most) (step : open_ world = (.error fault, after))
    (passing : fault.MayPass) :
    wordAttempts address open_ most attempt world =
      wordAttempts address open_ most (attempt + 1) (rested address attempt.toNat fault after) := by
  have retry := fault.isRetryable_iff.mpr passing
  rw [wordAttempts]
  simp only [step, dif_pos (And.intro retry more)]
  unfold rested
  rw [← (fits_of_lt begun more).pause]
  rfl

theorem wordAttempts_done {most attempt : UInt32}
    (final : attempt < most → ∀ fault, (open_ world).1 = .error fault → ¬ fault.MayPass) :
    wordAttempts address open_ most attempt world = open_ world := by
  rcases step : open_ world with ⟨result, after⟩
  rw [step] at final
  rw [wordAttempts]
  cases result with
  | ok value => simp only [step]
  | error fault =>
    have stops : ¬ (fault.isRetryable = true ∧ attempt < most) := fun both =>
      final both.2 fault rfl (fault.isRetryable_iff.mp both.1)
    simp only [step, dif_neg stops]

theorem wordAttempts_eq {most attempt : UInt32} {further : Nat} (begun : 1 ≤ attempt)
    (left : most.toNat - attempt.toNat = further) :
    wordAttempts address open_ most attempt world =
      attempts address open_ further attempt.toNat world := by
  induction further generalizing attempt world with
  | zero =>
    apply wordAttempts_done
    intro more
    have := UInt32.lt_iff_toNat_lt.mp more
    omega
  | succ further ih =>
    have more : attempt < most := UInt32.lt_iff_toNat_lt.mpr (by omega)
    have next := toNat_succ_of_lt more
    rcases step : open_ world with ⟨result, after⟩
    by_cases again : ∃ fault, result = .error fault ∧ fault.MayPass
    · obtain ⟨fault, rfl, passing⟩ := again
      rw [wordAttempts_again begun more step passing, attempts_again step passing, ← next]
      apply ih
      · exact UInt32.le_iff_toNat_le.mpr (by rw [next]; exact Nat.le_add_left ..)
      · omega
    · have final : ∀ fault, (open_ world).1 = .error fault → ¬ fault.MayPass := by
        rw [step]
        intro fault failed passing
        exact again ⟨fault, failed, passing⟩
      rw [wordAttempts_done fun _ => final, attempts_done final]

theorem toNat_allowance (most : UInt32) : (allowance most).toNat = max most.toNat 1 := by
  unfold allowance
  split
  · rename_i none
    rw [none]
    rfl
  · rename_i some
    have : most.toNat ≠ 0 := fun zero => some (UInt32.toNat_inj.mp zero)
    omega

/-! ### Connecting -/

/-- Connecting makes attempts until one succeeds, or fails in a way that does not pass, or is the
last that is allowed; with the pauses between them that is all it does. Counted in words it is the
same, since no word of any attempt that is followed by another runs over. -/
theorem connect_retries (address : Address) (selection : Selection) (most : UInt32) :
    (∀ world, ∃ made, Made address (Routine.connect address selection Link.standardLimit) 1
      (max most.toNat 1) world made (connect address selection most world)) ∧
    (∀ open_ world, ∃ made, Made address open_ 1 (max most.toNat 1) world made
      (attempts address open_ (most.toNat - 1) 1 world)) ∧
    (∀ open_ world, wordAttempts address open_ (allowance most) 1 world =
      attempts address open_ (most.toNat - 1) 1 world) ∧
    ∀ attempt, 1 ≤ attempt → attempt < allowance most → Fits attempt := by
  have all (open_ : Routine Fault Unit) (world : World) :
      ∃ made, Made address open_ 1 (max most.toNat 1) world made
        (attempts address open_ (most.toNat - 1) 1 world) := by
    have size : max most.toNat 1 = most.toNat - 1 + 1 := by omega
    rw [size]
    exact attempts_made address open_ (most.toNat - 1) 1 world
  refine ⟨all _, all, ?_, fun attempt begun more => fits_of_lt begun more⟩
  intro open_ world
  apply wordAttempts_eq (UInt32.le_refl 1)
  rw [toNat_allowance, UInt32.toNat_one]
  omega

def refusing : World :=
  let refused : Event Socket := .failure ⟨.connectionRefused, "Connection refused (os error 111)"⟩
  .ofNetwork [refused, refused, refused]

theorem refused_twice :
    (∃ made, Made .standard (Routine.connect .standard ⟨"points", 1⟩ Link.standardLimit) 1 2 refusing
      made (connect .standard ⟨"points", 1⟩ 2 refusing)) ∧
    Fits 1 ∧
    (connect .standard ⟨"points", 1⟩ 2 refusing).2.clock = 100 ∧
    (connect .standard ⟨"points", 1⟩ 2 refusing).2.network.length = 1 := by
  obtain ⟨connects, -, -, fits⟩ := connect_retries .standard ⟨"points", 1⟩ 2
  refine ⟨connects refusing, fits 1 (by decide) (by decide), ?_, ?_⟩
  · decide +kernel
  · decide +kernel

end Retry

end VectorLink
