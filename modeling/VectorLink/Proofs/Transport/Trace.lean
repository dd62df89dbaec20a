import VectorLink.Transport.Whole

/-! What dealings with a transport leave in its history.

An activity only ever adds to the history. `Activity.Leaves` says, for every transport and every
deadline, what it adds and how that goes with its ending; there is one such statement for each
operation of a transport. Writing leaves writes that make up a beginning of the frame, reading
leaves reads that bring no byte beyond the field.
-/

set_option autoImplicit false

namespace VectorLink

/-! ### Traces -/

/-- Acts in the order in which they happened. -/
abbrev Trace := List Act

namespace Act

def output : Act → List UInt8
  | wrote bytes => bytes
  | _ => []

def input : Act → List UInt8
  | received bytes => bytes
  | _ => []

def isWrite : Act → Bool
  | wrote _ => true
  | _ => false

def isRead : Act → Bool
  | asked .. | received _ => true
  | _ => false

end Act

namespace Trace

def output (trace : Trace) : List UInt8 := trace.flatMap Act.output

def input (trace : Trace) : List UInt8 := trace.flatMap Act.input

def OnlyWrites (trace : Trace) : Prop := ∀ act ∈ trace, act.isWrite

def OnlyReads (trace : Trace) : Prop := ∀ act ∈ trace, act.isRead

@[simp] theorem output_nil : output [] = [] := rfl

@[simp] theorem output_cons (act : Act) (trace : Trace) :
    output (act :: trace) = act.output ++ output trace := rfl

@[simp] theorem output_append (first second : Trace) :
    output (first ++ second) = output first ++ output second := List.flatMap_append

@[simp] theorem input_nil : input [] = [] := rfl

@[simp] theorem input_cons (act : Act) (trace : Trace) :
    input (act :: trace) = act.input ++ input trace := rfl

@[simp] theorem input_append (first second : Trace) :
    input (first ++ second) = input first ++ input second := List.flatMap_append

theorem onlyWrites_nil : OnlyWrites [] := by simp [OnlyWrites]

theorem onlyReads_nil : OnlyReads [] := by simp [OnlyReads]

theorem OnlyWrites.append {first second : Trace} (left : OnlyWrites first)
    (right : OnlyWrites second) : OnlyWrites (first ++ second) := by
  intro act member
  rcases List.mem_append.mp member with member | member
  · exact left act member
  · exact right act member

theorem OnlyReads.append {first second : Trace} (left : OnlyReads first)
    (right : OnlyReads second) : OnlyReads (first ++ second) := by
  intro act member
  rcases List.mem_append.mp member with member | member
  · exact left act member
  · exact right act member

theorem OnlyReads.output_eq_nil {trace : Trace} (reads : OnlyReads trace) : trace.output = [] := by
  refine List.flatMap_eq_nil_iff.mpr ?_
  intro act member
  have isRead := reads act member
  cases act <;> simp [Act.isRead, Act.output] at isRead ⊢

/-- The second state of a transport comes from the first by the acts of the trace. -/
def Between (trace : Trace) (before after : Transport) : Prop :=
  after.history = trace.reverse ++ before.history

theorem between_self (transport : Transport) : Between [] transport transport := rfl

theorem Between.append {first second : Trace} {before middle after : Transport}
    (left : first.Between before middle) (right : second.Between middle after) :
    (first ++ second).Between before after := by
  unfold Between at left right ⊢
  rw [right, left, List.reverse_append, List.append_assoc]

theorem writtenIn_append (trace : Trace) (history : List Act) :
    Transport.writtenIn (trace.reverse ++ history) =
      Transport.writtenIn history ++ trace.output := by
  -- the history is kept latest first, so the first act of the trace goes on it first
  induction trace generalizing history with
  | nil => simp
  | cons act trace ih =>
    have one : Transport.writtenIn (act :: history) =
        Transport.writtenIn history ++ act.output := by
      cases act <;> simp [Transport.writtenIn, Act.output]
    rw [List.reverse_cons, List.append_assoc, List.singleton_append, ih, one, output_cons,
      List.append_assoc]

theorem Between.written_eq {trace : Trace} {before after : Transport}
    (between : trace.Between before after) : after.written = before.written ++ trace.output := by
  unfold Between at between
  rw [Transport.written, between, writtenIn_append, Transport.written]

end Trace

/-! ### What an activity leaves -/

namespace Activity

variable {ε ε' α β : Type} {deadline : Deadline} {before after : Transport}

-- How composed activities run, once it is known how their parts do.

theorem bind_of_done {first : Activity ε α} {next : α → Activity ε β} {value : α}
    (run : first deadline before = (.done value, after)) :
    (first >>= next) deadline before = next value deadline after := by
  show Activity.bind first next deadline before = _
  simp only [Activity.bind, run]

theorem bind_of_failed {first : Activity ε α} {next : α → Activity ε β} {error : ε}
    (run : first deadline before = (.failed error, after)) :
    (first >>= next) deadline before = (.failed error, after) := by
  show Activity.bind first next deadline before = _
  simp only [Activity.bind, run]

theorem bind_of_waiting {first : Activity ε α} {next : α → Activity ε β}
    (run : first deadline before = (.waiting, after)) :
    (first >>= next) deadline before = (.waiting, after) := by
  show Activity.bind first next deadline before = _
  simp only [Activity.bind, run]

theorem mapError_of_done {activity : Activity ε α} {restate : ε → ε'} {value : α}
    (run : activity deadline before = (.done value, after)) :
    mapError restate activity deadline before = (.done value, after) := by
  simp only [mapError, run]

theorem mapError_of_failed {activity : Activity ε α} {restate : ε → ε'} {error : ε}
    (run : activity deadline before = (.failed error, after)) :
    mapError restate activity deadline before = (.failed (restate error), after) := by
  simp only [mapError, run]

theorem mapError_of_waiting {activity : Activity ε α} {restate : ε → ε'}
    (run : activity deadline before = (.waiting, after)) :
    mapError restate activity deadline before = (.waiting, after) := by
  simp only [mapError, run]

/-- Whatever the transport and the deadline, the acts that an activity adds and its ending are such
as `post` says. -/
def Leaves (activity : Activity ε α) (post : Trace → Ending ε α → Prop) : Prop :=
  ∀ (deadline : Deadline) (transport : Transport), ∃ trace : Trace,
    trace.Between transport (activity deadline transport).2 ∧
      post trace (activity deadline transport).1

theorem Leaves.of_run {activity : Activity ε α} {post : Trace → Ending ε α → Prop}
    {ending : Ending ε α} (leaves : activity.Leaves post) (run : activity deadline before = (ending, after)) :
    ∃ trace : Trace, trace.Between before after ∧ post trace ending := by
  have holds := leaves deadline before
  rw [run] at holds
  exact holds

theorem Leaves.mono {activity : Activity ε α} {weak strong : Trace → Ending ε α → Prop}
    (leaves : activity.Leaves strong)
    (weaker : ∀ trace ending, strong trace ending → weak trace ending) : activity.Leaves weak := by
  intro deadline transport
  obtain ⟨trace, between, holds⟩ := leaves deadline transport
  exact ⟨trace, between, weaker trace _ holds⟩

theorem leaves_pure {value : α} {post : Trace → Ending ε α → Prop}
    (holds : post [] (.done value)) : (pure value : Activity ε α).Leaves post :=
  fun _ transport => ⟨[], Trace.between_self transport, holds⟩

theorem ofExcept_leaves (result : Except ε α) :
    (ofExcept result).Leaves fun trace ending =>
      trace = [] ∧
        match ending with
        | .done value => result = .ok value
        | .failed error => result = .error error
        | .waiting => False := by
  intro deadline transport
  cases result <;> exact ⟨[], Trace.between_self transport, rfl, rfl⟩

theorem Leaves.mapError {activity : Activity ε α} {post : Trace → Ending ε α → Prop}
    {post' : Trace → Ending ε' α → Prop} {restate : ε → ε'} (leaves : activity.Leaves post)
    (done : ∀ trace value, post trace (.done value) → post' trace (.done value))
    (failed : ∀ trace error, post trace (.failed error) → post' trace (.failed (restate error)))
    (waiting : ∀ trace, post trace .waiting → post' trace .waiting) :
    (mapError restate activity).Leaves post' := by
  intro deadline transport
  rcases run : activity deadline transport with ⟨ending, after⟩
  obtain ⟨trace, between, holds⟩ := leaves.of_run run
  cases ending with
  | done value =>
    rw [mapError_of_done run]
    exact ⟨trace, between, done trace value holds⟩
  | failed error =>
    rw [mapError_of_failed run]
    exact ⟨trace, between, failed trace error holds⟩
  | waiting =>
    rw [mapError_of_waiting run]
    exact ⟨trace, between, waiting trace holds⟩

/-- The rule for one activity after another: what comes first counts for what the second leaves,
and decides alone if it is not done. -/
theorem Leaves.bind {first : Activity ε α} {next : α → Activity ε β}
    {middle : Trace → Ending ε α → Prop} {post : Trace → Ending ε β → Prop}
    (leaves : first.Leaves middle)
    (failed : ∀ trace error, middle trace (.failed error) → post trace (.failed error))
    (waiting : ∀ trace, middle trace .waiting → post trace .waiting)
    (done : ∀ earlier value, middle earlier (.done value) →
      (next value).Leaves (fun trace ending => post (earlier ++ trace) ending)) :
    (first >>= next).Leaves post := by
  intro deadline transport
  rcases run : first deadline transport with ⟨ending, after⟩
  obtain ⟨earlier, between, holds⟩ := leaves.of_run run
  cases ending with
  | done value =>
    obtain ⟨later, rest, both⟩ := done earlier value holds deadline after
    rw [bind_of_done run]
    exact ⟨earlier ++ later, between.append rest, both⟩
  | failed error =>
    rw [bind_of_failed run]
    exact ⟨earlier, between, failed earlier error holds⟩
  | waiting =>
    rw [bind_of_waiting run]
    exact ⟨earlier, between, waiting earlier holds⟩

end Activity

end VectorLink
