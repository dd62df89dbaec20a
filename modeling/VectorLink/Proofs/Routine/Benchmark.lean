import VectorLink.Proofs.Routine.Session
import VectorLink.Routine.Benchmark

/-! The benchmark sends the workload that it reports.

All vectors go out under successive ids, then the searches, then the switches, over one link. So
what has been written at any moment is a beginning of one list of frames that the workload and what
was drawn for it fix, and a report comes only when the whole list has been sent and answered.
-/

set_option autoImplicit false

namespace VectorLink

namespace Plan

variable {ε α β : Type} {plan : Plan} {world after : World} {good : List Done → α → Prop}
  {bad : Fault → ε → Prop}

theorem Describes.now {next : Nat → Routine ε α}
    (describes : plan.Describes (next world.clock) world good bad) :
    plan.Describes (Routine.now >>= next) world good bad :=
  describes.silent rfl rfl

theorem Describes.timed {routine : Routine BenchmarkFault α} {bad : Fault → BenchmarkFault → Prop}
    (describes : plan.Describes routine world good bad) :
    plan.Describes (Benchmark.timed routine) world (fun done pair => good done pair.1) bad := by
  -- behind the routine the clock is looked at once more, which adds nothing to the plan
  have ends : Describes (plan ++ [])
      (routine >>= fun value => Routine.now >>= fun ended =>
        (pure (value, ⟨(ended - world.clock) * 1000000⟩) : Routine BenchmarkFault (α × Span)))
      world (fun done pair => good done pair.1) bad := by
    refine describes.bind _ fun done value after run holds => .now (describes_pure ?_)
    rwa [List.append_nil]
  rw [List.append_nil] at ends
  exact .now ends

end Plan

namespace Benchmark

open Plan (describes_pure describes_deed)

/-! ### The workload as a list of requests -/

def inserts (id : Nat) (vectors : List Components) : List Request :=
  (vectors.zipIdx id).map fun (vector, id) => .insert (UInt32.ofNat id) vector

abbrev drawn (workload : Workload) (lots : Lots) : Array Components :=
  lots.vectors workload.dimension workload.vectors

abbrev probed (workload : Workload) (lots : Lots) : List (Fin (drawn workload lots).size) :=
  probes lots workload.queries (drawn workload lots)

def searches (vectors : Array Components) (places : List (Fin vectors.size)) : List Request :=
  places.map (lookFor vectors)

def selects (dimension : UInt32) : List Request := targets.map (.select · dimension)

def requests (workload : Workload) (lots : Lots) : List Request :=
  inserts 0 (drawn workload lots).toList ++
    searches (drawn workload lots) (probed workload lots) ++ selects workload.dimension

/-- Vectors and places that suit a workload: as many vectors as asked for, each of the dimension
asked for and with components below one, and as many different places among them as there are
searches. -/
structure Suits (workload : Workload) (vectors : Array Components)
    (places : List (Fin vectors.size)) : Prop where
  count : vectors.size = workload.vectors
  dimension : ∀ (place : Nat) (within : place < vectors.size),
    vectors[place].length = workload.dimension.toNat
  components : ∀ vector ∈ vectors, ∀ component ∈ vector, component < 0x3f800000
  searches : places.length = min workload.queries workload.vectors
  distinct : places.Nodup

theorem drawn_suits (workload : Workload) (lots : Lots) :
    Suits workload (drawn workload lots) (probed workload lots) where
  count := lots.size_vectors ..
  dimension place within := by rw [lots.getElem_vectors, lots.length_vector]
  components vector member component within := by
    have flat : component ∈ (drawn workload lots).toList.flatten :=
      List.mem_flatten.mpr ⟨vector, Array.mem_def.mp member, within⟩
    rw [lots.flatten_vectors] at flat
    obtain ⟨before, -, rfl⟩ := List.mem_map.mp flat
    exact lots.component_lt before
  searches := by rw [probed, probes, lots.length_sample, lots.size_vectors]
  distinct := lots.nodup_sample ..

def Restates (address : Address) (fault : Fault) (error : BenchmarkFault) : Prop :=
  error = .opening address fault ∨ error = .exchange fault

variable {address : Address} {world : World}

theorem ask_describes (address : Address) (request : Request) (world : World) :
    Plan.Describes [.ask request] (ask request) world (fun _ _ => True) (Restates address) := by
  refine ((describes_deed (.ask request) world).mono fun _ _ _ => trivial).mapError ?_
  rintro fault _ rfl
  exact .inr rfl

theorem hangUp_describes (address : Address) (world : World) :
    Plan.Describes [.hangUp] (Routine.hangUp : Routine BenchmarkFault Unit) world (fun _ _ => True)
      (Restates address) := by
  have restated : (Routine.hangUp : Routine BenchmarkFault Unit) =
      (Routine.hangUp : Routine Fault Unit).mapError .exchange := by
    funext world
    unfold Routine.hangUp Routine.mapError
    dsimp only
    cases world.lines <;> rfl
  rw [restated]
  refine ((describes_deed .hangUp world).mono fun _ _ _ => trivial).mapError ?_
  rintro fault _ rfl
  exact .inr rfl

theorem ingest_describes (address : Address) (id : Nat) (vectors : List Components) (world : World)
    (few : id + vectors.length ≤ UInt32.size) :
    Plan.Describes ((inserts id vectors).map .ask) (ingest id vectors) world (fun _ _ => True)
      (Restates address) := by
  induction vectors generalizing id world with
  | nil => exact describes_pure trivial
  | cons vector vectors ih =>
    rw [List.length_cons] at few
    have inRange : id < UInt32.size := by omega
    have others := fun world => ih (id + 1) world (by omega)
    rw [ingest, if_pos inRange]
    refine (ask_describes address _ world).bind ((inserts (id + 1) vectors).map .ask) ?_
    intro done answer after _ _
    dsimp only
    split
    · exact (others _).note
    · exact others after

/-- There are no more ids than the inserts that come to their end have used. -/
theorem ingest_few {id : Nat} {vectors : List Components} {world after : World}
    (run : ingest id vectors world = (.ok (), after)) :
    vectors = [] ∨ id + vectors.length ≤ UInt32.size := by
  induction vectors generalizing id world with
  | nil => exact .inl rfl
  | cons vector vectors ih =>
    rw [ingest] at run
    split at run
    · rename_i inRange
      obtain ⟨answer, middle, -, run⟩ := Routine.of_bind_ok run
      have rest : vectors = [] ∨ id + 1 + vectors.length ≤ UInt32.size := by
        dsimp only at run
        split at run
        · obtain ⟨_, noted, -, run⟩ := Routine.of_bind_ok run
          exact ih run
        · exact ih run
      right
      rw [List.length_cons]
      rcases rest with rfl | few
      · exact inRange
      · omega
    · cases run

theorem run_few {address : Address} {workload : Workload} {lots : Lots} {started : Moment}
    {world after : World} {report : BenchmarkReport}
    (run : run address workload lots started world = (.ok report, after)) :
    workload.vectors ≤ UInt32.size := by
  unfold Benchmark.run at run
  obtain ⟨_, _, -, run⟩ := Routine.of_bind_ok run
  obtain ⟨_, _, -, run⟩ := Routine.of_bind_ok run
  obtain ⟨_, _, -, run⟩ := Routine.of_bind_ok run
  obtain ⟨_, _, timed, -⟩ := Routine.of_bind_ok run
  obtain ⟨_, _, -, timed⟩ := Routine.of_bind_ok timed
  obtain ⟨_, _, ingested, -⟩ := Routine.of_bind_ok timed
  have count := lots.size_vectors workload.dimension workload.vectors
  rw [← Array.length_toList] at count
  rw [← count]
  rcases ingest_few ingested with none | few
  · rw [none]
    exact Nat.zero_le _
  · omega

theorem probe_describes (address : Address) (vectors : Array Components) (taken : List Binary64)
    (places : List (Fin vectors.size)) (world : World) :
    Plan.Describes ((searches vectors places).map .ask) (probe vectors taken places) world
      (fun _ latencies => latencies.length = taken.length + places.length) (Restates address) := by
  induction places generalizing taken world with
  | nil => exact describes_pure (by simp)
  | cons place places ih =>
    rw [probe]
    refine (ask_describes address _ world).timed.bind ((searches vectors places).map .ask) ?_
    rintro done ⟨answer, span⟩ after _ _
    refine (ih (inMillis span :: taken) after).mono fun later latencies all => ?_
    rw [all, List.length_cons, List.length_cons]
    omega

theorem switch_describes (address : Address) (dimension : UInt32) (databases : List String)
    (world : World) :
    Plan.Describes ((databases.map (Request.select · dimension)).map .ask)
      (switch dimension databases) world (fun _ _ => True) (Restates address) := by
  induction databases generalizing world with
  | nil => exact describes_pure trivial
  | cons database databases ih =>
    rw [switch]
    refine (ask_describes address _ world).bind
      ((databases.map (Request.select · dimension)).map .ask) ?_
    exact fun done answer after _ _ => ih after

/-- What a report says about the size of the workload. -/
structure Counts (workload : Workload) (report : BenchmarkReport) : Prop where
  vectors : report.ingestion.vectors = workload.vectors
  unsearched : report.search = none ↔ min workload.queries workload.vectors = 0
  samples : ∀ latency ∈ report.search, latency.samples = min workload.queries workload.vectors

theorem counts_of_latencies {workload : Workload} (latencies : List Binary64)
    (all : latencies.length = min workload.queries workload.vectors) (report : BenchmarkReport)
    (vectors : report.ingestion.vectors = workload.vectors)
    (search : report.search = Latency.ofSamples latencies) : Counts workload report := by
  refine ⟨vectors, ?_, ?_⟩
  · rw [search, ← all, Latency.ofSamples]
    simp
  · intro latency given
    rw [search, Latency.ofSamples] at given
    split at given
    · cases given
    · cases given
      rw [← all]
      exact List.length_mergeSort _

theorem run_describes (address : Address) (workload : Workload) (lots : Lots) (started : Moment)
    (world : World) (few : workload.vectors ≤ UInt32.size) :
    Plan.Describes (Plan.session address ⟨workload.database, workload.dimension⟩ Link.standardLimit
        (requests workload lots))
      (run address workload lots started) world (fun _ report => Counts workload report)
      (Restates address) := by
  -- the deeds of the session, bracketed as the phases of the run come
  have suits := drawn_suits workload lots
  have plan : Plan.session address ⟨workload.database, workload.dimension⟩ Link.standardLimit
      (requests workload lots) =
      [.connect address ⟨workload.database, workload.dimension⟩ Link.standardLimit] ++
        ((inserts 0 (drawn workload lots).toList).map .ask ++
          ((searches (drawn workload lots) (probed workload lots)).map .ask ++
            ((selects workload.dimension).map .ask ++ ([.hangUp] ++ [])))) := by
    simp [Plan.session, requests]
  rw [plan]
  unfold run
  refine .note (.bind (.mapError (describes_deed (.connect ..) _) ?_) _ ?_)
  · rintro fault _ rfl
    exact .inl rfl
  rintro _ ⟨⟩ opened _ rfl
  have count : (drawn workload lots).toList.length = workload.vectors := suits.count
  refine .note (.bind (ingest_describes address 0 _ _ (by omega)).timed _ ?_)
  rintro _ ⟨_, total⟩ ingested _ _
  refine .note (.bind (probe_describes address (drawn workload lots) [] _ _) _ ?_)
  rintro _ latencies searched _ all
  refine .note (.bind (switch_describes address workload.dimension targets _).timed _ ?_)
  rintro _ ⟨_, switching⟩ switched _ _
  refine .bind (hangUp_describes address _) _ ?_
  rintro _ ⟨⟩ closed _ _
  refine describes_pure (counts_of_latencies latencies ?_ _ suits.count rfl)
  rw [all, ← suits.searches, List.length_nil, Nat.zero_add]

theorem run_isOk_iff (address : Address) (workload : Workload) (lots : Lots) (started : Moment)
    (world : World) :
    (∃ report last, run address workload lots started world = (.ok report, last)) ↔
      workload.vectors ≤ UInt32.size ∧
        ∃ done last, (Plan.session address ⟨workload.database, workload.dimension⟩
          Link.standardLimit (requests workload lots)).carryOut world = (.ok done, last) := by
  constructor
  · rintro ⟨report, last, ran⟩
    have few := run_few ran
    obtain ⟨done, final, carried, -⟩ :=
      (run_describes address workload lots started world few).of_ok ran
    exact ⟨few, done, final, carried⟩
  · rintro ⟨few, done, final, carried⟩
    obtain ⟨report, last, ran, -⟩ :=
      (run_describes address workload lots started world few).ok_of carried
    exact ⟨report, last, ran⟩

/-- All that a benchmark sends, in order: the database it works on, each vector under its index,
searches for vectors that were inserted, and a hundred changes between two databases. -/
def sent (workload : Workload) (vectors : Array Components) (places : List (Fin vectors.size)) :
    List Request :=
  .select workload.database workload.dimension ::
    (vectors.toList.mapIdx (fun id vector => .insert (UInt32.ofNat id) vector) ++
      places.map (lookFor vectors) ++
      (List.replicate 50 ["bench_A", "bench_B"]).flatten.map (.select · workload.dimension))

theorem sessionRequests_eq (workload : Workload) (lots : Lots) :
    Plan.sessionRequests ⟨workload.database, workload.dimension⟩ (requests workload lots) =
      sent workload (drawn workload lots) (probed workload lots) := by
  have alternate : targets = (List.replicate 50 ["bench_A", "bench_B"]).flatten := by decide
  have indexed (vectors : List Components) : inserts 0 vectors =
      vectors.mapIdx fun id vector => .insert (UInt32.ofNat id) vector := by
    rw [List.mapIdx_eq_zipIdx_map]
    rfl
  rw [Plan.sessionRequests, requests, indexed, selects, alternate]
  rfl

/-! ### The requests are for the database -/

end Benchmark

namespace Request

def IsFor (dimension : UInt32) : Request → Prop
  | select _ other => other = dimension
  | request => ∀ vector ∈ request.vector?, vector.length = dimension.toNat

variable {dimension : UInt32} {request : Request} {selection : Selection}

theorem IsFor.dimension_selectionAfter (fits : request.IsFor dimension)
    (same : selection.dimension = dimension) :
    (request.selectionAfter selection).dimension = dimension := by
  cases request with
  | select database other => exact fits
  | _ => exact same

theorem IsFor.frameFor_eq (fits : request.IsFor dimension)
    (same : selection.dimension = dimension) : request.frameFor selection = request.frame := by
  rw [Request.frameFor_eq]
  cases request with
  | select | delete => rfl
  | insert id vector | search vector | update id vector | insertAuto vector
  | searchMany vector count => exact if_pos (by rw [fits vector rfl, same])

theorem frame_error {fault : Fault} (refused : request.frame = .error fault) :
    ∃ detail : String, fault = .badArgument detail := by
  cases request with
  | select database dimension =>
    simp only [frame, Frame.select] at refused
    split at refused <;> cases refused
    exact ⟨_, rfl⟩
  | _ => cases refused

end Request

theorem Selection.dimension_after {dimension : UInt32} {requests : List Request}
    {selection : Selection} (fits : ∀ request ∈ requests, request.IsFor dimension)
    (same : selection.dimension = dimension) :
    (selection.after requests).dimension = dimension := by
  induction requests generalizing selection with
  | nil => exact same
  | cons request requests ih =>
    refine ih (fun other member => fits other (.tail _ member)) ?_
    exact (fits request (.head _)).dimension_selectionAfter same

def Fault.isMisuse : Fault → Bool
  | dimensionMismatch .. | linkClosed | desynchronized => true
  | _ => false

theorem Fault.isMisuse_eq_false {fault : Fault} (kind : fault.isMidExchange) :
    fault.isMisuse = false := by
  cases fault <;> first | rfl | cases kind

namespace Benchmark

variable {workload : Workload} {vectors : Array Components} {places : List (Fin vectors.size)}

theorem isFor_of_suits (suits : Suits workload vectors places) :
    ∀ request ∈ sent workload vectors places, request.IsFor workload.dimension := by
  intro request member
  rcases List.mem_cons.mp member with rfl | member
  · rfl
  rcases List.mem_append.mp member with member | member
  rcases List.mem_append.mp member with member | member
  · obtain ⟨id, inRange, rfl⟩ := List.mem_mapIdx.mp member
    rintro vector ⟨⟩
    exact suits.dimension id inRange
  · obtain ⟨place, -, rfl⟩ := List.mem_map.mp member
    rintro vector ⟨⟩
    exact suits.dimension place place.isLt
  · obtain ⟨database, -, rfl⟩ := List.mem_map.mp member
    rfl

/-! ### What is sent -/

/-- How far a benchmark has come that fails. What is on the wire is a beginning of all that it would
send, cut off in one frame at most. -/
inductive Stopped (all : List Request) (world last : World) : Prop where
  | unreached : last.links = world.links → Stopped all world last
  | cut {link : Link} {socket : Socket} {done left : List Request} {cut : List UInt8} :
      last.links = link :: world.links → .answer socket ∈ world.network → all = done ++ left →
      Wired done cut socket.transport link.transport →
      cut = [] ∨ (∃ next ∈ left.head?, next.BeginsWith cut) → Stopped all world last

theorem stopped_of_brokenOff {world last : World} {link : Link} {socket : Socket} {fault : Fault}
    (suits : Suits workload vectors places) (top : last.links = link :: world.links)
    (reached : .answer socket ∈ world.network)
    (broken : Plan.BrokenOff (sent workload vectors places)
      ⟨workload.database, workload.dimension⟩ socket.transport link.transport fault) :
    fault.isMisuse = false ∧ Stopped (sent workload vectors places) world last := by
  cases broken with
  | @refused done rest next fault split refused wired =>
    -- every vector fits, so only a name without a wire form can be refused
    have fits := isFor_of_suits suits
    rw [split] at fits
    have same : (Selection.after ⟨workload.database, workload.dimension⟩ done).dimension =
        workload.dimension :=
      Selection.dimension_after (fun request member => fits request (by simp [member])) rfl
    rw [(fits next (by simp)).frameFor_eq same] at refused
    obtain ⟨detail, rfl⟩ := Request.frame_error refused
    exact ⟨rfl, .cut top reached split wired (.inl rfl)⟩
  | midExchange done split kind part wired =>
    exact ⟨Fault.isMisuse_eq_false kind, .cut top reached split wired (.inr ⟨_, rfl, part⟩)⟩

/-- Every benchmark with ids enough for its vectors, on every network and whatever is drawn: the
vectors suit the workload and share out what is drawn, and a report comes only when they and all
searches have been sent; its figures are those of the workload. Otherwise a beginning of all that
has been sent, and the fault is not that a link was used in the wrong way. -/
theorem sends_workload (address : Address) (workload : Workload) (lots : Lots) (started : Moment)
    (world : World) (few : workload.vectors ≤ UInt32.size) :
    Suits workload (drawn workload lots) (probed workload lots) ∧
    (drawn workload lots).toList.flatten =
      (List.range (workload.vectors * workload.dimension.toNat)).map lots.component ∧
    match run address workload lots started world with
    | (.ok report, last) =>
      Counts workload report ∧
      ∃ (link : Link) (socket : Socket), last.links = link :: world.links ∧
        .answer socket ∈ world.network ∧
        Wired (sent workload (drawn workload lots) (probed workload lots)) [] socket.transport
          link.transport
    | (.error error, last) =>
      ∃ fault : Fault, (error = .opening address fault ∨ error = .exchange fault) ∧
        fault.isMisuse = false ∧
        Stopped (sent workload (drawn workload lots) (probed workload lots)) world last := by
  have suits := drawn_suits workload lots
  refine ⟨suits, lots.flatten_vectors .., ?_⟩
  have describes := run_describes address workload lots started world few
  have held := Plan.held address ⟨workload.database, workload.dimension⟩ Link.standardLimit
    (requests workload lots) world
  rcases result : run address workload lots started world with ⟨error | report, last⟩
  · obtain ⟨fault, final, carried, restated, alike⟩ := describes.of_error result
    rw [carried] at held
    have links := World.links_of_quiet alike
    refine ⟨fault, restated, ?_⟩
    cases held with
    | unreached why same =>
      refine ⟨?_, .unreached (links ▸ same)⟩
      rcases why with ⟨_, _, rfl⟩ | ⟨_, rfl⟩ <;> rfl
    | failed top reached broken =>
      rw [sessionRequests_eq] at broken
      exact stopped_of_brokenOff suits (links ▸ top) reached broken
  · obtain ⟨done, final, carried, counts, alike⟩ := describes.of_ok result
    rw [carried] at held
    have links := World.links_of_quiet alike
    cases held with
    | @done done last link socket top reached wired =>
      rw [sessionRequests_eq] at wired
      exact ⟨counts, link, socket, links ▸ top, reached, wired⟩

def orderly : Lots where
  component before := if before % 2 = 0 then 0 else 0x3f000000
  component_lt before := by split <;> decide
  sample length count _ := (List.finRange length).take count
  length_sample length count few := by
    rw [List.length_take, List.length_finRange]
    exact Nat.min_eq_left few
  nodup_sample length count _ := (List.nodup_finRange length).sublist (List.take_sublist ..)

def brief : Workload := ⟨"brief", 1, 2, 1⟩

def obliging : World :=
  .ofNetwork [.answer (.ofReads [.answer (.data (List.replicate 107 0x31))])]

theorem brief_sends_workload :
    brief.vectors ≤ UInt32.size ∧
      ∃ (report : BenchmarkReport) (last : World) (link : Link) (socket : Socket),
        run .standard brief orderly ⟨0, 0⟩ obliging = (.ok report, last) ∧
          report.ingestion.vectors = 2 ∧ report.search ≠ none ∧
          (∀ latency ∈ report.search, latency.samples = 1) ∧ last.links = [link] ∧
          Wired (sent brief (drawn brief orderly) (probed brief orderly)) []
            socket.transport link.transport := by
  have few : brief.vectors ≤ UInt32.size := by decide
  have answered : (run .standard brief orderly ⟨0, 0⟩ obliging).1.isOk := by
    decide +kernel
  refine ⟨few, ?_⟩
  obtain ⟨-, -, sends⟩ := sends_workload .standard brief orderly ⟨0, 0⟩ obliging few
  rcases result : run .standard brief orderly ⟨0, 0⟩ obliging with ⟨error | report, last⟩
  · rw [result] at answered
    cases answered
  · rw [result] at sends
    obtain ⟨⟨vectors, unsearched, samples⟩, link, socket, top, -, wired⟩ := sends
    refine ⟨report, last, link, socket, rfl, vectors, ?_, samples, top, wired⟩
    intro none
    have nothing := unsearched.mp none
    cases nothing

end Benchmark

end VectorLink
