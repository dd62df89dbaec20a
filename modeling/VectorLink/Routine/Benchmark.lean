import VectorLink.Report.Benchmark
import VectorLink.Routine.Draw
import VectorLink.Routine.World

/-! The benchmark: draw vectors, insert them all, search for some of them, switch between two
databases. -/

set_option autoImplicit false

namespace VectorLink

inductive BenchmarkFault where
  | opening (address : Address) (cause : Fault)
  | exchange (cause : Fault)
  | idsExhausted
  deriving DecidableEq, Repr

def BenchmarkFault.chain : BenchmarkFault → List String
  | opening address cause =>
    s!"Failed to open benchmark database at {address.text}" :: cause.chain
  | exchange cause => cause.chain
  | idsExhausted =>
    ["Vector index exceeds u32 id space", "out of range integral type conversion attempted"]

namespace Benchmark

def progressStep : Nat := 10000

def switches : Nat := 100

def inSeconds (span : Span) : Binary64 :=
  .ofNat span.seconds + .ofNat span.subsecond / .ofNat 1000000000

def inMillis (span : Span) : Binary64 := inSeconds span * .ofNat 1000

def ask (request : Request) : Routine BenchmarkFault request.Answer :=
  (Routine.ask request).mapError .exchange

def timed {α : Type} (routine : Routine BenchmarkFault α) : Routine BenchmarkFault (α × Span) := do
  let began ← Routine.now
  let value ← routine
  let ended ← Routine.now
  return (value, ⟨(ended - began) * 1000000⟩)

def ingest : (id : Nat) → List Components → Routine BenchmarkFault Unit
  | _, [] => return ()
  | id, vector :: rest =>
    if id < UInt32.size then do
      let _ ← ask (.insert (UInt32.ofNat id) vector)
      if (id + 1) % progressStep = 0 then
        Routine.inform "ingestion progress" [("inserted", toString (id + 1))]
      ingest (id + 1) rest
    else Routine.fail .idsExhausted

/-- Places of vectors to search for, no more than there are. -/
def probes (lots : Lots) (queries : Nat) (vectors : Array Components) : List (Fin vectors.size) :=
  lots.sample vectors.size (min queries vectors.size) (Nat.min_le_right ..)

def lookFor (vectors : Array Components) (place : Fin vectors.size) : Request :=
  .search vectors[place]

/-- Searches for the vectors at these places, and takes the time of each search. `taken` holds the
times so far, latest first. -/
def probe (vectors : Array Components) (taken : List Binary64) :
    List (Fin vectors.size) → Routine BenchmarkFault (List Binary64)
  | [] => return taken.reverse
  | place :: rest => do
    let (_, span) ← timed (ask (lookFor vectors place))
    probe vectors (inMillis span :: taken) rest

def targets : List String :=
  (List.range switches).map fun round => if round % 2 = 0 then "bench_A" else "bench_B"

def switch (dimension : UInt32) : List String → Routine BenchmarkFault Unit
  | [] => return ()
  | database :: rest => do
    let _ ← ask (.select database dimension)
    switch dimension rest

def perSecond (count : Nat) (span : Span) : Binary64 :=
  if span.nanos = 0 then .zero else .ofNat count / inSeconds span

def run (address : Address) (workload : Workload) (lots : Lots) (started : Moment) :
    Routine BenchmarkFault BenchmarkReport := do
  Routine.inform "generating synthetic vectors"
    [("vectors", toString workload.vectors), ("dimension", toString workload.dimension.toNat)]
  let vectors := lots.vectors workload.dimension workload.vectors
  (Routine.connect address ⟨workload.database, workload.dimension⟩ Link.standardLimit).mapError
    (.opening address)
  Routine.inform "phase 1: ingestion throughput" [("vectors", toString vectors.size)]
  let (_, total) ← timed (ingest 0 vectors.toList)
  Routine.inform "phase 2: search latency"
    [("probes", toString (min workload.queries vectors.size))]
  let latencies ← probe vectors [] (probes lots workload.queries vectors)
  Routine.inform "phase 3: context switching" [("rounds", toString switches)]
  let (_, switching) ← timed (switch workload.dimension targets)
  Routine.hangUp
  return {
    started
    address := address.text
    workload
    ingestion := ⟨vectors.size, inSeconds total, perSecond vectors.size total⟩
    search := Latency.ofSamples latencies
    switchMillis := inMillis switching / .ofNat switches }

end Benchmark

end VectorLink
