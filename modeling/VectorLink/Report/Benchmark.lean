import VectorLink.Calendar
import VectorLink.Report.Latency
import VectorLink.Settings.Workload

/-! The result of a benchmark, as a document and as text. -/

set_option autoImplicit false

namespace VectorLink

structure Ingestion where
  vectors : Nat
  seconds : Binary64
  perSecond : Binary64
  deriving DecidableEq, Repr

structure BenchmarkReport where
  started : Moment
  address : String
  workload : Workload
  ingestion : Ingestion
  search : Option Latency
  switchMillis : Binary64
  deriving DecidableEq, Repr

namespace BenchmarkReport

def document (report : BenchmarkReport) : Document :=
  .record [
    ("started_at", .text report.started.text),
    ("endpoint", .text report.address),
    ("config", report.workload.document),
    ("ingest", .record [("vectors", .natural report.ingestion.vectors),
      ("total_secs", .number report.ingestion.seconds),
      ("vectors_per_sec", .number report.ingestion.perSecond)]),
    ("search", match report.search with
      | some latency => latency.document
      | none => .null),
    ("context_switch_avg_ms", .number report.switchMillis)]

def metric (label value unit : String) : String :=
  "   • " ++ label.pushn ' ' (15 - label.length) ++ ": " ++ value ++ " " ++ unit

def rule : String := "=================================================="

def searchLines : Option Latency → List String
  | none => ["   (no probes run)"]
  | some latency =>
    [metric "Probes" (toString latency.samples) "",
      metric "Average" (Decimal.fixed 2 latency.mean) "ms",
      metric "Median (P50)" (Decimal.fixed 2 latency.median) "ms",
      metric "P95" (Decimal.fixed 2 latency.p95) "ms",
      metric "P99" (Decimal.fixed 2 latency.p99) "ms"]

def lines (report : BenchmarkReport) : List String :=
  [rule,
    s!"   RedBoxDb BENCHMARK @ {report.address}",
    s!"   Target: {report.workload.vectors} Vectors | Dim: {report.workload.dimension.toNat}",
    rule,
    "",
    "[PHASE 1] Ingestion Throughput",
    metric "Total Time" (Decimal.fixed 2 report.ingestion.seconds) "s",
    metric "Throughput" (Decimal.fixed 0 report.ingestion.perSecond) "vectors/sec",
    "",
    "[PHASE 2] Search Latency"] ++ searchLines report.search ++
  ["",
    "[PHASE 3] Multi-Tenant Context Switching",
    metric "Avg Switch" (Decimal.fixed 2 report.switchMillis) "ms"]

end BenchmarkReport

end VectorLink
