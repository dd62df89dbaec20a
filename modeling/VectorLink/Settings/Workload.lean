import VectorLink.Document.Basic
import VectorLink.Settings.Environment

/-! The size of a benchmark. -/

set_option autoImplicit false

namespace VectorLink

structure Workload where
  database : String
  dimension : UInt32
  vectors : Nat
  queries : Nat
  deriving DecidableEq, Repr

namespace Workload

def standard : Workload := ⟨"bench_final_100k", 64, 50000, 2000⟩

def document (workload : Workload) : Document :=
  .record [("database", .text workload.database),
    ("dimension", .natural workload.dimension.toNat), ("vectors", .natural workload.vectors),
    ("queries", .natural workload.queries)]

def overrides : List (Override Workload) :=
  [.text "REDBOX_BENCH_DB" fun database workload => { workload with database },
    .natural "REDBOX_BENCH_DIM" UInt32.size fun dimension workload =>
      { workload with dimension := UInt32.ofNat dimension },
    .natural "REDBOX_BENCH_VECTORS" UInt64.size fun vectors workload => { workload with vectors },
    .natural "REDBOX_BENCH_QUERIES" UInt64.size fun queries workload => { workload with queries }]

def override (workload : Workload) (environment : Environment) :
    Workload × Except SettingsFault Unit :=
  Override.applyAll environment overrides workload

end Workload

end VectorLink
