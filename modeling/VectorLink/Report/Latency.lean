import VectorLink.Document.Basic

/-! Latencies in milliseconds, summed up.

The samples are put into their total order first, so nothing depends on the order in which they
came. A percentile is always one of the samples.
-/

set_option autoImplicit false

namespace VectorLink

structure Latency where
  samples : Nat
  mean : Binary64
  median : Binary64
  p95 : Binary64
  p99 : Binary64
  deriving DecidableEq, Repr

namespace Latency

def sorted (samples : List Binary64) : List Binary64 :=
  samples.mergeSort fun left right => left.rank ≤ right.rank

def sum (samples : List Binary64) : Binary64 := samples.foldl (· + ·) .negativeZero

/-- A share of a list, in units of `2 ^ -53`. -/
abbrev Share := Nat

def half : Share := 0x10000000000000

def share95 : Share := 0x1e666666666666

def share99 : Share := 0x1fae147ae147ae

/-- Where a share of a list ends: the whole part of the rounded product of share and length, or the
last place if that is beyond it. -/
def place (share : Share) (length : Nat) : Nat :=
  min (Binary64.roundSignificand (Binary64.roundSignificand length * share) >>> 53) (length - 1)

def percentile (share : Share) (ordered : List Binary64) : Binary64 :=
  (ordered[place share ordered.length]?).getD .zero

def ofSamples (samples : List Binary64) : Option Latency :=
  if samples.isEmpty then none
  else
    let ordered := sorted samples
    some {
      samples := ordered.length
      mean := sum ordered / .ofNat ordered.length
      median := percentile half ordered
      p95 := percentile share95 ordered
      p99 := percentile share99 ordered }

def document (latency : Latency) : Document :=
  .record [("samples", .natural latency.samples), ("mean_ms", .number latency.mean),
    ("p50_ms", .number latency.median), ("p95_ms", .number latency.p95),
    ("p99_ms", .number latency.p99)]

end Latency

end VectorLink
