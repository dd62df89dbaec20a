import VectorLink.Proofs.Number.Rounding
import VectorLink.Proofs.Number.TotalOrder
import VectorLink.Report.Latency

/-! Latencies summed up are order statistics.

The total order tells any two patterns apart, so a list has one ordering only, and all that is made
of the ordering is the same for every list of the same samples. A percentile is read off the ordering
at a place that is always there: as many samples as stand up to that place do not exceed it, and as
many as stand from there on are not below it.
-/

set_option autoImplicit false

namespace VectorLink.Latency

open Binary64 (Precedes precedes_iff)

/-! ### The ordering -/

theorem sorted_perm (samples : List Binary64) : (sorted samples).Perm samples :=
  List.mergeSort_perm ..

theorem sorted_pairwise (samples : List Binary64) : (sorted samples).Pairwise Precedes := by
  have ranked : (sorted samples).Pairwise fun left right =>
      decide (left.rank ≤ right.rank) = true := by
    apply List.pairwise_mergeSort
    · intro one two three first second
      simp only [decide_eq_true_eq, ← precedes_iff] at first second ⊢
      exact first.trans second
    · intro one two
      simp only [Bool.or_eq_true, decide_eq_true_eq, ← precedes_iff]
      exact Precedes.total one two
  exact ranked.imp fun less => precedes_iff.mpr (of_decide_eq_true less)

theorem eq_of_ordered {one two : List Binary64} (same : one.Perm two)
    (first : one.Pairwise Precedes) (second : two.Pairwise Precedes) : one = two :=
  same.eq_of_pairwise (fun _ _ _ _ => Precedes.antisymm) first second

theorem sorted_congr {samples other : List Binary64} (same : other.Perm samples) :
    sorted other = sorted samples := by
  apply eq_of_ordered _ (sorted_pairwise other) (sorted_pairwise samples)
  exact (sorted_perm other).trans (same.trans (sorted_perm samples).symm)

/-! ### Places -/

/-- So many hundredths of a list, rounded to a double that is a half at least and below one. -/
def hundredths (count : Nat) : Share := Binary64.roundDiv (count * 2 ^ 53) 100

theorem half_eq : half = hundredths 50 := by decide

theorem share95_eq : share95 = hundredths 95 := by decide

theorem share99_eq : share99 = hundredths 99 := by decide

theorem place_lt {length : Nat} (some : 0 < length) (share : Share) : place share length < length :=
  Nat.lt_of_le_of_lt (Nat.min_le_right ..) (by omega)

theorem place_mono {one two : Share} (less : one ≤ two) (length : Nat) :
    place one length ≤ place two length := by
  have product : Binary64.roundSignificand (Binary64.roundSignificand length * one) ≤
      Binary64.roundSignificand (Binary64.roundSignificand length * two) :=
    Binary64.roundSignificand_mono (Nat.mul_le_mul_left _ less)
  unfold place
  rw [Nat.shiftRight_eq_div_pow, Nat.shiftRight_eq_div_pow]
  have whole := Nat.div_le_div_right (c := 2 ^ 53) product
  omega

/-! ### Samples around a place -/

variable {samples ordered : List Binary64} {index : Nat}

theorem precedes_of_le (pairwise : ordered.Pairwise Precedes) {one two : Nat} (less : one ≤ two)
    (within : two < ordered.length) : ordered[one].Precedes ordered[two] := by
  obtain rfl | apart := Nat.eq_or_lt_of_le less
  · exact precedes_iff.mpr (Nat.le_refl _)
  · exact List.pairwise_iff_getElem.mp pairwise one two _ _ apart

theorem below_place (pairwise : ordered.Pairwise Precedes) (within : index < ordered.length) :
    index + 1 ≤ ordered.countP fun sample => sample.Precedes ordered[index] := by
  have front : ∀ sample ∈ ordered.take (index + 1), sample.Precedes ordered[index] := by
    intro sample member
    obtain ⟨other, inside, rfl⟩ := List.mem_iff_getElem.mp member
    rw [List.length_take] at inside
    rw [List.getElem_take]
    exact precedes_of_le pairwise (by omega) within
  -- equal samples behind the place may be counted too
  have all := List.countP_eq_length.mpr fun sample member => decide_eq_true (front sample member)
  have fewer := (List.take_sublist (index + 1) ordered).countP_le
    (p := fun sample => sample.Precedes ordered[index])
  rw [all, List.length_take] at fewer
  omega

theorem above_place (pairwise : ordered.Pairwise Precedes) (within : index < ordered.length) :
    ordered.length - index ≤ ordered.countP fun sample => ordered[index].Precedes sample := by
  have back : ∀ sample ∈ ordered.drop index, ordered[index].Precedes sample := by
    intro sample member
    obtain ⟨other, inside, rfl⟩ := List.mem_iff_getElem.mp member
    rw [List.length_drop] at inside
    rw [List.getElem_drop]
    exact precedes_of_le pairwise (by omega) (by omega)
  have all := List.countP_eq_length.mpr fun sample member => decide_eq_true (back sample member)
  have fewer := (List.drop_sublist index ordered).countP_le
    (p := fun sample => ordered[index].Precedes sample)
  rwa [all, List.length_drop] at fewer

/-! ### Summing up -/

/-- A sample that stands at a place of the ordering. -/
structure StandsAt (samples ordered : List Binary64) (index : Nat) (sample : Binary64) : Prop where
  here : ∃ within : index < ordered.length, sample = ordered[index]
  member : sample ∈ samples
  below : index + 1 ≤ samples.countP fun other => other.Precedes sample
  above : samples.length - index ≤ samples.countP fun other => sample.Precedes other

/-- What is said of samples that have this ordering. -/
structure SumsUp (samples ordered : List Binary64) (latency : Latency) : Prop where
  count : latency.samples = samples.length
  mean : latency.mean = sum ordered / .ofNat samples.length
  median : StandsAt samples ordered (place (hundredths 50) samples.length) latency.median
  p95 : StandsAt samples ordered (place (hundredths 95) samples.length) latency.p95
  p99 : StandsAt samples ordered (place (hundredths 99) samples.length) latency.p99
  median_p95 : latency.median.Precedes latency.p95
  p95_p99 : latency.p95.Precedes latency.p99

theorem percentile_eq {share : Share} (within : place share ordered.length < ordered.length) :
    percentile share ordered = ordered[place share ordered.length] := by
  rw [percentile, List.getElem?_eq_getElem within, Option.getD_some]

theorem percentile_standsAt (same : ordered.Perm samples) (pairwise : ordered.Pairwise Precedes)
    (some : 0 < ordered.length) (share : Share) :
    StandsAt samples ordered (place share samples.length) (percentile share ordered) := by
  have within := place_lt some share
  rw [percentile_eq within, ← same.length_eq]
  exact {
    here := ⟨within, rfl⟩
    member := same.subset (List.getElem_mem within)
    below := same.countP_eq _ ▸ below_place pairwise within
    above := same.length_eq ▸ same.countP_eq _ ▸ above_place pairwise within }

theorem percentile_mono (pairwise : ordered.Pairwise Precedes) (some : 0 < ordered.length)
    {one two : Share} (less : one ≤ two) :
    (percentile one ordered).Precedes (percentile two ordered) := by
  rw [percentile_eq (place_lt some one), percentile_eq (place_lt some two)]
  exact precedes_of_le pairwise (place_mono less _) (place_lt some two)

theorem ofSamples_eq_none_iff : ofSamples samples = none ↔ samples = [] := by
  cases samples <;> simp [ofSamples]

theorem ofSamples_congr {other : List Binary64} (same : other.Perm samples) :
    ofSamples other = ofSamples samples := by
  unfold ofSamples
  rw [sorted_congr same, same.isEmpty_eq]

theorem ofSamples_sumsUp {latency : Latency} (summed : ofSamples samples = some latency) :
    SumsUp samples (sorted samples) latency := by
  unfold ofSamples at summed
  split at summed
  · cases summed
  next some =>
    cases summed
    have same := sorted_perm samples
    have pairwise := sorted_pairwise samples
    have some : 0 < (sorted samples).length := by
      rw [same.length_eq]
      exact List.length_pos_iff.mpr fun none => some (List.isEmpty_iff.mpr none)
    exact {
      count := same.length_eq
      mean := by rw [same.length_eq]
      median := half_eq ▸ percentile_standsAt same pairwise some half
      p95 := share95_eq ▸ percentile_standsAt same pairwise some share95
      p99 := share99_eq ▸ percentile_standsAt same pairwise some share99
      median_p95 := percentile_mono pairwise some (by decide)
      p95_p99 := percentile_mono pairwise some (by decide) }

/-- Nothing is said of no samples only. Samples have exactly one ordering, and what is said of them
depends on nothing else: it is the same in whatever order they come. The mean runs over the ordering
from its front. Each percentile is a sample, the one at its place in the ordering, with as many on
either side as the place says, and the percentiles are in order. -/
theorem order_statistics (samples : List Binary64) :
    (ofSamples samples = none ↔ samples = []) ∧
      (∀ other : List Binary64, other.Perm samples → ofSamples other = ofSamples samples) ∧
      ∃ ordered : List Binary64,
        (∀ other : List Binary64,
          other.Perm samples ∧ other.Pairwise Precedes ↔ other = ordered) ∧
        ∀ latency, ofSamples samples = some latency → SumsUp samples ordered latency := by
  refine ⟨ofSamples_eq_none_iff, fun _ => ofSamples_congr, sorted samples, ?_, ?_⟩
  · intro other
    constructor
    · rintro ⟨same, pairwise⟩
      exact eq_of_ordered (same.trans (sorted_perm samples).symm) pairwise (sorted_pairwise samples)
    · rintro rfl
      exact ⟨sorted_perm samples, sorted_pairwise samples⟩
  · intro latency
    exact ofSamples_sumsUp

def mixed : List Binary64 :=
  [⟨0x7ff8000000000000⟩, .zero, ⟨0xfff8000000000001⟩, .negativeZero, ⟨0xfff0000000000000⟩]

theorem order_statistics_mixed :
    ∃ latency, ofSamples mixed = some latency ∧ ofSamples mixed.reverse = some latency ∧
      latency.median = .negativeZero ∧ latency.p99 = ⟨0x7ff8000000000000⟩ := by
  obtain ⟨none, same, ordered, unique, sums⟩ := order_statistics mixed
  obtain rfl := (unique [⟨0xfff8000000000001⟩, ⟨0xfff0000000000000⟩, .negativeZero, .zero,
    ⟨0x7ff8000000000000⟩]).mp (by decide)
  cases summed : ofSamples mixed with
  | none => cases none.mp summed
  | some latency =>
    obtain ⟨-, -, ⟨⟨_, median⟩, -, -, -⟩, -, ⟨⟨_, p99⟩, -, -, -⟩, -, -⟩ := sums latency summed
    exact ⟨latency, rfl, (same _ mixed.reverse_perm).trans summed, median, p99⟩

end VectorLink.Latency
