import Mathlib.Data.Rat.Floor
import Mathlib.Algebra.BigOperators.Group.List.Lemmas
import ControlTower.Foundation.Means

/-! Metrics of a binary evaluation: the confusion counts, precision and recall, the
Brier score and the calibration error over bins of confidence. Numbers are rational;
a division by zero and an index out of range raise. -/

set_option autoImplicit false

namespace ControlTower

open Foundation.Means

structure BinaryEvaluationRecord where
  predictedPositive : Bool
  actualPositive : Bool
  confidence : Rat
  deriving DecidableEq

/-- The metrics without the mean entropy. -/
structure BinaryEvaluationMetrics where
  count : Nat
  truePositive : Nat
  falsePositive : Nat
  trueNegative : Nat
  falseNegative : Nat
  precision : Rat
  /-- `recall`. -/
  recallRate : Rat
  f1 : Rat
  brierScore : Rat
  expectedCalibrationError : Rat
  deriving DecidableEq

section Metrics

/-- `part / whole`; none where it raises. -/
def divide (part whole : Rat) : Option Rat := if whole = 0 then none else some (part / whole)

/-- `part / whole if whole else 0.0`. -/
def divideOrZero (part whole : Rat) : Option Rat := if whole ≠ 0 then divide part whole else some 0

/-- `float(value)` of a flag. -/
def flagNumber (value : Bool) : Rat := if value then 1 else 0

/-- `int(value)`. -/
def truncate (value : Rat) : Int := value.num.tdiv value.den

/-- The place of an index in a list of a length, from the end if it is negative; none where it raises. -/
def listIndex (length : Nat) (index : Int) : Option Nat :=
  if 0 ≤ index ∧ index < length then some index.toNat
  else if index < 0 ∧ -(length : Int) ≤ index then some (length + index).toNat
  else none

def clampedConfidence (row : BinaryEvaluationRecord) : Rat := min 1 (max 0 row.confidence)

def binIndex (length : Nat) (row : BinaryEvaluationRecord) : Int :=
  min ((length : Int) - 1) (truncate (clampedConfidence row * length))

/-- The loop that appends each row to its bin. -/
def fillBins : List (List BinaryEvaluationRecord) → List BinaryEvaluationRecord →
    Option (List (List BinaryEvaluationRecord))
  | bins, [] => some bins
  | bins, row :: rows => do
      let index ← listIndex bins.length (binIndex bins.length row)
      fillBins (put bins index row) rows

def calibrationBinsOf (rows : List BinaryEvaluationRecord) (calibrationBins : Int) :
    Option (List (List BinaryEvaluationRecord)) :=
  fillBins (List.replicate (max 1 calibrationBins).toNat []) rows

/-- The share of one bin in the calibration error. -/
def addBucket (count : Nat) (total : Rat) (bucket : List BinaryEvaluationRecord) : Option Rat :=
  if bucket = [] ∨ count = 0 then some total
  else do
    let meanConfidence ← divide (bucket.map clampedConfidence).sum bucket.length
    let accuracy ← divide (bucket.map fun row => flagNumber row.actualPositive).sum bucket.length
    let share ← divide bucket.length count
    return total + share * |meanConfidence - accuracy|

def brierScoreOf (rows : List BinaryEvaluationRecord) : Option Rat :=
  if rows ≠ [] then
    divide (rows.map fun row => (clampedConfidence row - flagNumber row.actualPositive) ^ 2).sum rows.length
  else some 0

def computeBinaryEvaluationMetrics (rows : List BinaryEvaluationRecord) (calibrationBins : Int) :
    Option BinaryEvaluationMetrics := do
  let tp := rows.countP fun row => row.predictedPositive && row.actualPositive
  let fp := rows.countP fun row => row.predictedPositive && !row.actualPositive
  let tn := rows.countP fun row => !row.predictedPositive && !row.actualPositive
  let fn := rows.countP fun row => !row.predictedPositive && row.actualPositive
  let precision ← divideOrZero tp (tp + fp)
  let recallRate ← divideOrZero tp (tp + fn)
  let f1 ← divideOrZero (2 * precision * recallRate) (precision + recallRate)
  let brier ← brierScoreOf rows
  let bins ← calibrationBinsOf rows calibrationBins
  let ece ← bins.foldlM (addBucket rows.length) 0
  return {
    count := rows.length
    truePositive := tp
    falsePositive := fp
    trueNegative := tn
    falseNegative := fn
    precision
    recallRate
    f1
    brierScore := brier
    expectedCalibrationError := ece }

end Metrics

section Divisions

theorem divide_some (part : Rat) {whole : Rat} (some_ : whole ≠ 0) : divide part whole = some (part / whole) :=
  if_neg some_

/-- A guarded division never raises. -/
theorem divideOrZero_some (part whole : Rat) : divideOrZero part whole = some (part / whole) := by
  unfold divideOrZero
  by_cases zero : whole = 0
  · rw [if_neg (not_not.mpr zero), zero, div_zero]
  · rw [if_pos zero, divide_some part zero]

theorem inUnit_flag (value : Bool) : InUnit (flagNumber value) := by
  cases value
  · exact unit_zero
  · exact ⟨zero_le_one, le_refl 1⟩

end Divisions

section Bins

theorem truncate_nonneg {value : Rat} (nonnegative : 0 ≤ value) : 0 ≤ truncate value :=
  Int.tdiv_nonneg (Rat.num_nonneg.mpr nonnegative) (Int.natCast_nonneg _)

/-- The bin of a row is one of the bins. -/
theorem binIndex_inside {length : Nat} (positive : 0 < length) (row : BinaryEvaluationRecord) :
    0 ≤ binIndex length row ∧ binIndex length row < length := by
  have value : 0 ≤ truncate (clampedConfidence row * length) :=
    truncate_nonneg (mul_nonneg (unit_clamp row.confidence).1 (Nat.cast_nonneg length))
  unfold binIndex
  omega

theorem listIndex_bin {length : Nat} (positive : 0 < length) (row : BinaryEvaluationRecord) :
    listIndex length (binIndex length row) = some (binIndex length row).toNat :=
  if_pos (binIndex_inside positive row)

/-- Every row falls into exactly one bin, the one of its index. -/
theorem fillBins_places (rows : List BinaryEvaluationRecord) {bins : List (List BinaryEvaluationRecord)}
    (positive : 0 < bins.length) :
    ∃ filled, fillBins bins rows = some filled ∧ filled.length = bins.length ∧
      filled.flatten.Perm (bins.flatten ++ rows) ∧
      ∀ index, filled[index]?.getD [] =
        bins[index]?.getD [] ++ rows.filter fun row => decide (index = (binIndex bins.length row).toNat) := by
  induction rows generalizing bins with
  | nil => exact ⟨bins, rfl, rfl, by simp, by simp⟩
  | cons row rows ih =>
    have inside := binIndex_inside positive row
    obtain ⟨filled, done, size, perm, places⟩ :=
      @ih (put bins (binIndex bins.length row).toNat row) (by rw [length_put]; exact positive)
    have target : (binIndex bins.length row).toNat < bins.length := by omega
    rw [length_put] at size places
    refine ⟨filled, ?_, size, ?_, ?_⟩
    · unfold fillBins
      rw [listIndex_bin positive]
      exact done
    · calc filled.flatten
        _ |>.Perm ((put bins (binIndex bins.length row).toNat row).flatten ++ rows) := perm
        _ |>.Perm ((row :: bins.flatten) ++ rows) := (put_flatten_perm target row).append_right rows
        _ |>.Perm (bins.flatten ++ row :: rows) := List.perm_middle.symm
    · intro index
      rw [places, put_get target, List.append_assoc, List.filter_cons]
      by_cases same : index = (binIndex bins.length row).toNat
      · rw [if_pos same, if_pos (decide_eq_true same)]
        rfl
      · rw [if_neg same, if_neg (by simpa using same)]
        rfl

theorem calibrationBins_positive (calibrationBins : Int) : 0 < (max 1 calibrationBins).toNat := by omega

/-- The bins hold the rows, each in the bin of its index. -/
theorem calibrationBinsOf_places (rows : List BinaryEvaluationRecord) (calibrationBins : Int) :
    ∃ bins, calibrationBinsOf rows calibrationBins = some bins ∧ bins.length = (max 1 calibrationBins).toNat ∧
      bins.flatten.Perm rows ∧
      ∀ index, bins[index]?.getD [] =
        rows.filter fun row => decide (index = (binIndex (max 1 calibrationBins).toNat row).toNat) := by
  have size : (List.replicate (max 1 calibrationBins).toNat ([] : List BinaryEvaluationRecord)).length =
      (max 1 calibrationBins).toNat := List.length_replicate
  have positive := calibrationBins_positive calibrationBins
  rw [← size] at positive
  obtain ⟨bins, done, length, perm, places⟩ := fillBins_places rows positive
  rw [size] at length places
  refine ⟨bins, done, length, ?_, ?_⟩
  · rwa [List.flatten_replicate_nil, List.nil_append] at perm
  · intro index
    rw [places]
    have empty : (List.replicate (max 1 calibrationBins).toNat ([] : List BinaryEvaluationRecord))[index]?.getD [] = [] := by
      rw [List.getElem?_replicate]
      split <;> rfl
    rw [empty, List.nil_append]

end Bins

section Calibration

theorem inUnit_mean (rows : List BinaryEvaluationRecord) {value : BinaryEvaluationRecord → Rat}
    (each : ∀ row, InUnit (value row)) : InUnit ((rows.map value).sum / rows.length) := by
  apply unit_mean
  · intro number member
    obtain ⟨row, -, rfl⟩ := List.mem_map.mp member
    exact each row
  · exact List.length_map _

/-- One bin adds at most its share of the rows. -/
theorem addBucket_bounds (count : Nat) (total : Rat) (bucket : List BinaryEvaluationRecord) :
    ∃ next, addBucket count total bucket = some next ∧ total ≤ next ∧ next ≤ total + bucket.length / count := by
  have share : 0 ≤ (bucket.length : Rat) / count := div_nonneg (Nat.cast_nonneg _) (Nat.cast_nonneg _)
  unfold addBucket
  by_cases skipped : bucket = [] ∨ count = 0
  · rw [if_pos skipped]
    exact ⟨total, rfl, le_refl total, le_add_of_nonneg_right share⟩
  · rw [if_neg skipped]
    have rows : (bucket.length : Rat) ≠ 0 :=
      Nat.cast_ne_zero.mpr fun empty => skipped (.inl (List.length_eq_zero_iff.mp empty))
    have whole : (count : Rat) ≠ 0 := Nat.cast_ne_zero.mpr fun zero => skipped (.inr zero)
    rw [divide_some _ rows, divide_some _ rows, divide_some _ whole]
    refine ⟨_, rfl, ?_, ?_⟩
    all_goals
      have gap := unit_distance (inUnit_mean bucket fun row => unit_clamp row.confidence)
        (inUnit_mean bucket fun row => inUnit_flag row.actualPositive)
    · exact le_add_of_nonneg_right (mul_nonneg share gap.1)
    · exact add_le_add_right (mul_le_of_le_one_right share gap.2) total

/-- The calibration error over bins is at most the share of their rows. -/
theorem calibration_bounds (count : Nat) (bins : List (List BinaryEvaluationRecord)) (total : Rat) :
    ∃ error, bins.foldlM (addBucket count) total = some error ∧ total ≤ error ∧
      error ≤ total + bins.flatten.length / count := by
  induction bins generalizing total with
  | nil => exact ⟨total, rfl, le_refl total, by simp⟩
  | cons bucket bins ih =>
    obtain ⟨next, added, more, bounded⟩ := addBucket_bounds count total bucket
    obtain ⟨error, rest, onward, final⟩ := ih next
    refine ⟨error, ?_, le_trans more onward, ?_⟩
    · rw [List.foldlM_cons, added]
      exact rest
    · rw [List.flatten_cons, List.length_append, Nat.cast_add, add_div]
      linarith

end Calibration

section WellDefined

theorem confusion_counts (rows : List BinaryEvaluationRecord) :
    (rows.countP fun row => row.predictedPositive && row.actualPositive) +
        (rows.countP fun row => row.predictedPositive && !row.actualPositive) +
        (rows.countP fun row => !row.predictedPositive && !row.actualPositive) +
        (rows.countP fun row => !row.predictedPositive && row.actualPositive) = rows.length := by
  induction rows with
  | nil => rfl
  | cons row rows ih =>
    simp only [List.countP_cons, List.length_cons]
    cases row.predictedPositive <;> cases row.actualPositive <;> simp <;> omega

theorem brierScoreOf_unit (rows : List BinaryEvaluationRecord) : ∃ brier, brierScoreOf rows = some brier ∧ InUnit brier := by
  unfold brierScoreOf
  by_cases empty : rows = []
  · exact ⟨0, if_neg (not_not.mpr empty), unit_zero⟩
  · have whole : (rows.length : Rat) ≠ 0 := Nat.cast_ne_zero.mpr (mt List.length_eq_zero_iff.mp empty)
    rw [if_pos empty, divide_some _ whole]
    refine ⟨_, rfl, inUnit_mean rows fun row => ?_⟩
    have clamped := unit_clamp row.confidence
    have actual := inUnit_flag row.actualPositive
    apply unit_square
    · exact neg_le_sub_iff_le_add.mpr (le_trans actual.2 (le_add_of_nonneg_left clamped.1))
    · exact le_trans (sub_le_self _ actual.1) clamped.2

/-- The metrics where nothing raises. -/
def metricsOf (rows : List BinaryEvaluationRecord) (brier error : Rat) : BinaryEvaluationMetrics :=
  let tp := rows.countP fun row => row.predictedPositive && row.actualPositive
  let fp := rows.countP fun row => row.predictedPositive && !row.actualPositive
  let fn := rows.countP fun row => !row.predictedPositive && row.actualPositive
  let precision : Rat := tp / (tp + fp)
  let recallRate : Rat := tp / (tp + fn)
  { count := rows.length
    truePositive := tp
    falsePositive := fp
    trueNegative := rows.countP fun row => !row.predictedPositive && !row.actualPositive
    falseNegative := fn
    precision
    recallRate
    f1 := 2 * precision * recallRate / (precision + recallRate)
    brierScore := brier
    expectedCalibrationError := error }

theorem compute_eq {rows : List BinaryEvaluationRecord} {calibrationBins : Int} {brier error : Rat}
    {bins : List (List BinaryEvaluationRecord)} (scored : brierScoreOf rows = some brier)
    (filled : calibrationBinsOf rows calibrationBins = some bins)
    (summed : bins.foldlM (addBucket rows.length) 0 = some error) :
    computeBinaryEvaluationMetrics rows calibrationBins = some (metricsOf rows brier error) := by
  unfold computeBinaryEvaluationMetrics metricsOf
  simp only [divideOrZero_some, scored, filled, summed, Option.bind_eq_bind, Option.bind_some]
  rfl

theorem metricsOf_bounds (rows : List BinaryEvaluationRecord) (brier error : Rat) :
    InUnit (metricsOf rows brier error).precision ∧ InUnit (metricsOf rows brier error).recallRate ∧
      min (metricsOf rows brier error).precision (metricsOf rows brier error).recallRate ≤ (metricsOf rows brier error).f1 ∧
      (metricsOf rows brier error).f1 ≤ max (metricsOf rows brier error).precision (metricsOf rows brier error).recallRate := by
  unfold metricsOf
  dsimp only
  generalize (rows.countP fun row => row.predictedPositive && row.actualPositive) = tp
  generalize (rows.countP fun row => row.predictedPositive && !row.actualPositive) = fp
  generalize (rows.countP fun row => !row.predictedPositive && row.actualPositive) = fn
  have precision : InUnit ((tp : Rat) / (tp + fp)) :=
    unit_part (Nat.cast_nonneg tp) (le_add_of_nonneg_right (Nat.cast_nonneg fp))
  have recallRate : InUnit ((tp : Rat) / (tp + fn)) :=
    unit_part (Nat.cast_nonneg tp) (le_add_of_nonneg_right (Nat.cast_nonneg fn))
  have between := harmonic_bounds precision.1 recallRate.1
  exact ⟨precision, recallRate, between.1, between.2⟩

/-- For all records and any number of bins, the metrics are computed and within their bounds. -/
theorem evaluation_metrics_well_defined (rows : List BinaryEvaluationRecord) (calibrationBins : Int) :
    ∃ metrics bins, computeBinaryEvaluationMetrics rows calibrationBins = some metrics ∧
      calibrationBinsOf rows calibrationBins = some bins ∧ bins.length = (max 1 calibrationBins).toNat ∧
      bins.flatten.Perm rows ∧
      (∀ row ∈ rows, ∃! index, index < bins.length ∧ row ∈ bins[index]?.getD []) ∧
      metrics.count = rows.length ∧
      metrics.truePositive + metrics.falsePositive + metrics.trueNegative + metrics.falseNegative = metrics.count ∧
      InUnit metrics.precision ∧ InUnit metrics.recallRate ∧ InUnit metrics.f1 ∧ InUnit metrics.brierScore ∧
      InUnit metrics.expectedCalibrationError ∧
      min metrics.precision metrics.recallRate ≤ metrics.f1 ∧ metrics.f1 ≤ max metrics.precision metrics.recallRate := by
  obtain ⟨bins, filled, size, perm, places⟩ := calibrationBinsOf_places rows calibrationBins
  obtain ⟨brier, scored, brierUnit⟩ := brierScoreOf_unit rows
  obtain ⟨error, summed, low, high⟩ := calibration_bounds rows.length bins 0
  obtain ⟨precision, recallRate, above, below⟩ := metricsOf_bounds rows brier error
  -- the shares of all bins add up to one
  have calibrated : error ≤ 1 := by
    rw [perm.length_eq, zero_add] at high
    exact le_trans high (unit_part (Nat.cast_nonneg _) (le_refl _)).2
  refine ⟨metricsOf rows brier error, bins, compute_eq scored filled summed, filled, size, perm, ?_, rfl,
    confusion_counts rows, precision, recallRate, ?_, brierUnit, ⟨low, calibrated⟩, above, below⟩
  · intro row member
    refine ⟨(binIndex (max 1 calibrationBins).toNat row).toNat, ⟨?_, ?_⟩, ?_⟩
    · have inside := binIndex_inside (calibrationBins_positive calibrationBins) row
      omega
    · rw [places]
      exact List.mem_filter.mpr ⟨member, decide_eq_true rfl⟩
    · intro index found
      have placed := found.2
      rw [places] at placed
      exact of_decide_eq_true (List.mem_filter.mp placed).2
  · constructor
    · exact le_trans (le_min precision.1 recallRate.1) above
    · exact le_trans below (max_le precision.2 recallRate.2)

end WellDefined

end ControlTower
