import Firestarter.ConfigRuns
import Firestarter.RoundedQuotient

/-! The reading of the rail in 32 bits against the same reading in exact arithmetic: for every
calibration the firmware evaluates no product wraps and the folded form stays close below, and a
reading above the limit of the voltage window is lost only just above it. -/
namespace Firestarter

open RoundedQuotient Interactive

/-! ## Exact arithmetic -/

/-- The scaled divider ratio, `bandgap_mv * (r1 + r2)`. -/
def ratioNumerator (r1 r2 bandgapMv : U32) : Nat := bandgapMv.toNat * (r1.toNat + r2.toNat)

/-- The rail in millivolts, rounded once and saturated to 16 bits. -/
def exactVoltageMv (adc bandgapAdc r1 r2 bandgapMv : U32) : Nat :=
  min 0xFFFF
    (roundDiv (adc.toNat * ratioNumerator r1 r2 bandgapMv) (bandgapAdc.toNat * r2.toNat))

/-- No operation of the plausibility test and of the scaling leaves 32 bits. -/
structure WrapFree (adc bandgapAdc r1 r2 bandgapMv : U32) : Prop where
  sum : r1.toNat + r2.toNat < 2 ^ 32
  product : bandgapMv.toNat * (r1 + r2).toNat < 2 ^ 32
  scaled : adc.toNat * (bandgapMv * (r1 + r2) / r2).toNat < 2 ^ 32
  rounded : (adc * (bandgapMv * (r1 + r2) / r2)).toNat + (bandgapAdc / 2).toNat < 2 ^ 32

/-! ## What the plausibility test promises -/

variable {b : Build} {r1 r2 bandgapMv adc bandgapAdc : U32}

/-- A calibration the scaling evaluates, in whole numbers. -/
structure Evaluable (b : Build) (r1 r2 bandgapMv : U32) : Prop where
  divides : 0 < r2.toNat
  sum : (r1 + r2).toNat = r1.toNat + r2.toNat
  product : (bandgapMv * (r1 + r2)).toNat = ratioNumerator r1 r2 bandgapMv
  small : ratioNumerator r1 r2 bandgapMv < 2 ^ 32
  factor : ratioNumerator r1 r2 bandgapMv / r2.toNat ≤ (rurpScaleKMax b).toNat

theorem evaluable_of_credible (credible : rurpCalibrationIsPlausible b r1 r2 bandgapMv = true) :
    Evaluable b r1 r2 bandgapMv := by
  unfold rurpCalibrationIsPlausible at credible
  dsimp only at credible
  split at credible
  · cases credible
  rename_i nonzero
  split at credible
  · cases credible
  rename_i bandgap
  split at credible
  · cases credible
  rename_i bounded
  split at credible
  · cases credible
  rename_i scale
  simp only [Bool.or_eq_true, decide_eq_true_eq, not_or, BitVec.not_lt, gt_iff_lt] at bandgap bounded
  have divides : 0 < r2.toNat := by
    have : r2.toNat ≠ 0 := fun zero => nonzero (beq_iff_eq.mpr (BitVec.eq_of_toNat_eq zero))
    omega
  have noWrap : r1.toNat ≤ (r1 + r2).toNat := bounded.1
  have sum : (r1 + r2).toNat = r1.toNat + r2.toNat := by
    rw [BitVec.toNat_add] at noWrap ⊢
    have := r1.isLt
    have := r2.isLt
    omega
  have room : (r1 + r2).toNat ≤ 3579139 := bounded.2
  have bandgapHigh : bandgapMv.toNat ≤ 1200 := bandgap.2
  have small : ratioNumerator r1 r2 bandgapMv < 2 ^ 32 := by
    have bound : bandgapMv.toNat * (r1 + r2).toNat ≤ 1200 * 3579139 :=
      Nat.mul_le_mul bandgapHigh room
    rw [sum] at bound
    exact Nat.lt_of_le_of_lt bound (by decide)
  have product : (bandgapMv * (r1 + r2)).toNat = ratioNumerator r1 r2 bandgapMv := by
    rw [BitVec.toNat_mul, sum]
    exact Nat.mod_eq_of_lt small
  refine ⟨divides, sum, product, small, ?_⟩
  rw [gt_iff_lt, BitVec.lt_def, not_lt, BitVec.toNat_udiv, product] at scale
  exact scale

/-- The largest factor and count leave room for the half that rounds. -/
theorem scaled_fits (evaluable : Evaluable b r1 r2 bandgapMv) (adcRange : adc < b.adcFullScale)
    (bandgapRange : bandgapAdc < b.adcFullScale) :
    adc.toNat * (ratioNumerator r1 r2 bandgapMv / r2.toNat) + bandgapAdc.toNat / 2 < 2 ^ 32 := by
  have adcRange : adc.toNat < b.adcFullScale.toNat := adcRange
  have bandgapRange : bandgapAdc.toNat < b.adcFullScale.toNat := bandgapRange
  have factor := evaluable.factor
  have worst : adc.toNat * (ratioNumerator r1 r2 bandgapMv / r2.toNat) ≤
      (b.adcFullScale.toNat - 1) * (rurpScaleKMax b).toNat := Nat.mul_le_mul (by omega) factor
  have room : (b.adcFullScale.toNat - 1) * (rurpScaleKMax b).toNat + b.adcFullScale.toNat / 2 <
      2 ^ 32 := by
    unfold rurpScaleKMax Build.adcFullScale
    split <;> decide
  omega

theorem wrapFree_of_credible (credible : rurpCalibrationIsPlausible b r1 r2 bandgapMv = true)
    (adcRange : adc < b.adcFullScale) (bandgapRange : bandgapAdc < b.adcFullScale) :
    WrapFree adc bandgapAdc r1 r2 bandgapMv := by
  have evaluable := evaluable_of_credible credible
  have fits := scaled_fits evaluable adcRange bandgapRange
  have factor : (bandgapMv * (r1 + r2) / r2).toNat =
      ratioNumerator r1 r2 bandgapMv / r2.toNat := by
    rw [BitVec.toNat_udiv, evaluable.product]
  have scaled : adc.toNat * (bandgapMv * (r1 + r2) / r2).toNat < 2 ^ 32 := by
    rw [factor]
    omega
  refine ⟨?_, ?_, scaled, ?_⟩
  · rw [← evaluable.sum]
    exact (r1 + r2).isLt
  · rw [evaluable.sum]
    exact evaluable.small
  · have half : (bandgapAdc / 2).toNat = bandgapAdc.toNat / 2 := BitVec.toNat_udiv
    rw [BitVec.toNat_mul, Nat.mod_eq_of_lt scaled, factor, half]
    exact fits

theorem saturateU16_toNat (v : U32) : (saturateU16 v).toNat = min 0xFFFF v.toNat := by
  unfold saturateU16
  split
  · rename_i high
    have high : 0xFFFF < v.toNat := high
    rw [Nat.min_eq_left (by omega)]
    rfl
  · rename_i low
    have low : v.toNat ≤ 0xFFFF := Nat.not_lt.mp low
    rw [BitVec.toNat_setWidth, Nat.min_eq_right low]
    exact Nat.mod_eq_of_lt (by omega)

/-- The reading is the folded quotient of whole numbers, rounded and saturated. -/
theorem scaleVoltage_toNat (credible : rurpCalibrationIsPlausible b r1 r2 bandgapMv = true)
    (adcRange : adc < b.adcFullScale) (positive : 1 ≤ bandgapAdc)
    (bandgapRange : bandgapAdc < b.adcFullScale) :
    (rurpScaleVoltageMv b adc bandgapAdc r1 r2 bandgapMv).toNat =
      min 0xFFFF
        (roundDiv (adc.toNat * (ratioNumerator r1 r2 bandgapMv / r2.toNat)) bandgapAdc.toNat) := by
  have evaluable := evaluable_of_credible credible
  have wrapFree := wrapFree_of_credible credible adcRange bandgapRange
  have factor : (bandgapMv * (r1 + r2) / r2).toNat =
      ratioNumerator r1 r2 bandgapMv / r2.toNat := by
    rw [BitVec.toNat_udiv, evaluable.product]
  have counted : (bandgapAdc == 0) = false := by
    rw [beq_eq_false_iff_ne]
    rintro rfl
    exact absurd positive (by decide)
  have half : (bandgapAdc / 2).toNat = bandgapAdc.toNat / 2 := BitVec.toNat_udiv
  unfold rurpScaleVoltageMv
  rw [counted, credible, Bool.not_true, Bool.or_false, if_neg nofun]
  dsimp only
  rw [saturateU16_toNat, BitVec.toNat_udiv, BitVec.toNat_add,
    Nat.mod_eq_of_lt wrapFree.rounded, BitVec.toNat_mul, Nat.mod_eq_of_lt wrapFree.scaled, factor,
    half]
  rfl

/-! ## The bound -/

theorem min_le_min_add {c x y z : Nat} (le : x ≤ y + z) : min c x ≤ min c y + z := by omega

/-- The 32-bit reading against the exact one. -/
theorem scale_voltage_bounds (credible : rurpCalibrationIsPlausible b r1 r2 bandgapMv = true)
    (adcRange : adc < b.adcFullScale) (positive : 1 ≤ bandgapAdc)
    (bandgapRange : bandgapAdc < b.adcFullScale) :
    WrapFree adc bandgapAdc r1 r2 bandgapMv ∧
      (rurpScaleVoltageMv b adc bandgapAdc r1 r2 bandgapMv).toNat ≤
        exactVoltageMv adc bandgapAdc r1 r2 bandgapMv ∧
      exactVoltageMv adc bandgapAdc r1 r2 bandgapMv ≤
        (rurpScaleVoltageMv b adc bandgapAdc r1 r2 bandgapMv).toNat +
          ceilDiv adc.toNat bandgapAdc.toNat ∧
      (∀ adc' : U32, adc ≤ adc' → adc' < b.adcFullScale →
        rurpScaleVoltageMv b adc bandgapAdc r1 r2 bandgapMv ≤
          rurpScaleVoltageMv b adc' bandgapAdc r1 r2 bandgapMv) ∧
      (r2.toNat ∣ ratioNumerator r1 r2 bandgapMv →
        (rurpScaleVoltageMv b adc bandgapAdc r1 r2 bandgapMv).toNat =
          exactVoltageMv adc bandgapAdc r1 r2 bandgapMv) := by
  have divides := (evaluable_of_credible credible).divides
  have counted : 0 < bandgapAdc.toNat := positive
  have reading := scaleVoltage_toNat credible adcRange positive bandgapRange
  refine ⟨wrapFree_of_credible credible adcRange bandgapRange, ?_, ?_, ?_, ?_⟩
  · rw [reading]
    exact min_le_min_left _ (folded_le_exact divides)
  · rw [reading]
    exact min_le_min_add (exact_le_folded_add divides counted)
  · intro adc' higher adcRange'
    have higher : adc.toNat ≤ adc'.toNat := higher
    rw [BitVec.le_def, reading, scaleVoltage_toNat credible adcRange' positive bandgapRange]
    exact min_le_min_left _ (roundDiv_mono (Nat.mul_le_mul_right _ higher) _)
  · intro whole
    rw [reading, folded_eq_exact divides whole]
    rfl

/-- The shipped calibration at a reading of the middle of the scale. -/
theorem scale_voltage_shipped :
    rurpScaleVoltageMv ⟨.uno, false⟩ 512 225 valueR1 valueR2 1100 ≤
      rurpScaleVoltageMv ⟨.uno, false⟩ 513 225 valueR1 valueR2 1100 :=
  (@scale_voltage_bounds ⟨.uno, false⟩ valueR1 valueR2 1100 512 225 (by decide) (by decide)
    (by decide) (by decide)).2.2.2.1 513 (by decide) (by decide)

/-! ## The limit of the voltage window -/

/-- The check reports a high rail. -/
def ReportsHigh (env : Env) (w : World) (vppMv : U16) : Prop :=
  memUtilCheckVppWindow vppMv env w =
    memUtilReportVoltage vppMv w.handle.vppMv
      (if w.handle.isFlagSet flagForce then msgWarnVppHighMv else msgErrVppHighMv)
      (if w.handle.isFlagSet flagForce then responseCodeWarning else responseCodeError) env w

theorem reportsHigh_of_above {env : Env} {w : World} {vppMv : U16}
    (above : (vppHighLimit w.handle.vppMv).toNat < vppMv.toNat) : ReportsHigh env w vppMv := by
  have wide : (vppMv.setWidth 32 : U32).toNat = vppMv.toNat := by
    rw [BitVec.toNat_setWidth]
    omega
  have high : (vppMv.setWidth 32 : U32) > vppHighLimit w.handle.vppMv := by
    rw [gt_iff_lt, BitVec.lt_def, wide]
    exact above
  unfold ReportsHigh memUtilCheckVppWindow
  show (if _ then _ else _ : Fw Unit) env w = _
  rw [if_pos high]

/-- The fold cannot hide this rail: the count makes less than half a unit of what the division of
the ratio cuts off, or the exact reading is above the limit by more millivolts than the count is of
the bandgap count. -/
def FoldClear (adc bandgapAdc r1 r2 bandgapMv : U32) (limit : Nat) : Prop :=
  2 * (adc.toNat * (ratioNumerator r1 r2 bandgapMv % r2.toNat)) < r2.toNat ∨
    limit + ceilDiv adc.toNat bandgapAdc.toNat < exactVoltageMv adc bandgapAdc r1 r2 bandgapMv

instance (limit : Nat) : Decidable (FoldClear adc bandgapAdc r1 r2 bandgapMv limit) :=
  inferInstanceAs (Decidable (_ ∨ _))

/-- Where the divider ratio is a whole number of millivolts, the fold is clear of every limit. -/
theorem foldClear_of_whole (positive : 0 < r2.toNat)
    (whole : r2.toNat ∣ ratioNumerator r1 r2 bandgapMv) (limit : Nat) :
    FoldClear adc bandgapAdc r1 r2 bandgapMv limit := by
  refine .inl ?_
  rw [Nat.mod_eq_zero_of_dvd whole, Nat.mul_zero, Nat.mul_zero]
  exact positive

/-- A rail above the limit that the fold cannot hide is read above it and reported. -/
theorem high_rail_seen {config : Configuration} (valid : rurpConfigIsValid b config = true)
    (adcRange : adc < b.adcFullScale) (positive : 1 ≤ bandgapAdc)
    (bandgapRange : bandgapAdc < b.adcFullScale) (target : U16)
    (clear : FoldClear adc bandgapAdc config.r1 config.r2 (config.bandgapMv.setWidth 32)
      (vppHighLimit target).toNat)
    (above : (vppHighLimit target).toNat <
      exactVoltageMv adc bandgapAdc config.r1 config.r2 (config.bandgapMv.setWidth 32)) :
    (vppHighLimit target).toNat < (rurpScaleVoltageMv b adc bandgapAdc config.r1 config.r2
        (config.bandgapMv.setWidth 32)).toNat ∧
      ∀ (env : Env) (w : World), w.handle.vppMv = target →
        ReportsHigh env w (rurpScaleVoltageMv b adc bandgapAdc config.r1 config.r2
          (config.bandgapMv.setWidth 32)) := by
  have credible := calibrationIsPlausible_of_valid valid
  have reading := scaleVoltage_toNat credible adcRange positive bandgapRange
  have high : (vppHighLimit target).toNat < (rurpScaleVoltageMv b adc bandgapAdc config.r1
      config.r2 (config.bandgapMv.setWidth 32)).toNat := by
    rcases clear with small | apart
    · rw [reading, folded_eq_exact_of_small small]
      exact above
    · have divides := (evaluable_of_credible credible).divides
      have near := min_le_min_add (c := 0xFFFF) (exact_le_folded_add (a := adc.toNat)
        (n := ratioNumerator config.r1 config.r2 (config.bandgapMv.setWidth 32)) divides positive)
      rw [reading]
      exact Nat.lt_of_add_lt_add_right (Nat.lt_of_lt_of_le apart near)
  refine ⟨high, fun env w same => reportsHigh_of_above ?_⟩
  rw [same]
  exact high

/-- A divider a little off its nominal values. -/
def offNominal : Configuration := ⟨configVersion, 270000, 43500, 0xFF, 1100⟩

/-- One count further the reading is well above the limit of a 13 V target. -/
theorem high_rail_seen_off_nominal :
    (vppHighLimit 13000).toNat <
      (rurpScaleVoltageMv ⟨.uno, false⟩ 391 229 offNominal.r1 offNominal.r2 1100).toNat :=
  (@high_rail_seen ⟨.uno, false⟩ 391 229 offNominal (by decide) (by decide) (by decide)
    (by decide) 13000 (.inr (by decide +kernel)) (by decide +kernel)).1

/-- The exact reading is 13501 mV, the folded one 13500 mV, which is the limit itself. -/
theorem high_rail_hidden :
    ¬ ∀ (b : Build) (config : Configuration) (adc bandgapAdc : U32) (target : U16),
      rurpConfigIsValid b config = true → adc < b.adcFullScale → 1 ≤ bandgapAdc →
        bandgapAdc < b.adcFullScale →
        (vppHighLimit target).toNat <
          exactVoltageMv adc bandgapAdc config.r1 config.r2 (config.bandgapMv.setWidth 32) →
        (vppHighLimit target).toNat < (rurpScaleVoltageMv b adc bandgapAdc config.r1 config.r2
          (config.bandgapMv.setWidth 32)).toNat := by
  intro claim
  have missed := claim ⟨.uno, false⟩ offNominal 390 229 13000 (by decide) (by decide) (by decide)
    (by decide) (by decide +kernel)
  exact absurd missed (by decide +kernel)

end Firestarter
