import Firestarter.ConfigMigration
import Firestarter.RoundedQuotient

/-! The two readings of the PY32 board in exact arithmetic. The rail reading saturates, as the
readings of the other boards do; the supply reading under it is only cut to its low 16 bits. -/
namespace Firestarter

open RoundedQuotient Interactive Interactive.Prog

/-! ## Exact arithmetic -/

/-- The supply in millivolts by a count of the 1.2 V reference. -/
def exactVccMv (reference : U16) : Nat := min 0xFFFF (roundDiv (4095 * 1200) reference.toNat)

/-- The rail in millivolts behind the divider, by the supply and a count. -/
def exactRailMv (vccMv : Nat) (adc : U16) (config : Configuration) : Nat :=
  min 0xFFFF
    (roundDiv (adc.toNat * vccMv * (config.r1.toNat + config.r2.toNat))
      (4095 * config.r2.toNat))

/-- `rurp_read_vcc_mv` by its count. -/
def vccReading (reference : U16) : U16 := py32VccMv (reference.setWidth 32)

/-- `rurp_read_voltage_mv` by its two counts. -/
def railReading (reference adc : U16) (config : Configuration) : U16 :=
  py32VoltageMv (vccReading reference) adc config.r1 config.r2

/-- Both readings are the exact quotients or 65535, and no larger reference count gives a larger
rail. -/
structure Saturates (reference adc : U16) (config : Configuration) : Prop where
  vcc : (vccReading reference).toNat = exactVccMv reference
  rail : (railReading reference adc config).toNat = exactRailMv (exactVccMv reference) adc config
  falling : ∀ reference' : U16, reference ≤ reference' → reference' ≤ 4095 →
    railReading reference' adc config ≤ railReading reference adc config

variable {env : Env} {w : World} {b : Build} {config : Configuration} {reference adc : U16}

/-! ## The readings as the board makes them -/

theorem ends_rurpReadVccMv (py32 : env.build.board = .py32f071) :
    Ends rurpReadVccMv env w
      (fun mv w' => mv = vccReading (env.bandgapAdc w) ∧ w' = { w with asked := w.asked + 1 })
      (fun _ => False) := by
  unfold rurpReadVccMv rurpGetBandgapAdcReading ask
  simp [py32, vccReading]

theorem ends_rurpReadVoltageMv (py32 : env.build.board = .py32f071) :
    Ends rurpReadVoltageMv env w
      (fun mv _ => mv = railReading (env.bandgapAdc w)
        (env.dividerAdc { w with asked := w.asked + 1 }) w.config)
      (fun _ => False) := by
  unfold rurpReadVoltageMv
  simp only [ends_bind, ends_build, py32, beq_self_eq_true, if_true]
  refine (ends_rurpReadVccMv py32).mono (fun mv w₁ read => ?_) fun _ => id
  obtain ⟨rfl, rfl⟩ := read
  exact Eq.refl (railReading _ _ w.config)

/-! ## The supply -/

/-- The quotient of whole numbers, cut to 16 bits. -/
theorem vccReading_toNat (counted : reference ≠ 0) :
    (vccReading reference).toNat = roundDiv (4095 * 1200) reference.toNat % 2 ^ 16 := by
  have wide : (reference.setWidth 32 : U32).toNat = reference.toNat := by
    rw [BitVec.toNat_setWidth]
    omega
  have nonzero : ((reference.setWidth 32 : U32) == 0) = false := by
    rw [beq_eq_false_iff_ne]
    intro zero
    refine counted (BitVec.eq_of_toNat_eq ?_)
    rw [← wide, zero]
    rfl
  have half : ((reference.setWidth 32 : U32) / 2).toNat = reference.toNat / 2 := by
    rw [BitVec.toNat_udiv, wide]
    rfl
  have full : (4095 * 1200 : U32).toNat = 4095 * 1200 := rfl
  have sum : ((4095 * 1200 : U32) + reference.setWidth 32 / 2).toNat =
      4095 * 1200 + reference.toNat / 2 := by
    rw [BitVec.toNat_add, half, full]
    omega
  unfold vccReading py32VccMv
  rw [nonzero, if_neg Bool.false_ne_true, BitVec.toNat_setWidth, BitVec.toNat_udiv, sum, wide]
  rfl

/-- From a count of 75 on the quotient fits. -/
theorem exactVcc_fits (enough : 75 ≤ reference) :
    roundDiv (4095 * 1200) reference.toNat ≤ 65520 := by
  have enough : 75 ≤ reference.toNat := enough
  exact (roundDiv_anti (by decide) enough _).trans (by decide)

theorem vccReading_exact (enough : 75 ≤ reference) :
    (vccReading reference).toNat = exactVccMv reference := by
  have fits := exactVcc_fits enough
  have counted : reference ≠ 0 := by
    rintro rfl
    exact absurd enough (by decide)
  unfold exactVccMv
  rw [vccReading_toNat counted]
  omega

/-- Below it the quotient does not fit, and what is left of it is not 65535. -/
theorem vccReading_wraps (counted : reference ≠ 0) (few : reference < 75) :
    (vccReading reference).toNat ≠ exactVccMv reference := by
  have few : reference.toNat < 75 := few
  have positive : 0 < reference.toNat := by
    refine Nat.pos_of_ne_zero fun zero => counted (BitVec.eq_of_toNat_eq ?_)
    exact zero
  have wraps : ∀ n < 75, 0 < n →
      roundDiv (4095 * 1200) n % 2 ^ 16 ≠ min 0xFFFF (roundDiv (4095 * 1200) n) := by decide
  rw [vccReading_toNat counted]
  exact wraps _ few positive

/-! ## The rail -/

/-- The resistances of a valid record, in whole numbers. -/
theorem resistances_of_valid (valid : rurpConfigIsValid b config = true) :
    config.r1.toNat ≤ 337500 ∧ 33000 ≤ config.r2.toNat ∧ config.r2.toNat ≤ 55000 := by
  obtain ⟨⟨r1Low, r1High⟩, ⟨r2Low, r2High⟩, -⟩ := rurpConfigIsValid_iff.mp valid
  obtain ⟨-, r1High⟩ := toNat_of_signed_band r1Low r1High (by decide) (by decide)
  obtain ⟨r2Low, r2High⟩ := toNat_of_signed_band r2Low r2High (by decide) (by decide)
  exact ⟨r1High, r2Low, r2High⟩

theorem toNat_signExtend_small {v : U32} (small : v.toNat < 2 ^ 31) :
    (v.signExtend 64).toNat = v.toNat := by
  rw [BitVec.signExtend_eq_setWidth_of_msb_false (BitVec.msb_eq_false_iff_two_mul_lt.mpr (by omega)),
    BitVec.toNat_setWidth]
  omega

theorem saturate64_toNat (v : BitVec 64) :
    (if v > 0xFFFF then 0xFFFF else v.setWidth 16 : U16).toNat = min 0xFFFF v.toNat := by
  split
  · rename_i high
    have high : 0xFFFF < v.toNat := high
    exact (Nat.min_eq_left (Nat.le_of_lt high)).symm
  · rename_i low
    have low : v.toNat ≤ 0xFFFF := Nat.not_lt.mp low
    rw [BitVec.toNat_setWidth, Nat.min_eq_right low]
    exact Nat.mod_eq_of_lt (Nat.lt_succ_of_le low)

/-- No product of the rail reading wraps, and its quotient saturates. -/
theorem railReading_toNat (valid : rurpConfigIsValid b config = true) (adcRange : adc ≤ 4095)
    (vccMv : U16) :
    (py32VoltageMv vccMv adc config.r1 config.r2).toNat = exactRailMv vccMv.toNat adc config := by
  obtain ⟨r1High, r2Low, r2High⟩ := resistances_of_valid valid
  have adcRange : adc.toNat ≤ 4095 := adcRange
  have vccRange := vccMv.isLt
  have sum : (config.r1 + config.r2).toNat = config.r1.toNat + config.r2.toNat := by
    rw [BitVec.toNat_add]
    omega
  have sumWide : ((config.r1 + config.r2).signExtend 64).toNat =
      config.r1.toNat + config.r2.toNat := by
    rw [toNat_signExtend_small (by omega), sum]
  have r2Wide : (config.r2.signExtend 64).toNat = config.r2.toNat :=
    toNat_signExtend_small (by omega)
  have product : adc.toNat * vccMv.toNat ≤ 4095 * 65535 := Nat.mul_le_mul adcRange (by omega)
  have numerator : adc.toNat * vccMv.toNat * (config.r1.toNat + config.r2.toNat) ≤
      4095 * 65535 * 392500 := Nat.mul_le_mul product (by omega)
  have numerator_toNat : (adc.setWidth 64 * vccMv.setWidth 64 *
      (config.r1 + config.r2).signExtend 64 : BitVec 64).toNat =
        adc.toNat * vccMv.toNat * (config.r1.toNat + config.r2.toNat) := by
    have adcWide : (adc.setWidth 64 : BitVec 64).toNat = adc.toNat := by
      rw [BitVec.toNat_setWidth]
      omega
    have vccWide : (vccMv.setWidth 64 : BitVec 64).toNat = vccMv.toNat := by
      rw [BitVec.toNat_setWidth]
      omega
    rw [BitVec.toNat_mul, BitVec.toNat_mul, adcWide, vccWide, sumWide,
      Nat.mod_eq_of_lt (by omega : adc.toNat * vccMv.toNat < 2 ^ 64)]
    exact Nat.mod_eq_of_lt (by omega)
  have denominator_toNat : (4095 * config.r2.signExtend 64 : BitVec 64).toNat =
      4095 * config.r2.toNat := by
    have full : (4095 : BitVec 64).toNat = 4095 := rfl
    rw [BitVec.toNat_mul, full, r2Wide]
    exact Nat.mod_eq_of_lt (by omega)
  have half : ((4095 * config.r2.signExtend 64 : BitVec 64) / 2).toNat =
      4095 * config.r2.toNat / 2 := by
    rw [BitVec.toNat_udiv, denominator_toNat]
    rfl
  by_cases idle : vccMv = 0 ∨ adc = 0
  · have none : adc.toNat * vccMv.toNat = 0 := by
      rcases idle with rfl | rfl
      · exact Nat.mul_zero _
      · exact Nat.zero_mul _
    have skipped : (vccMv == 0 || adc == 0 || config.r2 == 0) = true := by
      rcases idle with rfl | rfl <;> simp
    have small : 4095 * config.r2.toNat / 2 < 4095 * config.r2.toNat := by omega
    unfold py32VoltageMv exactRailMv roundDiv
    rw [skipped, if_pos rfl, none, Nat.zero_mul, Nat.zero_add, Nat.div_eq_of_lt small]
    rfl
  · obtain ⟨vcc, count⟩ := not_or.mp idle
    have r2 : config.r2 ≠ 0 := by
      intro zero
      rw [zero] at r2Low
      exact absurd r2Low (by decide)
    have reads : (vccMv == 0 || adc == 0 || config.r2 == 0) = false := by
      rw [beq_false_of_ne vcc, beq_false_of_ne count, beq_false_of_ne r2]
      rfl
    have quotient : ((adc.setWidth 64 * vccMv.setWidth 64 * (config.r1 + config.r2).signExtend 64 +
        4095 * config.r2.signExtend 64 / 2) / (4095 * config.r2.signExtend 64) : BitVec 64).toNat =
        roundDiv (adc.toNat * vccMv.toNat * (config.r1.toNat + config.r2.toNat))
          (4095 * config.r2.toNat) := by
      rw [BitVec.toNat_udiv, BitVec.toNat_add, numerator_toNat, half, denominator_toNat,
        Nat.mod_eq_of_lt (by omega)]
      rfl
    unfold py32VoltageMv exactRailMv
    rw [reads, if_neg Bool.false_ne_true]
    dsimp only
    rw [← quotient]
    exact saturate64_toNat _

theorem exactVccMv_anti {reference' : U16} (counted : reference ≠ 0) (le : reference ≤ reference') :
    exactVccMv reference' ≤ exactVccMv reference := by
  have positive : 0 < reference.toNat :=
    Nat.pos_of_ne_zero fun zero => counted (BitVec.eq_of_toNat_eq zero)
  exact min_le_min_left _ (roundDiv_anti positive le _)

theorem exactRailMv_mono {vccMv vccMv' : Nat} (le : vccMv ≤ vccMv') (adc : U16)
    (config : Configuration) : exactRailMv vccMv adc config ≤ exactRailMv vccMv' adc config :=
  min_le_min_left _
    (roundDiv_mono (Nat.mul_le_mul_right _ (Nat.mul_le_mul_left _ le)) _)

theorem saturates_of_enough (valid : rurpConfigIsValid b config = true) (adcRange : adc ≤ 4095)
    (enough : 75 ≤ reference) : Saturates reference adc config := by
  have exact (reference' : U16) (enough : 75 ≤ reference') :
      (railReading reference' adc config).toNat =
        exactRailMv (exactVccMv reference') adc config := by
    unfold railReading
    rw [railReading_toNat valid adcRange, vccReading_exact enough]
  have counted : reference ≠ 0 := by
    rintro rfl
    exact absurd enough (by decide)
  refine ⟨vccReading_exact enough, exact reference enough, fun reference' le _ => ?_⟩
  rw [BitVec.le_def, exact reference enough, exact reference' (BitVec.le_trans enough le)]
  exact exactRailMv_mono (exactVccMv_anti counted le) adc config

/-- The two readings of a PY32 board are functions of its counts, and with a count of the reference
to divide by they saturate exactly from 75 on. -/
theorem py32_readings_saturate_iff (py32 : env.build.board = .py32f071)
    (valid : rurpConfigIsValid env.build w.config = true)
    (adcRange : env.dividerAdc { w with asked := w.asked + 1 } ≤ 4095) :
    (rurpReadVccMv env w).1 = some (vccReading (env.bandgapAdc w)) ∧
    (rurpReadVoltageMv env w).1 = some (railReading (env.bandgapAdc w)
      (env.dividerAdc { w with asked := w.asked + 1 }) w.config) ∧
    ((env.bandgapAdc w ≠ 0 → Saturates (env.bandgapAdc w)
      (env.dividerAdc { w with asked := w.asked + 1 }) w.config) ↔
        env.bandgapAdc w = 0 ∨ 75 ≤ env.bandgapAdc w) := by
  refine ⟨?_, (ends_rurpReadVoltageMv py32).value, ?_, ?_⟩
  · exact ((ends_rurpReadVccMv py32).mono (fun _ _ read => read.1) fun _ => id).value
  · intro saturates
    by_cases counted : env.bandgapAdc w = 0
    · exact .inl counted
    · refine .inr (BitVec.not_lt.mp fun few => ?_)
      exact vccReading_wraps counted few (saturates counted).vcc
  · rintro (none | enough) counted
    · exact absurd none counted
    · exact saturates_of_enough valid adcRange enough

/-- A PY32 board with the shipped configuration and 12 V at the divider. -/
def py32Env (reference : U16) : Env :=
  { Env.still ⟨.py32f071, false⟩ 1 with bandgapAdc := fun _ => reference, dividerAdc := fun _ => 2087 }

def shippedWorld : World :=
  { latches := ⟨0, 0, 0⟩, stored := none, config := ⟨configVersion, valueR1, valueR2, 0xFF, 1100⟩ }

theorem py32_readings_saturate_nominal :
    (rurpReadVoltageMv (py32Env 1489) shippedWorld).1 = some 12002 ∧
      Saturates 1489 2087 shippedWorld.config := by
  obtain ⟨-, rail, saturates⟩ := @py32_readings_saturate_iff (py32Env 1489) shippedWorld rfl
    (by decide) (by decide)
  refine ⟨rail.trans (by decide), saturates.mpr (.inr (by decide)) (by decide)⟩

/-- At a count of 74 the supply reads 869 mV where it should read 65535 mV. -/
theorem vcc_reading_wraps : ¬ ∀ (env : Env) (w : World), env.build.board = .py32f071 →
    rurpConfigIsValid env.build w.config = true → env.bandgapAdc w ≤ 4095 →
    env.dividerAdc { w with asked := w.asked + 1 } ≤ 4095 → env.bandgapAdc w ≠ 0 →
    Saturates (env.bandgapAdc w) (env.dividerAdc { w with asked := w.asked + 1 }) w.config := by
  intro always
  have saturates := always (py32Env 74) shippedWorld rfl (by decide) (by decide) (by decide)
    (by decide)
  exact absurd saturates.vcc (by decide)

end Firestarter
