import Firestarter.Types

/-! Count-to-millivolt arithmetic (`rurp_voltage_math.c`), in the 32 bits the boards compute it. -/
namespace Firestarter

def rurpBandgapNominalMv : U16 := 1100
def rurpBandgapMinMv : U16 := 1000
def rurpBandgapMaxMv : U16 := 1200

/-- `RURP_DIVIDER_SUM_MAX` -/
def rurpDividerSumMax : U32 := 0xFFFFFFFF / rurpBandgapMaxMv.setWidth 32

/-- `RURP_SCALE_K_MAX` -/
def rurpScaleKMax (b : Build) : U32 := 0xFFFFFFFF / b.adcFullScale

def saturateU16 (v : U32) : U16 := if v > 0xFFFF then 0xFFFF else v.setWidth 16

def rurpCalibrationIsPlausible (b : Build) (r1 r2 bandgapMv : U32) : Bool :=
  let sum := r1 + r2
  if r2 == 0 then false
  else if bandgapMv < rurpBandgapMinMv.setWidth 32 || bandgapMv > rurpBandgapMaxMv.setWidth 32 then
    false
  else if sum < r1 || sum > rurpDividerSumMax then false
  else if bandgapMv * sum / r2 > rurpScaleKMax b then false
  else true

/-- A reading the scaler could not evaluate is 0. -/
def rurpScaleVoltageMv (b : Build) (adc bandgapAdc r1 r2 bandgapMv : U32) : U16 :=
  if bandgapAdc == 0 || !rurpCalibrationIsPlausible b r1 r2 bandgapMv then 0
  else
    let k := bandgapMv * (r1 + r2) / r2
    saturateU16 ((adc * k + bandgapAdc / 2) / bandgapAdc)

def rurpScaleVccMv (b : Build) (bandgapAdc bandgapMv : U32) : U16 :=
  if bandgapAdc == 0 then 0
  else saturateU16 ((bandgapMv * b.adcFullScale + bandgapAdc / 2) / bandgapAdc)

/-- `rurp_read_vcc_mv` of the PY32 board. -/
def py32VccMv (referenceReading : U32) : U16 :=
  if referenceReading == 0 then 0
  else ((4095 * 1200 + referenceReading / 2) / referenceReading).setWidth 16

/-- The arithmetic of `rurp_read_voltage_mv` of the PY32 board; the sum of the two signed
resistances is widened to 64 bits with its sign. -/
def py32VoltageMv (vccMv : U16) (adcReading : U16) (r1 r2 : U32) : U16 :=
  if vccMv == 0 || adcReading == 0 || r2 == 0 then 0
  else
    let numerator : BitVec 64 :=
      adcReading.setWidth 64 * vccMv.setWidth 64 * (r1 + r2).signExtend 64
    let denominator : BitVec 64 := 4095 * r2.signExtend 64
    let measuredMv := (numerator + denominator / 2) / denominator
    if measuredMv > 0xFFFF then 0xFFFF else measuredMv.setWidth 16

end Firestarter
