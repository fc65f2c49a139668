import Firestarter.Config
import Firestarter.MemoryUtils
import Mathlib.Algebra.Order.Ring.Nat
import Mathlib.Tactic.SplitIfs

/-! What a boot makes of the record it finds (`rurp_config_migrate.cpp`): whatever the bytes are, it
ends with values the firmware may use, touches no field that was in its band, and says whether the
record has to be written back. -/
namespace Firestarter

/-- A configuration that boots as it is: every field is in its band, and it carries this
firmware's version. -/
structure Configuration.Settled (b : Build) (config : Configuration) : Prop where
  valid : rurpConfigIsValid b config = true
  version : config.version = configVersion

variable {b : Build} {config : Configuration}

/-- A signed comparison with both bounds positive is one of the plain numbers. -/
theorem toNat_of_signed_band {v low high : U32} (above : v.slt low = false)
    (below : high.slt v = false) (lowPositive : low.toNat < 2 ^ 31)
    (highPositive : high.toNat < 2 ^ 31) : low.toNat ≤ v.toNat ∧ v.toNat ≤ high.toNat := by
  rw [BitVec.slt_eq_decide, decide_eq_false_iff_not, not_lt] at above below
  rw [BitVec.toInt_eq_toNat_cond, BitVec.toInt_eq_toNat_cond] at above below
  have bound := v.isLt
  split_ifs at above below <;> omega

theorem rurpConfigIsValid_iff : rurpConfigIsValid b config = true ↔
    (config.r1.slt valueR1Min = false ∧ valueR1Max.slt config.r1 = false) ∧
      (config.r2.slt valueR2Min = false ∧ valueR2Max.slt config.r2 = false) ∧
      (rurpBandgapMinMv ≤ config.bandgapMv ∧ config.bandgapMv ≤ rurpBandgapMaxMv) ∧
      hardwareRevisionKnown b config.hardwareRevision = true := by
  unfold rurpConfigIsValid checkFields
  simp only [Bool.not_eq_true', Bool.or_eq_false_iff, Bool.not_eq_false', decide_eq_false_iff_not,
    BitVec.not_lt, and_assoc]

/-- The bands of the fields are narrow enough for the arithmetic of a measurement. -/
theorem calibrationIsPlausible_of_valid (valid : rurpConfigIsValid b config = true) :
    calibrationIsPlausible b config = true := by
  obtain ⟨⟨r1Low, r1High⟩, ⟨r2Low, r2High⟩, ⟨bandgapLow, bandgapHigh⟩, -⟩ :=
    rurpConfigIsValid_iff.mp valid
  obtain ⟨r1Low, r1High⟩ := toNat_of_signed_band r1Low r1High (by decide) (by decide)
  obtain ⟨r2Low, r2High⟩ := toNat_of_signed_band r2Low r2High (by decide) (by decide)
  have bandgapLow : 1000 ≤ config.bandgapMv.toNat := bandgapLow
  have bandgapHigh : config.bandgapMv.toNat ≤ 1200 := bandgapHigh
  have r1Low : 202500 ≤ config.r1.toNat := r1Low
  have r1High : config.r1.toNat ≤ 337500 := r1High
  have r2Low : 33000 ≤ config.r2.toNat := r2Low
  have r2High : config.r2.toNat ≤ 55000 := r2High
  have sum : (config.r1 + config.r2).toNat = config.r1.toNat + config.r2.toNat := by
    rw [BitVec.toNat_add]
    omega
  have wide : (config.bandgapMv.setWidth 32 : U32).toNat = config.bandgapMv.toNat := by
    rw [BitVec.toNat_setWidth]
    omega
  have product :
      (config.bandgapMv.setWidth 32 * (config.r1 + config.r2)).toNat ≤ 1200 * 392500 := by
    rw [BitVec.toNat_mul, wide, sum]
    refine (Nat.mod_le _ _).trans (Nat.mul_le_mul bandgapHigh ?_)
    omega
  have scale : (config.bandgapMv.setWidth 32 * (config.r1 + config.r2) / config.r2).toNat ≤
      1200 * 392500 / 33000 := by
    rw [BitVec.toNat_udiv]
    exact Nat.div_le_div product r2Low (by decide)
  have limit : 1200 * 392500 / 33000 ≤ (rurpScaleKMax b).toNat := by
    unfold rurpScaleKMax Build.adcFullScale
    split <;> decide
  unfold calibrationIsPlausible rurpCalibrationIsPlausible
  dsimp only
  rw [if_neg, if_neg, if_neg, if_neg]
  · rw [gt_iff_lt, BitVec.lt_def, not_lt]
    exact scale.trans limit
  · have room : (392500 : Nat) ≤ rurpDividerSumMax.toNat := by decide
    simp only [Bool.or_eq_true, decide_eq_true_eq, not_or, gt_iff_lt, BitVec.lt_def, not_lt, sum]
    omega
  · have low : (rurpBandgapMinMv.setWidth 32 : U32).toNat = 1000 := rfl
    have high : (rurpBandgapMaxMv.setWidth 32 : U32).toNat = 1200 := rfl
    simp only [Bool.or_eq_true, decide_eq_true_eq, not_or, gt_iff_lt, BitVec.lt_def, not_lt, wide,
      low, high]
    omega
  · rw [beq_iff_eq]
    intro zero
    rw [zero] at r2Low
    cases r2Low

/-! ## Migration -/

theorem checkFields_fixed (valid : rurpConfigIsValid b config = true) :
    checkFields b config true = (config, false) := by
  unfold rurpConfigIsValid at valid
  unfold checkFields at valid ⊢
  simp only [Bool.not_eq_true', Bool.or_eq_false_iff] at valid
  obtain ⟨⟨⟨⟨r1Low, r1High⟩, ⟨r2Low, r2High⟩⟩, ⟨bandgapLow, bandgapHigh⟩⟩, revision⟩ := valid
  simp only [r1Low, r1High, r2Low, r2High, bandgapLow, bandgapHigh, revision, Bool.or_false,
    Bool.false_and, Bool.false_eq_true, if_false]

theorem checkFields_valid (b : Build) (config : Configuration) :
    rurpConfigIsValid b (checkFields b config true).1 = true := by
  rw [rurpConfigIsValid_iff]
  unfold checkFields
  simp only [Bool.and_true]
  refine ⟨?_, ?_, ?_, ?_⟩
  · split
    · decide
    · rename_i good
      simpa using good
  · split
    · decide
    · rename_i good
      simpa using good
  · split
    · decide
    · rename_i good
      simpa using good
  · split
    · rfl
    · rename_i good
      simpa using good

/-- Whatever was stored, what a boot makes of it boots as it is. -/
theorem rurpConfigMigrate_settled (b : Build) (config : Configuration) :
    (rurpConfigMigrate b config).1.Settled b := by
  unfold rurpConfigMigrate
  dsimp only
  generalize (if isConfigVersion config.version = true then config
    else blankConfiguration) = trusted
  have valid := checkFields_valid b trusted
  split
  · exact ⟨(rurpConfigIsValid_iff.trans rurpConfigIsValid_iff.symm).mp valid, rfl⟩
  · rename_i current
    exact ⟨valid, by simpa using current⟩

/-- A settled configuration is not touched, and only such a one is left alone. -/
theorem rurpConfigMigrate_of_settled (settled : config.Settled b) :
    rurpConfigMigrate b config = (config, false) := by
  have named : isConfigVersion config.version = true := by
    rw [settled.version]
    rfl
  unfold rurpConfigMigrate
  rw [if_pos named]
  dsimp only
  rw [checkFields_fixed settled.valid]
  dsimp only
  rw [if_neg (by simp [settled.version])]

theorem rurpConfigMigrate_unchanged (kept : (rurpConfigMigrate b config).2 = false) :
    (rurpConfigMigrate b config).1 = config := by
  unfold rurpConfigMigrate at kept ⊢
  by_cases named : isConfigVersion config.version = true
  · rw [if_pos named] at kept ⊢
    dsimp only at kept ⊢
    by_cases stale : ((checkFields b config true).1.version != configVersion) = true
    · rw [if_pos stale] at kept
      cases kept
    · rw [if_neg stale] at kept ⊢
      have valid : rurpConfigIsValid b config = true := by
        unfold rurpConfigIsValid
        rw [Bool.not_eq_true']
        exact kept
      rw [checkFields_fixed valid]
  · rw [if_neg named] at kept
    have stale : ((checkFields b blankConfiguration true).1.version != configVersion) = true := by
      show (blankConfiguration.version != configVersion) = true
      decide
    dsimp only at kept
    rw [if_pos stale] at kept
    cases kept

/-! ## The record after a boot -/

/-- "VER", two digits and the closing zero. -/
def VersionForm (version : List U8) : Prop :=
  ∃ tens ones : U8, (0x30 ≤ tens ∧ tens ≤ 0x39) ∧ (0x30 ≤ ones ∧ ones ≤ 0x39) ∧
    version = [0x56, 0x45, 0x52, tens, ones, 0]

theorem isConfigVersion_iff {version : List U8} (sixBytes : version.length = 6) :
    isConfigVersion version = true ↔ VersionForm version := by
  obtain ⟨v, e, r, tens, ones, close, rfl⟩ : ∃ v e r tens ones close,
      version = [v, e, r, tens, ones, close] := by
    match version, sixBytes with
    | [v, e, r, tens, ones, close], _ => exact ⟨v, e, r, tens, ones, close, rfl⟩
  unfold isConfigVersion isDigit VersionForm
  simp only [List.getD_cons_zero, List.getD_cons_succ, Bool.and_eq_true, beq_iff_eq, ge_iff_le,
    decide_eq_true_eq]
  constructor
  · rintro ⟨⟨⟨⟨⟨rfl, rfl⟩, rfl⟩, tensDigit⟩, onesDigit⟩, rfl⟩
    exact ⟨tens, ones, tensDigit, onesDigit, rfl⟩
  · rintro ⟨tens', ones', tensDigit, onesDigit, same⟩
    simp only [List.cons.injEq, and_true] at same
    obtain ⟨rfl, rfl, rfl, rfl, rfl, rfl⟩ := same
    exact ⟨⟨⟨⟨⟨rfl, rfl⟩, rfl⟩, tensDigit⟩, onesDigit⟩, rfl⟩

/-- Every field at its default, and no revision to override the detected one. -/
def defaultConfiguration : Configuration :=
  { version := configVersion, r1 := valueR1, r2 := valueR2,
    hardwareRevision := noHardwareRevisionOverride, bandgapMv := rurpBandgapNominalMv }

/-- The fields that were within their bands, the resistances as signed numbers. -/
structure KeepsInBand (b : Build) (config after : Configuration) : Prop where
  r1 : valueR1Min.toInt ≤ config.r1.toInt → config.r1.toInt ≤ valueR1Max.toInt →
    after.r1 = config.r1
  r2 : valueR2Min.toInt ≤ config.r2.toInt → config.r2.toInt ≤ valueR2Max.toInt →
    after.r2 = config.r2
  bandgapMv : rurpBandgapMinMv ≤ config.bandgapMv → config.bandgapMv ≤ rurpBandgapMaxMv →
    after.bandgapMv = config.bandgapMv
  hardwareRevision : config.hardwareRevision = noHardwareRevisionOverride ∨
      b.hardwareRevision = true ∧ config.hardwareRevision ≤ revision23 →
    after.hardwareRevision = config.hardwareRevision

/-- What a migration has to make of a record. -/
structure Migrated (b : Build) (config after : Configuration) (changed : Bool) : Prop where
  settled : after.Settled b
  again : rurpConfigMigrate b after = (after, false)
  reported : changed = true ↔ after ≠ config
  foreign : ¬ VersionForm config.version → after = defaultConfiguration
  recognised : VersionForm config.version → KeepsInBand b config after

theorem checkFields_keeps (b : Build) (config : Configuration) :
    KeepsInBand b config (checkFields b config true).1 := by
  unfold checkFields
  constructor
  · intro low high
    have inside : (config.r1.slt valueR1Min || valueR1Max.slt config.r1) = false := by
      simp [BitVec.slt_eq_decide, low, high]
    simp [inside]
  · intro low high
    have inside : (config.r2.slt valueR2Min || valueR2Max.slt config.r2) = false := by
      simp [BitVec.slt_eq_decide, low, high]
    simp [inside]
  · intro low high
    have inside : ¬ (config.bandgapMv < rurpBandgapMinMv ∨ config.bandgapMv > rurpBandgapMaxMv) := by
      simp [BitVec.not_lt, low, high]
    simp [inside]
  · intro known
    have known : hardwareRevisionKnown b config.hardwareRevision = true := by
      unfold hardwareRevisionKnown
      rcases known with none | ⟨revisions, low⟩
      · simp [none]
      · simp [revisions, low]
    simp [known]

/-- A foreign record is read as blank, and no field of a blank record is in its band. -/
theorem rurpConfigMigrate_foreign (foreign : isConfigVersion config.version = false) :
    (rurpConfigMigrate b config).1 = defaultConfiguration := by
  have blank : (checkFields b blankConfiguration true).1 =
      { defaultConfiguration with version := blankConfiguration.version } := rfl
  have stale : (blankConfiguration.version != configVersion) = true := by decide
  unfold rurpConfigMigrate
  rw [foreign, if_neg Bool.false_ne_true]
  dsimp only
  rw [blank, if_pos stale]
  rfl

theorem rurpConfigMigrate_keeps (named : isConfigVersion config.version = true) :
    KeepsInBand b config (rurpConfigMigrate b config).1 := by
  have fields := checkFields_keeps b config
  unfold rurpConfigMigrate
  rw [if_pos named]
  dsimp only
  split
  · exact ⟨fields.r1, fields.r2, fields.bandgapMv, fields.hardwareRevision⟩
  · exact fields

/-- Migration, for every content of a record: the version field is six bytes long. -/
theorem config_migration (b : Build) (sixBytes : config.version.length = 6) :
    Migrated b config (rurpConfigMigrate b config).1 (rurpConfigMigrate b config).2 := by
  have settled := rurpConfigMigrate_settled b config
  have again := rurpConfigMigrate_of_settled settled
  refine ⟨settled, again, ⟨?_, ?_⟩, fun foreign => ?_, fun named => ?_⟩
  · intro changed same
    rw [same] at again
    rw [again] at changed
    cases changed
  · intro moved
    by_contra kept
    exact moved (rurpConfigMigrate_unchanged (Bool.not_eq_true _ ▸ kept))
  · refine rurpConfigMigrate_foreign ?_
    rw [← Bool.not_eq_true, isConfigVersion_iff sixBytes]
    exact foreign
  · exact rurpConfigMigrate_keeps ((isConfigVersion_iff sixBytes).mpr named)

/-- A record of an older version with one field out of its band. -/
theorem config_migration_older : Migrated ⟨.leonardo, false⟩
    ⟨[0x56, 0x45, 0x52, 0x30, 0x36, 0], 260000, 0xFFFF0000, 1, 1080⟩
    ⟨configVersion, 260000, valueR2, 1, 1080⟩ true :=
  config_migration ⟨.leonardo, false⟩ rfl

end Firestarter
