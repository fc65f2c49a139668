import Firestarter.Shield

/-! The stored configuration: its bands, migration and storage (`rurp_config_migrate.cpp`,
`rurp_config_utils.cpp`). -/
namespace Firestarter

open Interactive.Prog

/-- `CONFIG_VERSION`: "VER07". -/
def configVersion : List U8 := [0x56, 0x45, 0x52, 0x30, 0x37, 0]

def valueR1 : U32 := 270000
def valueR2 : U32 := 44000
def valueR1Min : U32 := 202500
def valueR1Max : U32 := 337500
def valueR2Min : U32 := 33000
def valueR2Max : U32 := 55000

def noHardwareRevisionOverride : U8 := 0xFF

def hardwareRevisionKnown (b : Build) (revision : U8) : Bool :=
  if revision == noHardwareRevisionOverride then true
  else if b.hardwareRevision then revision ≤ revision23
  else false

def isDigit (c : U8) : Bool := c ≥ 0x30 && c ≤ 0x39

def isConfigVersion (version : List U8) : Bool :=
  version.getD 0 0 == 0x56 && version.getD 1 0 == 0x45 && version.getD 2 0 == 0x52 &&
    isDigit (version.getD 3 0) && isDigit (version.getD 4 0) && version.getD 5 0 == 0

/-- `check_fields`: the resistances are compared as the signed numbers they are. -/
def checkFields (b : Build) (config : Configuration) (correct : Bool) : Configuration × Bool :=
  let badR1 := config.r1.slt valueR1Min || valueR1Max.slt config.r1
  let badR2 := config.r2.slt valueR2Min || valueR2Max.slt config.r2
  let badBandgap := config.bandgapMv < rurpBandgapMinMv || config.bandgapMv > rurpBandgapMaxMv
  let badRevision := !hardwareRevisionKnown b config.hardwareRevision
  ({ config with
      r1 := if badR1 && correct then valueR1 else config.r1
      r2 := if badR2 && correct then valueR2 else config.r2
      bandgapMv := if badBandgap && correct then rurpBandgapNominalMv else config.bandgapMv
      hardwareRevision :=
        if badRevision && correct then noHardwareRevisionOverride else config.hardwareRevision },
    badR1 || badR2 || badBandgap || badRevision)

def rurpConfigIsValid (b : Build) (config : Configuration) : Bool := !(checkFields b config false).2

/-- `memset(config, 0xFF, sizeof(*config))` -/
def blankConfiguration : Configuration :=
  { version := List.replicate 6 0xFF, r1 := 0xFFFFFFFF, r2 := 0xFFFFFFFF, hardwareRevision := 0xFF,
    bandgapMv := 0xFFFF }

/-- Both version strings end at the same byte, so comparing the six bytes is `strncmp`. -/
def rurpConfigMigrate (b : Build) (config : Configuration) : Configuration × Bool :=
  let config := if isConfigVersion config.version then config else blankConfiguration
  let (config, changed) := checkFields b config true
  if config.version != configVersion then ({ config with version := configVersion }, true)
  else (config, changed)

/-- The live configuration takes the candidate only when every value is usable. -/
def rurpConfigCommit (candidate : Configuration) : Fw Bool := do
  if rurpConfigIsValid (← build) candidate then
    update fun w => { w with config := candidate }
    return true
  else return false

/-- A failed write has no recovery and is not reported. -/
def rurpSaveConfig : Fw Unit := do
  let saved ← ask Env.saveOk
  update fun w => if saved then { w with stored := some w.config } else w

def rurpValidateConfig : Fw Unit := do
  let (config, changed) := rurpConfigMigrate (← build) (← look).config
  update fun w => { w with config := config }
  when changed rurpSaveConfig

/-- A load that copied nothing leaves the buffer, and only its version is cleared. -/
def rurpLoadConfig : Fw Unit := do
  update fun w =>
    match w.stored with
    | some config => { w with config := config }
    | none => { w with config := { w.config with version := 0 :: w.config.version.tail } }
  rurpValidateConfig

end Firestarter
