import Firestarter.CommandDecoder
import Firestarter.EpromOperations
import Firestarter.HardwareOperations

/-! The firmware as a whole (`firestarter.cpp`): power-up, the command frame, the loop the board
runs for ever, and the runs it can make. -/
namespace Firestarter

open Interactive.Prog

/-! ## Power-up -/

/-- The three boards end their setup in the same way; they differ in how they open the port. -/
def rurpBoardSetup : Fw Unit := do
  let b ← build
  rurpChipDisable
  rurpChipInput
  rurpWriteToRegister leastSignificantByte 0
  rurpWriteToRegister mostSignificantByte 0
  rurpWriteToRegister controlRegister 0
  match b.board with
  | .uno | .uno328pb => rurpSetCommunicationMode
  | .leonardo =>
    whileLoop (fun _ => do
      if ← ask Env.portOpen then return .inr ()
      else
        delayMicroseconds 1
        return .inl ()) ()
    delay 1
  | .py32f071 =>
    rurpSetDataInput
    rurpSerialBegin

/-- The revision the two detect channels tell. -/
def detectedRevision (revisionAdc vppPinAdc : U16) : U8 :=
  if revisionAdc < 200 then revision20
  else if revisionAdc ≥ 220 && revisionAdc < 600 then revision23
  else if revisionAdc ≥ 600 then if vppPinAdc < 1000 then revision1 else revision0
  else revisionUnknown

def rurpDetectHardwareRevision : Fw Unit := do
  let revision := detectedRevision (← ask Env.revisionAdc) (← ask Env.vppPinAdc)
  update fun w => { w with revision := revision }
  when (revision == revisionUnknown && (← look).config.hardwareRevision == 0xFF) do
    logIdU8 msgInfoHw revisionUnknown

def setup : Fw Unit := do
  rurpBoardSetup
  rurpLoadConfig
  when (← build).hardwareRevision rurpDetectHardwareRevision
  setHandle fun h => { h with cmd := cmdIdle }

/-! ## Command frame -/

/-- A configuration command works on a copy; the live values change all at once or not at all. -/
def applyConfigCommand : Fw Bool := do
  let b ← build
  let w ← look
  let (candidate, changed) := cmdApplyConfig b w.handle w.config
  if changed then
    if ← rurpConfigCommit candidate then
      rurpSaveConfig
      return true
    else
      logId msgErrParseCfg
      return false
  else return true

def parseCommand : Fw Bool := do
  let b ← build
  let (h, res) := cmdDecode b (← getHandle)
  setHandle fun _ => h
  if res == cmdDecodeBadFrame then
    logId msgErrBadFrame
    return false
  else if res == cmdDecodeBadVersion then
    logIdU8 msgErrFrameVersion cfVersion
    return false
  else if res != cmdDecodeOk then
    logIdU8 msgErrBadCommand res
    return false
  else if isMemoryCmd h.cmd then
    if ← opExecuteFunction dispatch (some .configureMemory) then return true
    else
      logId msgErrSetup
      return false
  else if h.cmd == cmdConfig then applyConfigCommand
  else return true

/-- The version text in a frame, with its length, which is at most 32. -/
def versionText (version : List U8) : List U8 :=
  BitVec.ofNat 8 (version.take 32).length :: version.take 32

def reportIdentity : Fw Unit := do
  let env ← outside
  let w ← look
  logInfo msgInfoFw (versionText env.version)
  when env.build.hardwareRevision do
    logInfo msgInfoPhysicalHw [w.revision]
    logInfo msgInfoHw [w.hardwareRevision]
  logInfo msgInfoCmd [w.handle.cmd]

/-- The acknowledgement of a command that was set up. -/
def acceptCommand : Fw Unit := do
  reportIdentity
  let env ← outside
  let w ← look
  let b := env.build
  rurpLogId msgOkReady (bytes16 (BitVec.ofNat 16 b.dataBufferSize) ++
    [if b.hardwareRevision then w.hardwareRevision else revisionUnknown] ++
    versionText env.version)
  opResetTimeout
  note (.accepted (← getHandle))

def initProgrammerFramed : Fw Bool := do
  setHandle fun h =>
    { h with responseCode := responseCodeOk, operationState := 0, ctrlFlags := flagVerbose }
  if (← getHandle).dataSize == 0 then
    logId msgErrEmptyInput
    return false
  else if ← parseCommand then
    acceptCommand
    return true
  else return false

/-! ## Main loop -/

def commandDone : Fw Unit := do
  rurpSetProgrammerMode
  rurpChipDisable
  rurpWriteToRegister controlRegister 0
  rurpWriteToRegister leastSignificantByte 0
  rurpWriteToRegister mostSignificantByte 0
  setHandle fun h => { h with cmd := cmdIdle }
  rurpSetCommunicationMode
  note .finished

/-- A command is received only while none is running. -/
def receiveCommand : Fw Unit := do
  when ((← rurpCommunicationAvailable) > 0) do
    note .received
    let n ← rurpCommunicationReadData ((← build).dataBufferSize - 1)
    if n > 0 then
      setHandle fun h =>
        { h with dataSize := BitVec.ofInt 32 n, dataBuffer := storeByte h.dataBuffer n.toNat 0 }
      when (!(← initProgrammerFramed)) commandDone
    else logId msgErrEmptyInput

/-- The step of a running command; true when the command is finished. -/
def runCommand (cmd : U8) : Fw Bool := do
  let b ← build
  if cmd == cmdRead then epromRead
  else if cmd == cmdWrite then epromWrite
  else if cmd == cmdErase then epromErase
  else if cmd == cmdCheckChipId then epromCheckChipId
  else if cmd == cmdSdpUnlock then epromSdpUnlock
  else if cmd == cmdSdpLock then epromSdpLock
  else if cmd == cmdLockStatus then epromLockStatus
  else if cmd == cmdReadVpp || cmd == cmdReadVpe then hwReadVoltage
  else if cmd == cmdFwVersion then fwGetVersion
  else if cmd == cmdHwVersion && b.hardwareRevision then hwGetVersion
  else if cmd == cmdDevRegister && b.devTools then dtSetRegisters
  else if cmd == cmdDevAddress && b.devTools then dtSetAddress
  else if cmd == cmdDevAdc && b.devTools then dtReadAdc
  else if cmd == cmdConfig then hwGetConfig
  else
    logIdU8 msgErrUnknownCmd cmd
    return true

/-- The step of the loop while a command is running and its time is not up. -/
def stepCommand (cmd : U8) : Fw Unit := do
  setResponseCode responseCodeOk
  when (← runCommand cmd) commandDone

/-- `loop`: the clock is looked at only while a command is running. -/
def loop : Fw Unit := do
  let w ← look
  if w.handle.cmd == cmdIdle then receiveCommand
  else if fsTimeoutExpired w.timeoutStartedMs timeoutMs (← millis) then
    logIdU8 msgErrCmdTimeout w.handle.cmd
    commandDone
    setResponseCode responseCodeOk
  else stepCommand w.handle.cmd

/-! ## Runs -/

/-- The board before its first instruction: the variables hold their initial values, the latches
and the store hold anything. -/
def World.PoweredUp (w : World) : Prop := w = { latches := w.latches, stored := w.stored }

/-- A state between two turns of the loop. -/
inductive Reach (env : Env) : World → Prop
  | setup {w w' : World} (fresh : w.PoweredUp) (ran : setup env w = (some (), w')) : Reach env w'
  | loop {w w' : World} (before : Reach env w) (ran : loop env w = (some (), w')) : Reach env w'

/-- A state a run ends in, between two turns or cut off inside one. -/
inductive Seen (env : Env) : World → Prop
  | setup {w : World} (fresh : w.PoweredUp) : Seen env (Firestarter.setup env w).2
  | loop {w : World} (before : Reach env w) : Seen env (Firestarter.loop env w).2

/-- The state after power-up and some turns of the loop, if none of them is cut off. -/
def stateAfter (env : Env) (start : World) : Nat → Option World
  | 0 =>
    match setup env start with
    | (some (), w) => some w
    | (none, _) => none
  | n + 1 => do
    match loop env (← stateAfter env start n) with
    | (some (), w) => some w
    | (none, _) => none

theorem reach_stateAfter {env : Env} {start w : World} (fresh : start.PoweredUp) {n : Nat}
    (after : stateAfter env start n = some w) : Reach env w ∧ Seen env w := by
  induction n generalizing w with
  | zero =>
    rw [stateAfter] at after
    split at after
    · rename_i ran
      obtain rfl := Option.some.inj after
      have seen : Seen env (setup env start).2 := .setup fresh
      rw [ran] at seen
      exact ⟨.setup fresh ran, seen⟩
    · cases after
  | succ n ih =>
    obtain ⟨before, earlier, after⟩ := Option.bind_eq_some_iff.mp after
    split at after
    · rename_i ran
      obtain rfl := Option.some.inj after
      have seen := Seen.loop (ih earlier).1
      rw [ran] at seen
      exact ⟨.loop (ih earlier).1 ran, seen⟩
    · cases after

/-- A board with clear latches and nothing stored. -/
def World.blank : World := { latches := ⟨0, 0, 0⟩, stored := none }

theorem World.blank_poweredUp : World.blank.PoweredUp := rfl

/-- The frame of a memory command as a host sends it; the address lines are padded with absent
ones. -/
def memoryFrame (h : Handle) : List U8 :=
  let lines := h.busConfig.addressLines
  communicationFrame <|
    [cfMagic, cfVersion, h.cmd] ++ bytes16 h.ctrlFlags ++ bytes16 (BitVec.ofNat 16 cfMemorySize) ++
      bytes32 h.memSize ++ bytes32 h.address ++ bytes32 h.regionEnd ++ [h.protocol, h.pins] ++
      bytes16 h.vppMv ++ bytes32 h.pulseDelay ++ bytes16 h.chipId ++ bytes16 h.pageSize ++
      bytes32 h.readSettlingUs ++ bytes32 h.readStrobeUs ++ lines ++
      List.replicate (cfAddressLines - lines.length) cfLineAbsent ++
      [h.busConfig.rwLine, h.busConfig.vppLine] ++ bytes32 h.busConfig.staticHighMask

/-- A host that sends these bytes when the board first listens. -/
def Env.sends (env : Env) (bytes : List U8) : Env :=
  { env with arrive := fun w =>
      if w.trace.any fun | .received => true | _ => false then [] else bytes }

end Firestarter
