import Firestarter.MemoryUtils

/-! Messages of the host and the phase engine: INIT, MAIN and END of a command, each opened by an
ACK (`operation_utils.cpp`, `operation_utils.h`). The engine runs callbacks; which function a
callback names is left to the parameter `dispatch`. -/
namespace Firestarter

open Interactive.Prog

/-! ## Messages -/

def asciiO : U8 := 0x4F
def asciiK : U8 := 0x4B
def asciiD : U8 := 0x44
def asciiHash : U8 := 0x23

/-- Bytes are taken only while they continue the text. -/
def takeText : List U8 → Fw Bool
  | [] => return true
  | c :: rest => do
    if (← rurpCommunicationPeak) == some c then
      let _ ← rurpCommunicationRead
      takeText rest
    else return false

/-- A message was taken whole. -/
def deliver (kind : OpMessageType) (payload : List U8) : Fw (Unit ⊕ OpMessageType) := do
  note (.message kind payload)
  return .inr kind

/-- What is made of a frame: a message, or the report of a broken one. -/
def deliverFrame (res : Int) : Fw (Unit ⊕ OpMessageType) := do
  if res < 0 then
    logIdU16 msgErrDataErrN (BitVec.ofInt 16 res)
    deliver .error []
  else
    setHandle fun h => { h with dataSize := BitVec.ofInt 32 res }
    deliver .data (← getHandle).payload

/-- The arm for a data packet: the frame goes into the handle's buffer. -/
def takeDataPacket : Fw (Unit ⊕ OpMessageType) := do
  let _ ← rurpCommunicationRead
  let res ← rurpCommunicationReadData (← build).dataBufferSize
  deliverFrame res

/-- The arm for an `O`: the start of an `OK`. -/
def scanAck : Fw (Unit ⊕ OpMessageType) := do
  if (← rurpCommunicationAvailable) < 2 then return .inr .incomplete
  else
    let _ ← rurpCommunicationRead
    if (← rurpCommunicationPeak) == some asciiK then
      let _ ← rurpCommunicationRead
      deliver .ack []
    else return .inl ()

/-- The arm for a `D`: the start of a `DONE`. -/
def scanDone : Fw (Unit ⊕ OpMessageType) := do
  if (← rurpCommunicationAvailable) < 4 then return .inr .incomplete
  else
    if ← takeText [asciiD, asciiO, 0x4E, 0x45] then deliver .done [] else return .inl ()

/-- One turn of the scanner; what starts no message is dropped. -/
def scanMessage : Fw (Unit ⊕ OpMessageType) := do
  let available ← rurpCommunicationAvailable
  if available == 0 then return .inr .incomplete
  else
    let peek ← rurpCommunicationPeak
    if peek == some asciiO then scanAck
    else if peek == some asciiD then scanDone
    else if peek == some asciiHash then takeDataPacket
    else
      let _ ← rurpCommunicationRead
      return .inl ()

def opGetMessage : Fw OpMessageType := do
  if (← rurpCommunicationAvailable) == 0 then return .incomplete
  else whileLoop (fun _ => scanMessage) ()

def opResetTimeout : Fw Unit := do
  let now ← millis
  update fun w => { w with timeoutStartedMs := now }

/-- The turn of `op_wait_for_ack`: a DONE or a broken frame ends the wait at once. -/
def ackTurn (startedMs : U32) (_ : Unit) : Fw (Unit ⊕ Bool) := do
  if fsTimeoutExpired startedMs 1000 (← millis) then
    logId msgErrTimeout
    return .inr false
  else
    let msg ← opGetMessage
    if msg = .ack then return .inr true
    else if msg = .error then return .inr false
    else if msg = .done then
      logId msgErrCmd
      return .inr false
    else
      delay 10
      return .inl ()

def opWaitForAck : Fw Bool := do
  let startedMs ← millis
  whileLoop (ackTurn startedMs) ()

/-! ## Operation state -/

def opInit : U8 := 1
def opMain : U8 := 3
def opEnd : U8 := 5
def opEnded : U8 := 6

def operationInProgress : U8 := 0x40
def operationWaitingForData : U8 := 0x80

namespace Handle

def isOperationInProgress (h : Handle) : Bool :=
  h.operationState &&& operationInProgress == operationInProgress

def isOperationWaitingForData (h : Handle) : Bool :=
  h.operationState &&& operationWaitingForData == operationWaitingForData

/-- The lower six bits; the upper two are flags. -/
def stateNumber (h : Handle) : U8 := h.operationState &&& 0x3F

def isOperationStarted (h : Handle) (state : U8) : Bool := h.stateNumber == state

def canOperationStart (h : Handle) (state : U8) : Bool := h.isOperationStarted (state - 1)

def isAllOperationsDone (h : Handle) : Bool := h.isOperationStarted opEnded

/-- `set_operation_state` -/
def withOperationState (h : Handle) (state : U8) : Handle :=
  { h with operationState := h.operationState &&& 0xC0 ||| state }

/-- `set_operation_state_done` -/
def withOperationStateDone (h : Handle) : Handle :=
  { h with operationState := h.operationState &&& 0xC0 ||| (h.stateNumber + 1) }

end Handle

def setOperationWaitingForData : Fw Unit :=
  setHandle fun h => { h with operationState := h.operationState ||| operationWaitingForData }

def clearOperationWaitingForData : Fw Unit :=
  setHandle fun h => { h with operationState := h.operationState &&& ~~~operationWaitingForData }

/-- A change of the state number, with its note. -/
def advance (f : Handle → Handle) : Fw Unit := do
  setHandle f
  note (.advanced (← getHandle).stateNumber)

def setOperationToDone : Fw Unit := do
  logInfo msgInfoMainDone []
  advance Handle.withOperationStateDone
  logId msgMainDone

/-! ## Engine -/

/-- The three results `ERROR`, `RETURN` and `CONTINUE`. -/
inductive OpResult where
  | error | stop | proceed
  deriving DecidableEq, Repr

/-- `_check_response`: only an OK or a warning lets the command go on, and both are then OK. -/
def checkResponse : Fw Bool := do
  let h ← getHandle
  if h.responseCode == responseCodeOk || h.responseCode == responseCodeWarning ||
      h.responseCode == responseCodeData then
    when (h.responseCode == responseCodeData) (rurpCommunicationWrite h.payload)
    opResetTimeout
    setResponseCode responseCodeOk
    return true
  else return false

section
variable (dispatch : Callback → Fw Unit)

/-- `_execute_operation`; a missing callback is no failure. -/
def executeOperation (callback : Option Callback) : Fw OpResult := do
  match callback with
  | none => return .proceed
  | some callback =>
    rurpSetProgrammerMode
    note (.called callback (← getHandle))
    dispatch callback
    note (.returned callback (← getHandle).responseCode)
    rurpSetCommunicationMode
    if ← checkResponse then return .stop else return .error

def opExecuteFunction (callback : Option Callback) : Fw Bool := do
  if callback.isNone then return false
  else return (← executeOperation dispatch callback) != .error

/-- The phase is opened by an ACK; false when none came. -/
def openPhase (state : U8) : Fw Bool := do
  if (← getHandle).canOperationStart state then
    if ← opWaitForAck then
      logInfo (if state == opInit then msgInfoInitStart else msgInfoEndStart) []
      advance fun h => h.withOperationState state
      return true
    else return false
  else return true

/-- `_execute_operation_house_keeping_func` -/
def executeHouseKeepingFunc (callback : Option Callback) (state : U8) : Fw OpResult := do
  let h ← getHandle
  if h.canOperationStart state || h.isOperationStarted state then
    if ← openPhase state then
      if (← executeOperation dispatch callback) = .error then return .error
      else if (← getHandle).isOperationInProgress then return .stop
      else
        logId (if state == opInit then msgInitDone else msgEndDone)
        advance Handle.withOperationStateDone
        return .proceed
    else return .error
  else return .proceed

/-- `_execute_operation_house_keeping` -/
def executeHouseKeeping : Fw OpResult := do
  let h ← getHandle
  if h.isAllOperationsDone then return .proceed
  else if h.isOperationStarted opMain then return .proceed
  else if h.canOperationStart opMain then
    if ← opWaitForAck then
      opResetTimeout
      advance fun h => h.withOperationState opMain
      logInfo msgInfoMainStart []
      return .proceed
    else return .error
  else
    let res ← executeHouseKeepingFunc dispatch h.firestarterOperationInit opInit
    if res != .proceed then return res
    else executeHouseKeepingFunc dispatch (← getHandle).firestarterOperationEnd opEnd

/-- True means finished, not successful. The callback's own convention is true on success. -/
def opExecuteStatefulOperation (callback : Fw Bool) : Fw Bool := do
  let h ← getHandle
  if h.firestarterOperationMain.isSome then
    if h.isAllOperationsDone then
      return (← opGetMessage) != .incomplete
    else
      let res ← executeHouseKeeping dispatch
      if res != .proceed then return res != .stop
      else if (← getHandle).isOperationStarted opMain then return !(← callback)
      else return false
  else
    refuse msgErrNotSupported []
    return true

def singleStepOperationCallback : Fw Bool := do
  if (← executeOperation dispatch (← getHandle).firestarterOperationMain) = .error then
    return false
  else
    when (!(← getHandle).isOperationInProgress) setOperationToDone
    return true

def opExecuteSimpleOperation : Fw Bool :=
  opExecuteStatefulOperation dispatch (singleStepOperationCallback dispatch)

end

end Firestarter
