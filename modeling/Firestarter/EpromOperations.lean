import Firestarter.Memory

/-! The commands that work on a chip, and the two pumps that move a chip's content from and to the
host one chunk at a time (`eprom_operations.cpp`). -/
namespace Firestarter

open Interactive.Prog

/-- What the write pump does with a message that is there. -/
def processIncomingMessage (opEnd : U32) (msg : OpMessageType) : Fw Bool := do
  clearOperationWaitingForData
  let h ← getHandle
  if msg = .done then
    if h.regionEnd != 0 then
      refuse msgErrCmd []
      return false
    else
      setOperationToDone
      return true
  else if msg = .data then
    if h.dataSize.toNat > (← build).dataBufferSize ||
        !memUtilRangeFits h.address h.dataSize opEnd then
      refuse msgErrOutOfRange []
      return false
    else if ← opExecuteFunction dispatch h.firestarterOperationMain then
      setHandle fun h => { h with address := h.address + h.dataSize }
      return true
    else return false
  else
    -- A broken frame has been reported by the scanner already.
    when (msg != .error) (logId msgErrCmd)
    setResponseCode responseCodeError
    return false

/-- `_process_incoming_data`: true on success or while it goes on. -/
def processIncomingData : Fw Bool := do
  let h ← getHandle
  let opEnd := h.operationEnd
  if h.address > opEnd then
    refuse msgErrOutOfRange []
    return false
  else if h.address == opEnd then
    setOperationToDone
    return true
  else
    let msg ← opGetMessage
    if msg = .incomplete then
      when (!(← getHandle).isOperationWaitingForData) do
        logId msgOkReqData
        setOperationWaitingForData
      return true
    else processIncomingMessage opEnd msg

/-- The chunk just read is cut at the end of the region, sent, and the cursor moves once the host
has acknowledged it. -/
def sendChunk (opEnd : U32) : Fw Bool := do
  setHandle fun h =>
    { h with
      dataSize := if h.dataSize > opEnd - h.address then opEnd - h.address else h.dataSize }
  logId msgDataSending
  rurpLogIdWide msgDataChunk (← getHandle).payload
  if ← opWaitForAck then
    setHandle fun h => { h with address := h.address + h.dataSize }
    when ((← getHandle).address ≥ opEnd) setOperationToDone
    return true
  else return false

/-- `_process_outgoing_data`: true on success or while it goes on. -/
def processOutgoingData : Fw Bool := do
  let h ← getHandle
  let opEnd := h.operationEnd
  if h.address > opEnd then
    refuse msgErrOutOfRange []
    return false
  else if h.address == opEnd then
    setOperationToDone
    return true
  else if ← opExecuteFunction dispatch h.firestarterOperationMain then sendChunk opEnd
  else return false

def epromRead : Fw Bool := opExecuteStatefulOperation dispatch processOutgoingData

def epromWrite : Fw Bool := opExecuteStatefulOperation dispatch processIncomingData

def epromErase : Fw Bool := do
  if (← getHandle).isFlagSet flagCanErase then opExecuteSimpleOperation dispatch
  else
    refuse msgErrNotSupported []
    return true

def epromCheckChipId : Fw Bool := do
  if (← getHandle).chipId == 0 then
    logId msgErrNoChipId
    return true
  else opExecuteSimpleOperation dispatch

def epromSdpUnlock : Fw Bool := opExecuteSimpleOperation dispatch

def epromSdpLock : Fw Bool := opExecuteSimpleOperation dispatch

def epromLockStatus : Fw Bool := opExecuteSimpleOperation dispatch

end Firestarter
