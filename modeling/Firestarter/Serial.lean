import Firestarter.Shield

/-! The serial link: the receive queue, the framed input (`rurp_serial_utils.cpp`), the outgoing
log frames (`logging_id.h`), and the Uno's two modes with the queue of deferred frames
(`deferred_log.h`, `uno_rurp_shield.cpp`). -/
namespace Firestarter

open Interactive.Prog

/-! ## Receive queue -/

/-- Bytes of the host come in whenever the queue is looked at. -/
def receive : Fw Unit := do
  let bytes ← ask Env.arrive
  update fun w => { w with rx := w.rx ++ bytes }

def rurpCommunicationAvailable : Fw Nat := do
  receive
  return (← look).rx.length

/-- The next byte without taking it; `none` is the source's -1. -/
def rurpCommunicationPeak : Fw (Option U8) := do
  receive
  return (← look).rx.head?

def rurpCommunicationRead : Fw (Option U8) := do
  receive
  let w ← look
  update fun w => { w with rx := w.rx.tail }
  return w.rx.head?

/-! ## Framed input -/

def crc8Table : List U8 := [
    0x00, 0x07, 0x0E, 0x09, 0x1C, 0x1B, 0x12, 0x15, 0x38, 0x3F, 0x36, 0x31,
    0x24, 0x23, 0x2A, 0x2D, 0x70, 0x77, 0x7E, 0x79, 0x6C, 0x6B, 0x62, 0x65,
    0x48, 0x4F, 0x46, 0x41, 0x54, 0x53, 0x5A, 0x5D, 0xE0, 0xE7, 0xEE, 0xE9,
    0xFC, 0xFB, 0xF2, 0xF5, 0xD8, 0xDF, 0xD6, 0xD1, 0xC4, 0xC3, 0xCA, 0xCD,
    0x90, 0x97, 0x9E, 0x99, 0x8C, 0x8B, 0x82, 0x85, 0xA8, 0xAF, 0xA6, 0xA1,
    0xB4, 0xB3, 0xBA, 0xBD, 0xC7, 0xC0, 0xC9, 0xCE, 0xDB, 0xDC, 0xD5, 0xD2,
    0xFF, 0xF8, 0xF1, 0xF6, 0xE3, 0xE4, 0xED, 0xEA, 0xB7, 0xB0, 0xB9, 0xBE,
    0xAB, 0xAC, 0xA5, 0xA2, 0x8F, 0x88, 0x81, 0x86, 0x93, 0x94, 0x9D, 0x9A,
    0x27, 0x20, 0x29, 0x2E, 0x3B, 0x3C, 0x35, 0x32, 0x1F, 0x18, 0x11, 0x16,
    0x03, 0x04, 0x0D, 0x0A, 0x57, 0x50, 0x59, 0x5E, 0x4B, 0x4C, 0x45, 0x42,
    0x6F, 0x68, 0x61, 0x66, 0x73, 0x74, 0x7D, 0x7A, 0x89, 0x8E, 0x87, 0x80,
    0x95, 0x92, 0x9B, 0x9C, 0xB1, 0xB6, 0xBF, 0xB8, 0xAD, 0xAA, 0xA3, 0xA4,
    0xF9, 0xFE, 0xF7, 0xF0, 0xE5, 0xE2, 0xEB, 0xEC, 0xC1, 0xC6, 0xCF, 0xC8,
    0xDD, 0xDA, 0xD3, 0xD4, 0x69, 0x6E, 0x67, 0x60, 0x75, 0x72, 0x7B, 0x7C,
    0x51, 0x56, 0x5F, 0x58, 0x4D, 0x4A, 0x43, 0x44, 0x19, 0x1E, 0x17, 0x10,
    0x05, 0x02, 0x0B, 0x0C, 0x21, 0x26, 0x2F, 0x28, 0x3D, 0x3A, 0x33, 0x34,
    0x4E, 0x49, 0x40, 0x47, 0x52, 0x55, 0x5C, 0x5B, 0x76, 0x71, 0x78, 0x7F,
    0x6A, 0x6D, 0x64, 0x63, 0x3E, 0x39, 0x30, 0x37, 0x22, 0x25, 0x2C, 0x2B,
    0x06, 0x01, 0x08, 0x0F, 0x1A, 0x1D, 0x14, 0x13, 0xAE, 0xA9, 0xA0, 0xA7,
    0xB2, 0xB5, 0xBC, 0xBB, 0x96, 0x91, 0x98, 0x9F, 0x8A, 0x8D, 0x84, 0x83,
    0xDE, 0xD9, 0xD0, 0xD7, 0xC2, 0xC5, 0xCC, 0xCB, 0xE6, 0xE1, 0xE8, 0xEF,
    0xFA, 0xFD, 0xF4, 0xF3]

def crc8Ccitt (crc b : U8) : U8 := crc8Table.getD (crc ^^^ b).toNat 0

/-- The CRC of a byte string, folded as both directions of the link fold it. -/
def crc8 (bytes : List U8) : U8 := bytes.foldl crc8Ccitt 0

/-- The turn of the bounded wait. -/
def awaitTurn (start : U32) : Fw (Unit ⊕ Bool) := do
  if (← rurpCommunicationAvailable) != 0 then return .inr true
  else
    let now ← millis
    if now - start ≥ timeoutMs then return .inr false else return .inl ()

/-- The bounded wait both loops of the decoder make once the queue is empty: true when a byte
came, false after `TIMEOUT_MS` of silence. -/
def awaitByte : Fw Bool := do
  let start ← millis
  whileLoop (fun _ => awaitTurn start) ()

/-- The turn of `_drain_to_delimiter`. -/
def drainTurn (waitOnSilence : Bool) : Fw (Unit ⊕ Unit) := do
  let buffered ← rurpCommunicationAvailable
  let ready ← (if buffered != 0 then pure true
    else if waitOnSilence then awaitByte
    else pure false)
  if ready then
    let d ← rurpCommunicationRead
    if d == none || d == some 0 then return .inr () else return .inl ()
  else return .inr ()

/-- `_drain_to_delimiter` -/
def drainToDelimiter (waitOnSilence : Bool) : Fw Unit :=
  whileLoop (fun _ => drainTurn waitOnSilence) ()

/-- The locals of `rurp_communication_read_data`. -/
structure Decoder where
  out : Nat := 0
  blockRemaining : U8 := 0
  was254Run : Bool := false
  implicitZeroPending : Bool := false
  hasLast : Bool := false
  lastByte : U8 := 0
  deriving DecidableEq, Repr

def storeByte (buffer : Nat → U8) (i : Nat) (b : U8) : Nat → U8 :=
  fun j => if j = i then b else buffer j

/-- The macro `PUSH`: commit the byte held back and hold this one. On overflow the rest of the
frame is drained and there is no next decoder state. -/
def pushDecoded (cap : Nat) (d : Decoder) (b : U8) : Fw (Option Decoder) := do
  if d.hasLast then
    if d.out ≥ cap then
      drainToDelimiter true
      return none
    else
      setHandle fun h => { h with dataBuffer := storeByte h.dataBuffer d.out d.lastByte }
      return some { d with out := d.out + 1, lastByte := b }
  else
    return some { d with lastByte := b, hasLast := true }

/-- The arm for a byte that is not the delimiter. -/
def decodeByte (cap : Nat) (d : Decoder) (byte : U8) : Fw (Option Decoder) := do
  if d.blockRemaining > 0 then
    -- Data byte inside the current run.
    let pushed ← pushDecoded cap d byte
    return pushed.map fun d =>
      let left := d.blockRemaining - 1
      { d with
        blockRemaining := left
        implicitZeroPending := d.implicitZeroPending || left == 0 && !d.was254Run }
  else
    -- Run code: the zero of the run before it was not the trailing one.
    let pushed ← (if d.implicitZeroPending then pushDecoded cap d 0 else pure (some d))
    return pushed.map fun d =>
      let left := byte - 1
      { d with
        was254Run := byte == 0xFF
        blockRemaining := left
        implicitZeroPending := left == 0 && byte != 0xFF }

/-- One turn of the decoder's loop; it leaves the loop at the delimiter or with an error code. -/
def decodeTurn (cap : Nat) (d : Decoder) : Fw (Decoder ⊕ Except Int Decoder) := do
  let buffered ← rurpCommunicationAvailable
  let ready ← (if buffered != 0 then pure true else awaitByte)
  if ready then
    match ← rurpCommunicationRead with
    | none =>
      drainToDelimiter true
      return .inr (.error (-1))
    | some byte =>
      if byte == 0 then
        if d.blockRemaining != 0 then return .inr (.error (-3)) else return .inr (.ok d)
      else
        match ← decodeByte cap d byte with
        | none => return .inr (.error (-2))
        | some d => return .inl d
  else
    drainToDelimiter false
    return .inr (.error (-1))

/-- What is done with the decoder once its loop is left. -/
def decodeEnd : Except Int Decoder → Fw Int
  | .error code => return code
  | .ok d => do
    if d.hasLast then
      let h ← getHandle
      if crc8 ((List.range d.out).map h.dataBuffer) == d.lastByte then return d.out
      else return -4
    else return -1

/-- `rurp_communication_read_data`, always called on the handle's buffer. The count fits an `int`
of every board: no buffer reaches 2^15 bytes. -/
def rurpCommunicationReadData (cap : Nat) : Fw Int := do decodeEnd (← whileLoop (decodeTurn cap) {})

/-! ## Outgoing frames -/

/-- The run loop of `rurp_communication_write`: what is written while scanning the payload, and the
run still open at its end. -/
def encodeRuns (run : List U8) : List U8 → List U8 × List U8
  | [] => ([], run)
  | b :: rest =>
    if b == 0 then
      let (written, last) := encodeRuns [] rest
      (BitVec.ofNat 8 (run.length + 1) :: (run ++ written), last)
    else if run.length + 1 == 254 then
      let (written, last) := encodeRuns [] rest
      (0xFF :: (run ++ b :: written), last)
    else encodeRuns (run ++ [b]) rest

/-- The bytes of a payload's frame; the CRC ends the last run, or opens one more when it is 0. -/
def communicationFrame (payload : List U8) : List U8 :=
  let crc := crc8 payload
  let (written, run) := encodeRuns [] payload
  let tail :=
    if crc == 0 then BitVec.ofNat 8 (run.length + 1) :: (run ++ [0x01])
    else BitVec.ofNat 8 (run.length + 2) :: (run ++ [crc])
  written ++ tail ++ [0]

def rurpCommunicationWrite (payload : List U8) : Fw Unit :=
  note (.printed (communicationFrame payload))

/-- Big-endian packings of the parameters. -/
def bytes16 (v : U16) : List U8 := [(v >>> 8).setWidth 8, v.setWidth 8]
def bytes24 (v : U32) : List U8 := [(v >>> 16).setWidth 8, (v >>> 8).setWidth 8, v.setWidth 8]
def bytes32 (v : U32) : List U8 := (v >>> 24).setWidth 8 :: bytes24 v

/-- A frame with more parameters than its length field can say is not sent. -/
def firestarterEmitFrameWide (id : U8) (params : List U8) : Fw Unit := do
  when (params.length ≤ 65533) (note (.emitted id params))

/-! ## Deferred frames -/

def deferredLogMax : Nat := 4
def deferredParamMax : Nat := 8

/-- INFO and WARN frames: the host never waits for one. -/
def deferredLogIsDroppable (id : U8) : Bool := id ≥ 0x40 && id < 0xA0

/-- The queue without its newest droppable frame. -/
def withoutNewestDroppable : List DeferredFrame → Option (List DeferredFrame)
  | [] => none
  | frame :: later =>
    match withoutNewestDroppable later with
    | some later => some (frame :: later)
    | none => if deferredLogIsDroppable frame.id then some later else none

/-- `deferred_log_push`; the flag tells whether the frame was queued. -/
def deferredLogPush (log : List DeferredFrame) (id : U8) (params : List U8) :
    List DeferredFrame × Bool :=
  let frame : DeferredFrame := ⟨id, params.take deferredParamMax⟩
  if log.length ≥ deferredLogMax then
    if deferredLogIsDroppable id then (log, false)
    else
      match withoutNewestDroppable log with
      | none => (log, false)
      | some log => (log ++ [frame], true)
  else (log ++ [frame], true)

/-- On the Uno class the wire is the data bus in programmer mode, and frames wait. -/
def rurpLogId (id : U8) (params : List U8) : Fw Unit := do
  let b ← build
  let w ← look
  if b.serialOnIo && !w.comMode then
    when (params.length ≤ deferredParamMax) do
      update fun w => { w with deferredLog := (deferredLogPush w.deferredLog id params).1 }
  else firestarterEmitFrameWide id params

/-- The wide frame is never deferred. -/
def rurpLogIdWide (id : U8) (params : List U8) : Fw Unit := do
  let b ← build
  let w ← look
  when (!(b.serialOnIo && !w.comMode)) (firestarterEmitFrameWide id params)

def logId (id : U8) : Fw Unit := rurpLogId id []
def logIdU8 (id v : U8) : Fw Unit := rurpLogId id [v]
def logIdU16 (id : U8) (v : U16) : Fw Unit := rurpLogId id (bytes16 v)
def logIdU32 (id : U8) (v : U32) : Fw Unit := rurpLogId id (bytes32 v)

/-- The `LOG_INFO_ID` family speaks only when the command asked for it. -/
def logInfo (id : U8) (params : List U8) : Fw Unit := do
  when ((← getHandle).isFlagSet flagVerbose) (rurpLogId id params)

/-! ## Communication and programmer mode -/

def rurpSerialBegin : Fw Unit := do
  whileLoop (fun _ => do
    if ← ask Env.portOpen then return .inr ()
    else
      delayMicroseconds 1
      return .inl ()) ()
  delay 50

/-- The port drops what it had received when it is closed. -/
def rurpSerialEnd : Fw Unit := do
  update fun w => { w with rx := [] }
  delay 5

/-- The queued frames go out in order. -/
def flushDeferredLog : Fw Unit := do
  (← look).deferredLog.forM fun frame => firestarterEmitFrameWide frame.id frame.params
  update fun w => { w with deferredLog := [] }

/-- Boards with a port of their own have no mode to change. -/
def rurpSetCommunicationMode : Fw Unit := do
  let b ← build
  when b.serialOnIo do
    rurpSerialBegin
    whileLoop (fun _ => do
      if (← rurpCommunicationAvailable) != 0 then
        let _ ← rurpCommunicationRead
        return .inl ()
      else return .inr ()) ()
    update fun w => { w with comMode := true }
    flushDeferredLog

def rurpSetProgrammerMode : Fw Unit := do
  let b ← build
  when b.serialOnIo do
    update fun w => { w with comMode := false }
    rurpSerialEnd

end Firestarter
