import Firestarter.DriverFrames

/-! What the serial link leaves alone. Like the drivers, its functions are within every relation
that is closed under the few ways they touch the world. -/
namespace Firestarter

open Interactive Interactive.Prog

set_option synthInstance.maxSize 4000

/-- Taking bytes off the receive queue, and those that arrive in it. -/
class QueueFrame (R : World → World → Prop) : Prop where
  queue : ∀ (s : World) (rx : List U8), R s { s with rx := rx }

/-- Taking a byte off the receive queue, and those that come in when it is looked at. -/
class ReceiveFrame (env : Env) (R : World → World → Prop) : Prop where
  arrive : ∀ s : World, R s { s with rx := s.rx ++ env.arrive s }
  take : ∀ s : World, R s { s with rx := s.rx.tail }

/-- Filling the handle's buffer and starting the timer of a command. -/
class BufferFrame (R : World → World → Prop) : Prop where
  buffer : ∀ (s : World) (dataBuffer : Nat → U8),
    R s { s with handle := { s.handle with dataBuffer := dataBuffer } }
  timer : ∀ (s : World) (startedMs : U32), R s { s with timeoutStartedMs := startedMs }

/-- Notes about what went out on the wire. -/
def Event.isPrint : Event → Bool
  | .emitted .. | .printed _ => true
  | _ => false

/-- Sending any frame, or letting it wait. -/
class PrintFrame (R : World → World → Prop) : Prop where
  print : ∀ (s : World) (e : Event), e.isPrint = true → R s { s with trace := e :: s.trace }
  defer : ∀ (s : World) (queue : List DeferredFrame), R s { s with deferredLog := queue }

variable {env : Env} {R : World → World → Prop}

instance {P : Handle → Prop} [PrintFrame R] : PrintFrame (Guarded P R) where
  print s e print there := ⟨there, PrintFrame.print s e print⟩
  defer s queue there := ⟨there, PrintFrame.defer s queue⟩

variable [BusFrame env R]

/-! ## The receive queue -/

instance {env : Env} [QueueFrame R] : ReceiveFrame env R :=
  ⟨fun s => QueueFrame.queue s _, fun s => QueueFrame.queue s _⟩

section
variable [ReceiveFrame env R]

instance : Within env R receive := by
  refine ⟨fun s => ?_⟩
  have frame : BusFrame env R := inferInstance
  have asked := frame.bus { s with rx := s.rx ++ env.arrive s } (receive env s).2 (Nat.le_refl _) rfl
  exact trans_of R (ReceiveFrame.arrive s) asked

instance : Within env R rurpCommunicationAvailable := by
  unfold rurpCommunicationAvailable
  infer_instance

instance : Within env R rurpCommunicationPeak := by
  unfold rurpCommunicationPeak
  infer_instance

instance : Within env R rurpCommunicationRead := by
  have : Within env R (update fun w => { w with rx := w.rx.tail } : Fw Unit) :=
    Within.update _ fun w => ReceiveFrame.take env w
  unfold rurpCommunicationRead
  infer_instance

instance : Within env R awaitByte := by
  unfold awaitByte awaitTurn whileLoop
  infer_instance

instance (waitOnSilence : Bool) : Within env R (drainToDelimiter waitOnSilence) := by
  unfold drainToDelimiter drainTurn whileLoop
  infer_instance

instance (text : List U8) : Within env R (takeText text) := by
  induction text with
  | nil =>
    unfold takeText
    infer_instance
  | cons c rest ih =>
    unfold takeText
    infer_instance

end

instance [QueueFrame R] : Within env R rurpSerialEnd := by
  have : Within env R (update fun w => { w with rx := [] } : Fw Unit) :=
    Within.update _ fun w => QueueFrame.queue w []
  unfold rurpSerialEnd
  infer_instance

instance : Within env R rurpSerialBegin := by
  unfold rurpSerialBegin whileLoop
  infer_instance

/-! ## Frames that go out -/

section
variable [PrintFrame R]

instance (id : U8) (params : List U8) : Within env R (note (.emitted id params)) :=
  Within.update _ fun w => PrintFrame.print w _ rfl

instance (text : List U8) : Within env R (note (.printed text)) :=
  Within.update _ fun w => PrintFrame.print w _ rfl

instance (id : U8) (params : List U8) : Within env R (firestarterEmitFrameWide id params) := by
  unfold firestarterEmitFrameWide
  infer_instance

instance (payload : List U8) : Within env R (rurpCommunicationWrite payload) := by
  unfold rurpCommunicationWrite
  infer_instance

instance (id : U8) (params : List U8) : Within env R (rurpLogId id params) := by
  have : Within env R (update fun w =>
      { w with deferredLog := (deferredLogPush w.deferredLog id params).1 } : Fw Unit) :=
    Within.update _ fun w => PrintFrame.defer w _
  unfold rurpLogId
  infer_instance

instance (id : U8) (params : List U8) : Within env R (rurpLogIdWide id params) := by
  unfold rurpLogIdWide
  infer_instance

instance (id : U8) : Within env R (logId id) := by
  unfold logId
  infer_instance

instance (id v : U8) : Within env R (logIdU8 id v) := by
  unfold logIdU8
  infer_instance

instance (id : U8) (v : U16) : Within env R (logIdU16 id v) := by
  unfold logIdU16
  infer_instance

instance (id : U8) (v : U32) : Within env R (logIdU32 id v) := by
  unfold logIdU32
  infer_instance

instance (id : U8) (params : List U8) : Within env R (logInfo id params) := by
  unfold logInfo
  infer_instance

instance : Within env R flushDeferredLog := by
  have : Within env R (update fun w => { w with deferredLog := [] } : Fw Unit) :=
    Within.update _ fun w => PrintFrame.defer w []
  unfold flushDeferredLog
  infer_instance

end

/-! ## Framed input -/

section
variable [BufferFrame R]

instance : Within env R opResetTimeout := by
  have (now : U32) : Within env R (update fun w => { w with timeoutStartedMs := now } : Fw Unit) :=
    Within.update _ fun w => BufferFrame.timer w now
  unfold opResetTimeout
  infer_instance

variable [ReceiveFrame env R]

instance (cap : Nat) (d : Decoder) (b : U8) : Within env R (pushDecoded cap d b) := by
  have : Within env R
      (setHandle fun h => { h with dataBuffer := storeByte h.dataBuffer d.out d.lastByte }) :=
    Within.update _ fun w => BufferFrame.buffer w _
  unfold pushDecoded
  infer_instance

instance (cap : Nat) (d : Decoder) (byte : U8) : Within env R (decodeByte cap d byte) := by
  unfold decodeByte
  infer_instance

instance (cap : Nat) (d : Decoder) : Within env R (decodeTurn cap d) := by
  unfold decodeTurn
  refine within_bind inferInstance fun buffered => within_bind inferInstance fun ready => ?_
  split
  · refine within_bind inferInstance fun taken => ?_
    cases taken with
    | none => infer_instance
    | some byte =>
      dsimp only
      split
      · infer_instance
      · refine within_bind inferInstance fun next => ?_
        cases next <;> infer_instance
  · infer_instance

instance (cap : Nat) : Within env R (rurpCommunicationReadData cap) := by
  unfold rurpCommunicationReadData decodeEnd whileLoop
  refine within_bind inferInstance fun decoded => ?_
  cases decoded <;> infer_instance

end

end Firestarter
