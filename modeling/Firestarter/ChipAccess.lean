import Firestarter.LinkFrames
import Mathlib.Algebra.Group.Nat.Defs

/-! The bytes a driver exchanges with the chip, told as a list. Everything a driver does besides
reading and writing bytes leaves that list and the handle alone. -/
namespace Firestarter

open Interactive Interactive.Prog

set_option synthInstance.maxSize 4000

/-- One byte read from the chip, written with its pulse, or given with a bare strobe. -/
inductive Access where
  | read (address : U32) (data : U8)
  | wrote (address : U32) (data : U8)
  | flipped (address : U32) (data : U8)
  deriving DecidableEq, Repr

def Event.access : Event → Option Access
  | .read address data _ => some (.read address data)
  | .wrote address data _ => some (.wrote address data)
  | .flipped address data _ => some (.flipped address data)
  | _ => none

def Access.isRead : Access → Bool
  | .read .. => true
  | _ => false

def Access.isStore : Access → Bool
  | .read .. => false
  | _ => true

/-- The accesses of a trace, oldest first. -/
def accessLog (events : List Event) : List Access := (events.filterMap Event.access).reverse

theorem accessLog_append (later earlier : List Event) :
    accessLog (later ++ earlier) = accessLog earlier ++ accessLog later := by
  simp [accessLog]

theorem accessLog_quiet {new : List Event} (quiet : ∀ e ∈ new, e.access = none) :
    accessLog new = [] := by
  simp [accessLog, List.filterMap_eq_nil_iff.mpr quiet]

/-- A run with these accesses that leaves the handle as it is. -/
structure Accesses (log : List Access) (w w' : World) : Prop where
  handle : w'.handle = w.handle
  pointer : w'.epSetControlRegister = w.epSetControlRegister
  adds : ∃ new, w'.trace = new ++ w.trace ∧ accessLog new = log

variable {env : Env} {w w' w'' : World} {log log' : List Access}

theorem Accesses.trans (first : Accesses log w w') (rest : Accesses log' w' w'') :
    Accesses (log ++ log') w w'' := by
  obtain ⟨new, trace, same⟩ := first.adds
  obtain ⟨new', trace', same'⟩ := rest.adds
  refine ⟨rest.handle.trans first.handle, rest.pointer.trans first.pointer, new' ++ new, ?_, ?_⟩
  · rw [trace', trace, List.append_assoc]
  · rw [accessLog_append, same, same']

theorem Accesses.total (done : Accesses log w w') :
    accessLog w'.trace = accessLog w.trace ++ log := by
  obtain ⟨new, trace, same⟩ := done.adds
  rw [trace, accessLog_append, same]

/-- What a run adds to the trace, whatever it does to the response. -/
def Logged (log : List Access) (w w' : World) : Prop :=
  ∃ new, w'.trace = new ++ w.trace ∧ accessLog new = log

theorem Accesses.logged (done : Accesses log w w') : Logged log w w' := done.adds

theorem Logged.trans (first : Logged log w w') (rest : Logged log' w' w'') :
    Logged (log ++ log') w w'' := by
  obtain ⟨new, trace, same⟩ := first
  obtain ⟨new', trace', same'⟩ := rest
  refine ⟨new' ++ new, ?_, ?_⟩
  · rw [trace', trace, List.append_assoc]
  · rw [accessLog_append, same, same']

/-- Without an access. -/
abbrev Silent : World → World → Prop := Accesses []

theorem Accesses.of_quiet (handle : w'.handle = w.handle)
    (pointer : w'.epSetControlRegister = w.epSetControlRegister) (trace : w'.trace = w.trace) :
    Silent w w' := ⟨handle, pointer, [], trace, rfl⟩

/-- A note about something else. -/
theorem Accesses.note (w : World) (e : Event) (other : e.access = none) :
    Silent w { w with trace := e :: w.trace } := by
  refine ⟨rfl, rfl, [e], rfl, ?_⟩
  simp [accessLog, other]

theorem Accesses.onward (first : Accesses log w w') (rest : Silent w' w'') :
    Accesses log w w'' := by
  have both := first.trans rest
  rw [List.append_nil] at both
  exact both

theorem Accesses.after (first : Silent w w') (rest : Accesses log w' w'') :
    Accesses log w w'' := first.trans rest

instance : IsPreorder World Silent where
  refl _ := Accesses.of_quiet rfl rfl rfl
  trans _ _ _ first rest := first.onward rest

instance : BusFrame env Silent where
  bus s s' _ same := by
    have handle := congrArg World.handle same
    have pointer := congrArg World.epSetControlRegister same
    have trace := congrArg World.trace same
    exact Accesses.of_quiet handle pointer trace

instance : LatchFrame Silent where
  strobe _ reg byte _ _ := ⟨rfl, rfl, [.strobe reg byte], rfl, rfl⟩

instance : CacheFrame Silent where
  cache _ _ _ _ _ := Accesses.of_quiet rfl rfl rfl
  control s _ := Accesses.note s _ rfl
  addressed s _ _ _ := Accesses.note s _ rfl

instance : PrintFrame Silent where
  print s e print := by
    refine Accesses.note s e ?_
    cases e <;> first | rfl | cases print
  defer _ _ := Accesses.of_quiet rfl rfl rfl

/-! ## The bytes of a block -/

/-- Where byte `i` of the block goes. -/
def Handle.byteAddress (h : Handle) (i : Nat) : U32 := h.address + BitVec.ofNat 32 i

/-- A block that does not go round all addresses gives every byte its own. -/
theorem Handle.byteAddress_inj {h : Handle} {i j : Nat} (small : i < 2 ^ 32) (small' : j < 2 ^ 32)
    (same : h.byteAddress i = h.byteAddress j) : i = j := by
  have offsets := congrArg BitVec.toNat ((BitVec.add_right_inj h.address).mp same)
  rw [BitVec.toNat_ofNat, BitVec.toNat_ofNat] at offsets
  rw [Nat.mod_eq_of_lt small, Nat.mod_eq_of_lt small'] at offsets
  exact offsets

/-! ## What always ends -/

instance {α : Type} (question : Env → World → α) : Completes env (ask question) := by
  unfold ask
  infer_instance

instance : Completes env build := by
  unfold build
  infer_instance

instance (e : Event) : Completes env (note e) := by
  unfold note
  infer_instance

instance : Completes env getHandle := by
  unfold getHandle
  infer_instance

instance (f : Handle → Handle) : Completes env (setHandle f) := by
  unfold setHandle
  infer_instance

instance : Completes env millis := by
  unfold millis
  infer_instance

instance (ms : U32) : Completes env (delay ms) := by
  unfold delay
  infer_instance

instance (us : U16) : Completes env (delayMicroseconds us) := by
  unfold delayMicroseconds
  infer_instance

instance : Completes env micros := by
  unfold micros
  infer_instance

instance (us : U32) : Completes env (memUtilDelayUs us) := by
  unfold memUtilDelayUs
  infer_instance

instance : Completes env rurpSetDataOutput := by
  unfold rurpSetDataOutput
  infer_instance

instance : Completes env rurpSetDataInput := by
  unfold rurpSetDataInput
  infer_instance

instance (data : U8) : Completes env (rurpWriteDataBuffer data) := by
  unfold rurpWriteDataBuffer
  infer_instance

instance : Completes env rurpReadDataBuffer := by
  unfold rurpReadDataBuffer
  infer_instance

instance (pin : U8) (state : Bool) : Completes env (rurpSetControlPin pin state) := by
  unfold rurpSetControlPin
  infer_instance

instance : Completes env rurpChipEnable := inferInstanceAs (Completes env (rurpSetControlPin _ _))
instance : Completes env rurpChipDisable := inferInstanceAs (Completes env (rurpSetControlPin _ _))
instance : Completes env rurpChipOutput := inferInstanceAs (Completes env (rurpSetControlPin _ _))
instance : Completes env rurpChipInput := inferInstanceAs (Completes env (rurpSetControlPin _ _))

instance : Completes env rurpGetHardwareRevision := by
  unfold rurpGetHardwareRevision
  infer_instance

instance : Completes env rurpReadControlRegister := by
  unfold rurpReadControlRegister
  infer_instance

instance (reg : U8) (data : Reg) : Completes env (rurpInternalWriteToRegister reg data) := by
  unfold rurpInternalWriteToRegister
  infer_instance

instance (reg : U8) (data : Reg) : Completes env (rurpWriteToRegister reg data) := by
  unfold rurpWriteToRegister writeControlRegister
  infer_instance

instance (address : U32) : Completes env (memUtilSetAddress address) := by
  unfold memUtilSetAddress
  infer_instance

instance (id : U8) (params : List U8) : Completes env (rurpLogId id params) := by
  unfold rurpLogId firestarterEmitFrameWide
  infer_instance

instance (id : U8) (v : U32) : Completes env (logIdU32 id v) := by
  unfold logIdU32
  infer_instance

instance (address : U32) : Completes env (memoryGetData address) := by
  unfold memoryGetData note
  infer_instance

instance (address : U32) (data : U8) : Completes env (memorySetData address data) := by
  unfold memorySetData note
  infer_instance

instance (id : U8) (params : List U8) : Completes env (refuse id params) := by
  unfold refuse setResponseCode
  infer_instance

instance (h : Handle) (address : U32) (pulses : U8) (lastEmitMs : U32) :
    Completes env (emitProgress h address pulses lastEmitMs) := by
  unfold emitProgress
  infer_instance

instance (h : Handle) (base : Nat) (pulses : U8) (scan : Scan) (i : Nat) :
    Completes env (scanByte h base pulses scan i) := by
  unfold scanByte
  infer_instance

instance : Completes env memoryVerifyExecute := by
  unfold memoryVerifyExecute
  infer_instance

/-! ## The accesses themselves -/

/-- What comes before the accesses does not count. -/
theorem Silent.bind {α β : Type} {m : Fw α} {f : α → Fw β} {logged : β → List Access}
    [Within env Silent m] [Completes env m]
    (rest : ∀ a w₁, Ends (f a) env w₁ (fun v w' => Accesses (logged v) w₁ w') fun _ => False) :
    Ends (m >>= f) env w (fun v w' => Accesses (logged v) w w') fun _ => False :=
  Within.bind_completes (S := Silent) fun a w₁ quiet =>
    (rest a w₁).mono (fun _ _ done => Accesses.after quiet done) fun _ => id

theorem memoryGetData_log (w : World) (address : U32) :
    Ends (memoryGetData address) env w (fun data w' => Accesses [.read address data] w w')
      (fun _ => False) := by
  unfold memoryGetData
  iterate 8 refine Silent.bind fun _ _ => ?_
  refine Silent.bind fun data w₁ => ?_
  exact ⟨rfl, rfl, [.read address data w₁.latches], rfl, rfl⟩

theorem memorySetData_log (w : World) (address : U32) (data : U8) :
    Ends (memorySetData address data) env w (fun _ w' => Accesses [.wrote address data] w w')
      (fun _ => False) := by
  have held (us : U32) (w₂ : World) : Ends (do
      memUtilDelayUs us
      rurpChipDisable) env w₂ (fun _ w' => Silent w₂ w') (fun _ => False) :=
    Completes.within inferInstance inferInstance w₂
  unfold memorySetData
  iterate 6 refine Silent.bind fun _ _ => ?_
  refine Silent.bind fun _ w₁ => ?_
  have noted : Accesses [.wrote address data] w₁
      { w₁ with trace := .wrote address data w₁.latches :: w₁.trace } :=
    ⟨rfl, rfl, [.wrote address data w₁.latches], rfl, rfl⟩
  exact (held _ _).mono (fun _ _ quiet => noted.onward quiet) fun _ => id

theorem fuFlashFlipData_log (w : World) (address : U32) (data : U8) :
    Ends (fuFlashFlipData address data) env w (fun _ w' => Accesses [.flipped address data] w w')
      (fun _ => False) := by
  unfold fuFlashFlipData
  iterate 6 refine Silent.bind fun _ _ => ?_
  refine Silent.bind fun _ w₁ => ?_
  exact ⟨rfl, rfl, [.flipped address data w₁.latches], rfl, rfl⟩

end Firestarter
