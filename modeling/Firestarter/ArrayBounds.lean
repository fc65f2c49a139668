import Firestarter.ArrayAccess
import Firestarter.CommandGrammar
import Firestarter.EventLaws

/-! Array accesses stay inside the chip. Each callback is entered with what it counts on: the
decoder checked the start of a read and of a write, and the pumps check every chunk. The address of
an erase is checked nowhere, so it is a condition of the theorem. -/
namespace Firestarter

open Interactive Interactive.Prog

/-! ## What the events tell -/

def callbackAfter (running : Option Callback) : Event → Option Callback
  | .called callback _ => some callback
  | .returned .. => none
  | _ => running

/-- The callback that is running after these events. -/
def runningCallback (es : List Event) : Option Callback := es.foldl callbackAfter none

/-- Every sector erase was entered with an address inside the chip. -/
def ErasesInside (es : List Event) : Prop :=
  ∀ entry, .called .flashNorUnlockEraseExecute entry ∈ es → entry.address < entry.memSize

/-- Every array address of the events lies inside the chip. -/
def StaysInside (memSize : U32) (es : List Event) : Prop :=
  ∀ pre e post, es = pre ++ e :: post → ∀ address,
    e.arrayAddress (runningCallback pre) = some address → address < memSize

/-- Every event has the property, given those before it. -/
def EachAfter (P : List Event → Event → Prop) (es : List Event) : Prop :=
  ∀ pre e post, es = pre ++ e :: post → P pre e

theorem EachAfter.append {P : List Event → Event → Prop} {es new : List Event}
    (first : EachAfter P es) (rest : EachAfter (fun pre => P (es ++ pre)) new) :
    EachAfter P (es ++ new) := by
  intro pre e post split
  rcases List.append_eq_append_iff.mp split with ⟨more, rfl, rfl⟩ | ⟨more, rfl, same⟩
  · exact rest more e post rfl
  · cases more with
    | nil =>
      have head : P (pre ++ [] ++ []) e := rest [] e post same.symm
      rwa [List.append_nil, List.append_nil] at head
    | cons e' more =>
      obtain ⟨rfl, -⟩ := List.cons.inj same
      exact first pre e more rfl

theorem EachAfter.of_one {P : List Event → Event → Prop} {e : Event} (holds : P [] e) :
    EachAfter P [e] := by
  intro pre e' post split
  cases pre with
  | nil =>
    obtain ⟨rfl, -⟩ := List.cons.inj split
    exact holds
  | cons e'' pre =>
    obtain ⟨-, rest⟩ := List.cons.inj split
    cases List.append_eq_nil_iff.mp rest.symm with
    | intro _ absurd => cases absurd

theorem runningCallback_snoc (es : List Event) (e : Event) :
    runningCallback (es ++ [e]) = callbackAfter (runningCallback es) e := by
  unfold runningCallback
  rw [List.foldl_append]
  rfl

/-- What a callback adds does not tell of another one. -/
theorem runningCallback_noise {es new : List Event} (noise : ∀ e ∈ new, e.isNoise = true) :
    runningCallback (es ++ new) = runningCallback es := by
  induction new generalizing es with
  | nil => rw [List.append_nil]
  | cons e new ih =>
    rw [List.append_cons, ih fun e member => noise e (List.mem_cons_of_mem _ member),
      runningCallback_snoc]
    have heard := noise e List.mem_cons_self
    cases e <;> first | rfl | exact Bool.noConfusion heard

/-! ## What a command counts on -/

/-- The callbacks that write the chunk in the handle without a check of their own. -/
def Callback.writesChunk : Callback → Bool
  | .epromWriteExecute | .flashIntelWriteExecute | .eeprom28cWriteExecute
  | .flashNorUnlockWriteExecute | .flash5vPageWriteExecute => true
  | _ => false

/-- A callback that writes the chunk is the main callback of a write. -/
structure Handle.WritesInMain (h : Handle) : Prop where
  init : ∀ c, h.firestarterOperationInit = some c → c.writesChunk = false
  main : ∀ c, h.firestarterOperationMain = some c → c.writesChunk = true → h.cmd = cmdWrite
  finish : ∀ c, h.firestarterOperationEnd = some c → c.writesChunk = false

/-- A handle whose callbacks are old ones or new ones that fit. -/
theorem Handle.WritesInMain.of_each {h h' : Handle} (generic : h.WritesInMain)
    (cmd : h'.cmd = h.cmd)
    (init : ∀ c, h'.firestarterOperationInit = some c →
      h.firestarterOperationInit = some c ∨ c.writesChunk = false)
    (main : ∀ c, h'.firestarterOperationMain = some c →
      h.firestarterOperationMain = some c ∨ (c.writesChunk = true → h.cmd = cmdWrite))
    (finish : ∀ c, h'.firestarterOperationEnd = some c →
      h.firestarterOperationEnd = some c ∨ c.writesChunk = false) : h'.WritesInMain where
  init c named := (init c named).elim (generic.init c) id
  main c named writes := cmd.trans
    ((main c named).elim (fun old => generic.main c old writes) fun fits => fits writes)
  finish c named := (finish c named).elim (generic.finish c) id

theorem Driver.configured_writesInMain (driver : Driver) {h : Handle} (generic : h.WritesInMain) :
    (driver.configured h).WritesInMain := by
  cases driver
  case sram => exact generic
  all_goals
    simp only [Driver.configured, Handle.withFlashIntelCallbacks, Handle.withEeprom28cCallbacks,
      Handle.withFlashNorUnlockCallbacks, Handle.withFlash5vPageCallbacks, Handle.withEpromCallbacks]
    split_ifs
    all_goals refine generic.of_each rfl (fun c named => ?_) (fun c named => ?_) fun c named => ?_
    all_goals first
    | exact .inl named
    | (cases named; first | exact .inr rfl | exact .inr fun writes => Bool.noConfusion writes)
    | (cases named; exact .inr fun _ => beq_iff_eq.mp ‹(h.cmd == cmdWrite) = true›)
    | cases named

/-- What is known of the handle an accepted memory command starts with. -/
structure Handle.Bounded (h : Handle) : Prop extends h.WritesInMain where
  nonempty : 0 < h.memSize

theorem validateMemory_nonempty {cmd : U8} {p : Nat → U8}
    (valid : validateMemory cmd p = cmdDecodeOk) (memory : isMemoryCmd cmd = true) :
    0 < be32 p cfMemoryOffMemSize := by
  unfold validateMemory at valid
  rw [ite_pass_iff, ite_refuse_iff (by decide), ite_refuse_iff (by decide),
    ite_refuse_iff (by decide), ite_refuse_iff (by decide)] at valid
  obtain ⟨-, -, -, -, mandatory, -⟩ := valid
  rw [memory] at mandatory
  simp only [Bool.true_and, Bool.or_eq_true, beq_iff_eq, not_or] at mandatory
  obtain ⟨⟨⟨size, -⟩, -⟩, -⟩ := mandatory
  rw [BitVec.lt_def]
  have size : (be32 p cfMemoryOffMemSize).toNat ≠ 0 := fun zero => size (BitVec.eq_of_toNat_eq zero)
  exact Nat.pos_of_ne_zero size

/-- A memory command is made of a payload that was validated. -/
theorem Decoded.validated {b : Build} {decoded : Handle} (made : Decoded b decoded)
    (memory : isMemoryCmd decoded.cmd = true) :
    ∃ (h : Handle) (p : Nat → U8), decoded = applyMemory h p ∧
      validateMemory decoded.cmd p = cmdDecodeOk := by
  obtain ⟨received, -, decodes⟩ := made
  rcases cmdDecode_cases b received with ⟨admitted, same⟩ | ⟨-, res, bad, same⟩
  · obtain rfl : received.decoded = decoded := (Prod.mk.inj (same.symm.trans decodes)).1
    by_cases kind : cfPayloadKind (received.dataBuffer 2) = .memory
    · have made : received.decoded = applyMemory { received with
          cmd := received.dataBuffer 2, ctrlFlags := be16 received.dataBuffer 3 }
          received.framePayload := if_pos kind
      refine ⟨_, _, made, ?_⟩
      rw [made]
      exact admitted.memory kind
    · have made : received.decoded.cmd = received.dataBuffer 2 := by
        unfold Handle.decoded
        dsimp only
        rw [if_neg kind]
      exact (kind (payloadKind_of_memory (made ▸ memory))).elim
  · exact (bad (Prod.mk.inj (same.symm.trans decodes)).2).elim

/-- The decoder accepts no memory command for a chip without a byte. -/
theorem Decoded.nonempty {b : Build} {decoded : Handle} (made : Decoded b decoded)
    (memory : isMemoryCmd decoded.cmd = true) : 0 < decoded.memSize := by
  obtain ⟨h, p, same, valid⟩ := made.validated memory
  have size : decoded.memSize = be32 p cfMemoryOffMemSize := congrArg Handle.memSize same
  rw [size]
  exact validateMemory_nonempty valid memory

theorem bounded_of_accepted {env : Env} {w : World} (memory : isMemoryCmd w.handle.cmd = true)
    (accepted : Accepted env w) : w.handle.Bounded := by
  obtain ⟨driver, decoded, made, -, -, ⟨same, -⟩, -⟩ := accepted.setUp memory
  have generic : (decoded.withoutCallbacks.withMemoryCallbacks.withReadHighMask env.build
      w.hardwareRevision).WritesInMain := by
    refine ⟨nofun, fun c named => ?_, nofun⟩
    have named : (if decoded.cmd == cmdRead then some Callback.memoryReadExecute
      else if decoded.cmd == cmdWrite then some Callback.memoryWriteExecute else none) = some c :=
      named
    split_ifs at named <;> cases named <;> exact fun writes => Bool.noConfusion writes
  have installed := driver.configured_writesInMain generic
  have unchanged := driver.configured_unconfigured
    (decoded.withoutCallbacks.withMemoryCallbacks.withReadHighMask env.build w.hardwareRevision)
  have unchangedCmd := congrArg Handle.cmd unchanged
  have unchangedSize := congrArg Handle.memSize unchanged
  have cmd : w.handle.cmd = decoded.cmd := (congrArg Handle.cmd same).trans unchangedCmd
  have size : w.handle.memSize = decoded.memSize :=
    (congrArg Handle.memSize same).trans unchangedSize
  have init := congrArg Handle.firestarterOperationInit same
  have main := congrArg Handle.firestarterOperationMain same
  have finish := congrArg Handle.firestarterOperationEnd same
  refine { init := fun c named => ?_, main := fun c named writes => ?_, finish := fun c named => ?_
           nonempty := ?_ }
  · exact installed.init c (init.symm.trans named)
  · exact (cmd.trans unchangedCmd.symm).trans (installed.main c (main.symm.trans named) writes)
  · exact installed.finish c (finish.symm.trans named)
  · rw [size]
    exact made.nonempty (cmd ▸ memory)

/-! ## The law -/

variable {env : Env} {h : Handle}

/-- A run of a callback that stays inside the chip it was entered for. -/
def InsideRun (c : Callback) (s s' : World) : Prop :=
  CallbackStep s s' ∧ (0 < s.handle.memSize → InsideStep s.handle.memSize c s s')

theorem ends_inside {c : Callback} (configures : c ≠ .configureMemory) (w : World) :
    Ends (dispatch c) env w (fun _ w' => InsideRun c w w') (InsideRun c w) := by
  have step := (@within_callback env c configures).ends w
  by_cases nonempty : 0 < w.handle.memSize
  · have : Fact (0 < w.handle.memSize) := ⟨nonempty⟩
    have inside := (@within_inside_dispatch env w.handle.memSize _ c configures).ends w
    exact (step.and inside).mono (fun _ _ both => ⟨both.1, fun _ => both.2⟩)
      fun _ both => ⟨both.1, fun _ => both.2⟩
  · exact step.mono (fun _ _ step => ⟨step, fun nonempty' => (nonempty nonempty').elim⟩)
      fun _ step => ⟨step, fun nonempty' => (nonempty nonempty').elim⟩

/-- An access is inside the chip, unless a sector erase was let out of it. -/
def AccessInside (memSize : U32) (pre : List Event) (e : Event) : Prop :=
  ErasesInside pre → e.staysIn memSize (runningCallback pre) = true

theorem Event.staysIn_of_untouched {memSize : U32} {callback : Option Callback} {e : Event}
    (untouched : e.isAccess = false) : e.staysIn memSize callback = true := by
  cases e <;> first | rfl | cases untouched

/-- The engine enters a callback with what it counts on; only the erase may find another address. -/
theorem admits_of_enters (bounded : h.Bounded) {callback : Callback} {entry : Handle}
    (enters : Enters env.build h callback entry)
    (erases : callback = .flashNorUnlockEraseExecute → entry.address < entry.memSize) :
    callback.admits entry := by
  have chunk (writes : callback.writesChunk = true) :
      entry.address.toNat + entry.dataSize.toNat ≤ entry.memSize.toNat := by
    cases enters with
    | @housekeeping st found =>
      cases st with
      | inInit => rw [bounded.init callback found] at writes; cases writes
      | inEnd => rw [bounded.finish callback found] at writes; cases writes
      | _ => cases found
    | chunk found fits =>
      have region : entry.operationEnd.toNat ≤ entry.memSize.toNat := entry.operationEnd_le
      exact Nat.le_trans (memUtilRangeFits_toNat fits.2) region
    | step found other => exact (other (bounded.main callback found writes)).elim
  cases callback with
  | flashNorUnlockEraseExecute => exact erases rfl
  | epromWriteExecute | flashIntelWriteExecute | eeprom28cWriteExecute
  | flashNorUnlockWriteExecute | flash5vPageWriteExecute => exact chunk rfl
  | _ => exact trivial

/-- What a run of a callback adds is inside the chip. -/
theorem each_of_ran (bounded : h.Bounded) {callback : Callback} {w w' : World}
    {es new : List Event} (same : w.handle.parameters = h.parameters)
    (enters : Enters env.build h callback w.handle) (run : InsideRun callback (w.calling callback) w')
    (trace : w'.trace = new ++ (w.calling callback).trace) (noise : ∀ e ∈ new, e.isNoise = true) :
    EachAfter (fun pre => AccessInside h.memSize (es ++ pre))
      (.called callback w.handle :: new.reverse) := by
  have size := congrArg Handle.memSize same
  have size : w.handle.memSize = h.memSize := size
  refine @EachAfter.append _ [.called callback w.handle] new.reverse
    (.of_one fun _ => Event.staysIn_of_untouched rfl) ?_
  intro pre e post split erases
  have split : new.reverse = pre ++ e :: post := split
  have running : runningCallback (es ++ ([.called callback w.handle] ++ pre)) = some callback := by
    rw [← List.append_assoc, runningCallback_noise, runningCallback_snoc]
    · rfl
    · intro e' member
      refine noise e' (List.mem_reverse.mp ?_)
      rw [split]
      exact List.mem_append_left _ member
  have admitted : callback.admits w.handle := by
    refine admits_of_enters bounded enters fun erase => ?_
    subst erase
    exact erases w.handle (by simp)
  obtain ⟨-, adds⟩ := run.2 (size ▸ bounded.nonempty) ⟨rfl, admitted⟩
  obtain ⟨new', trace', inside⟩ := adds.adds
  obtain rfl : new = new' := List.append_cancel_right (trace.symm.trans trace')
  rw [running, ← size]
  refine inside e (List.mem_reverse.mp ?_)
  rw [split]
  exact List.mem_append_right _ List.mem_cons_self

/-- The law of the commands' array accesses. -/
def boundsLaw (env : Env) (h : Handle) : EventLaw env h where
  law es := h.Bounded ∧ EachAfter (AccessInside h.memSize) es
  D := InsideRun
  C := InsideRun
  runs configures := ⟨ends_inside configures, fun _ _ run => run.1⟩
  cut run := run.1
  begins memory accepted same := by
    subst same
    refine ⟨bounded_of_accepted memory accepted, fun pre e post split => ?_⟩
    cases List.append_eq_nil_iff.mp split.symm with
    | intro _ absurd => cases absurd
  aside aside law := by
    refine ⟨law.1, law.2.append (.of_one fun _ => Event.staysIn_of_untouched ?_)⟩
    unfold Event.isAside at aside
    simp only [Bool.and_eq_true, Bool.not_eq_true'] at aside
    exact aside.1.2
  ran same enters law run trace noise :=
    ⟨law.1, law.2.append (each_of_ran law.1 same enters (run.elim id id) trace noise)⟩

/-! ## The erase that leaves the chip -/

/-- The byte of a command sequence was newly written. -/
def Flipped (flip : ByteFlip) (w w' : World) : Prop :=
  ∃ new, w'.trace = new ++ w.trace ∧
    ∃ latches, .flipped flip.address flip.byte latches ∈ new

theorem Flipped.continues {flip : ByteFlip} {w w₁ w' : World} (flipped : Flipped flip w w₁)
    (more : Continues w₁ w') : Flipped flip w w' := by
  obtain ⟨new, trace, latches, member⟩ := flipped
  obtain ⟨new', trace'⟩ := more
  refine ⟨new' ++ new, ?_, latches, List.mem_append_right _ member⟩
  rw [← trace', trace, List.append_assoc]

theorem ends_flip {flip : ByteFlip} {w s : World} (earlier : Continues w s) :
    Ends (fuFlashFlipData flip.address flip.byte) env s (fun _ s' => Flipped flip w s')
      (fun _ => True) := by
  unfold fuFlashFlipData
  refine Within.bind_ends (S := Continues) inferInstance (fun _ s₁ c₁ => ?_) fun _ _ => trivial
  refine Within.bind_ends (S := Continues) inferInstance (fun h s₂ c₂ => ?_) fun _ _ => trivial
  refine Within.bind_ends (S := Continues) inferInstance (fun control s₃ c₃ => ?_) fun _ _ => trivial
  refine Within.bind_ends (S := Continues) inferInstance (fun _ s₄ c₄ => ?_) fun _ _ => trivial
  refine Within.bind_ends (S := Continues) inferInstance (fun _ s₅ c₅ => ?_) fun _ _ => trivial
  refine Within.bind_ends (S := Continues) inferInstance (fun _ s₆ c₆ => ?_) fun _ _ => trivial
  refine Within.bind_ends (S := Continues) inferInstance (fun _ s₇ c₇ => ?_) fun _ _ => trivial
  obtain ⟨new, trace⟩ := trans_of Continues earlier <| trans_of Continues c₁ <|
    trans_of Continues c₂ <| trans_of Continues c₃ <| trans_of Continues c₄ <|
    trans_of Continues c₅ <| trans_of Continues c₆ c₇
  refine ⟨.flipped flip.address flip.byte s₇.latches :: new, ?_, s₇.latches, List.mem_cons_self⟩
  exact congrArg (Event.flipped flip.address flip.byte s₇.latches :: ·) trace.symm

/-- A sequence writes each of its bytes. -/
theorem ends_flips {flips : List ByteFlip} {flip : ByteFlip} (member : flip ∈ flips) (w : World) :
    Ends (flashUtilByteFlipping flips) env w (fun _ w' => Flipped flip w w') (fun _ => True) := by
  unfold flashUtilByteFlipping
  refine Within.bind_ends (S := Continues) inferInstance (fun _ w₁ c₁ => ?_) fun _ _ => trivial
  rw [ends_bind]
  refine ends_forM (fun rest s => Continues w s ∧ (flip ∈ rest ∨ Flipped flip w s))
    (fun next rest s held => ?_) (fun s held => ?_) flips w₁ ⟨c₁, .inl member⟩
  · have step : Within env Continues (fuFlashFlipData next.address next.byte) := inferInstance
    have grown := (step.ends s).and (@ends_flip env next w s held.1)
    refine grown.mono (fun _ s' both => ⟨trans_of Continues held.1 both.1, ?_⟩) fun _ _ => trivial
    rcases held.2 with here | done
    · rcases List.mem_cons.mp here with rfl | later
      · exact .inr both.2
      · exact .inl later
    · exact .inr (done.continues both.1)
  · have flipped := held.2.resolve_left (List.not_mem_nil)
    exact (Within.ends (R := Continues) inferInstance s).mono
      (fun _ _ more => flipped.continues more) fun _ _ => trivial

/-- The sector erase goes to the address in the handle, wherever that lies. -/
theorem ends_sectorErase {w : World} (sector : w.handle.address ≠ 0) :
    Ends (dispatch .flashNorUnlockEraseExecute) env w
      (fun _ w' => Flipped ⟨w.handle.address, sectorEraseConfirm⟩ w w') (fun _ => True) := by
  show Ends flashNorUnlockEraseExecute env w _ _
  unfold flashNorUnlockEraseExecute
  rw [ends_bind, ends_getHandle, if_pos (by simpa using sector), ends_bind]
  unfold flashNorUnlockSectorErase
  have last : (⟨w.handle.address, sectorEraseConfirm⟩ : ByteFlip) ∈ ([⟨0x5555, 0xAA⟩,
      ⟨0x2AAA, 0x55⟩, ⟨0x5555, 0x80⟩, ⟨0x5555, 0xAA⟩, ⟨0x2AAA, 0x55⟩,
      ⟨w.handle.address, 0x30⟩] : List ByteFlip) := by
    simp [sectorEraseConfirm]
  refine (ends_flips last w).mono (fun _ w₁ flipped => ?_) fun _ _ => trivial
  exact (Within.ends (R := Continues) inferInstance w₁).mono
    (fun _ _ more => flipped.continues more) fun _ _ => trivial

/-- In every run the array accesses of a memory command stay inside the chip, if every sector erase
was entered with an address inside it. One that was not, and ran to its end, erased beyond it. -/
theorem array_accesses_inside :
    (∀ w : World, Seen env w → ∀ (h : Handle) (es : List Event),
      commandEvents w.trace = some (h, es) → isMemoryCmd h.cmd = true → ErasesInside es →
      StaysInside h.memSize es) ∧
    ∀ w : World, 0 < w.handle.memSize → w.handle.memSize ≤ w.handle.address →
      Ends (dispatch .flashNorUnlockEraseExecute) env w
        (fun _ w' => Flipped ⟨w.handle.address, sectorEraseConfirm⟩ w w') (fun _ => True) := by
  refine ⟨fun w seen h es events memory erases pre e post split address array => ?_,
    fun w nonempty beyond => ends_sectorErase fun zero => ?_⟩
  · have law := (law_of_seen (boundsLaw env) seen events memory).2 pre e post split
    have inside := law fun entry called => erases entry (by rw [split]; exact List.mem_append_left _ called)
    rw [Event.staysIn, array] at inside
    exact of_decide_eq_true inside
  · rw [zero, BitVec.le_def] at beyond
    rw [BitVec.lt_def] at nonempty
    simp at beyond nonempty
    omega

/-- A Leonardo whose host erases the sector at this address of a 32 KiB part. -/
def sectorEraseEnv (address : U32) : Env :=
  (Env.still ⟨.leonardo, false⟩ 200).sends <|
    memoryFrame { cmd := cmdErase, ctrlFlags := flagCanErase, memSize := 0x8000, address := address
                  protocol := protoFlashNorUnlock, pins := 32, vppMv := 5000,
                  busConfig := { addressLines := [], rwLine := 0xFF, vppLine := 0xFF } } ++
      [asciiO, asciiK, asciiO, asciiK, asciiO, asciiK]

/-- No sector erase was entered with an address behind the chip. -/
def Event.erasesInside : Event → Bool
  | .called .flashNorUnlockEraseExecute entry => entry.address < entry.memSize
  | _ => true

/-- The sector at this address was erased. -/
def Event.erasesSector (address : U32) : Event → Bool
  | .flipped a data _ => a == address && data == sectorEraseConfirm
  | _ => false

theorem not_staysInside_of_erasesSector {memSize address : U32} {es : List Event}
    (erased : es.any (Event.erasesSector address) = true) (beyond : ¬ address < memSize) :
    ¬ StaysInside memSize es := by
  obtain ⟨e, member, erases⟩ := List.any_eq_true.mp erased
  obtain ⟨pre, post, split⟩ := List.append_of_mem member
  cases e with
  | flipped a data latches =>
    obtain ⟨here, confirm⟩ := Bool.and_eq_true_iff.mp erases
    obtain rfl := beq_iff_eq.mp here
    obtain rfl := beq_iff_eq.mp confirm
    intro inside
    exact beyond (inside pre _ post split a (if_neg fun fixed => fixed.2 rfl))
  | _ => cases erases

/-- The first address after the part is given to a sector erase. -/
theorem sector_erase_beyond_chip : ∃ (w : World) (h : Handle) (es : List Event),
    Seen (sectorEraseEnv 0x8000) w ∧ commandEvents w.trace = some (h, es) ∧
      isMemoryCmd h.cmd = true ∧ ¬ StaysInside h.memSize es := by
  have ran : commandAfter (sectorEraseEnv 0x8000) 3 (fun _ h es =>
      (isMemoryCmd h.cmd, h.memSize, es.any (Event.erasesSector 0x8000))) =
        some (true, 0x8000, true) := by
    decide +kernel
  obtain ⟨w, h, es, -, seen, events, ran⟩ := exists_of_commandAfter ran
  obtain ⟨memory, ran⟩ := Prod.mk.inj ran
  obtain ⟨size, erased⟩ := Prod.mk.inj ran
  refine ⟨w, h, es, seen, events, memory, ?_⟩
  refine not_staysInside_of_erasesSector erased ?_
  rw [size]
  decide

/-- A sector of the part is erased, and nothing beyond it; an address beyond it would be erased as
well. -/
theorem array_accesses_inside_sector :
    (∃ (w : World) (h : Handle) (es : List Event), commandEvents w.trace = some (h, es) ∧
      es.any (Event.erasesSector 0x4000) = true ∧ StaysInside h.memSize es) ∧
    Ends (dispatch .flashNorUnlockEraseExecute) (sectorEraseEnv 0x8000)
      { World.blank with handle := { memSize := 0x8000, address := 0x8000 } }
      (fun _ w' => Flipped ⟨0x8000, sectorEraseConfirm⟩
        { World.blank with handle := { memSize := 0x8000, address := 0x8000 } } w')
      (fun _ => True) := by
  have ran : commandAfter (sectorEraseEnv 0x4000) 3 (fun _ h es =>
      (isMemoryCmd h.cmd, es.any (Event.erasesSector 0x4000), es.all Event.erasesInside)) =
        some (true, true, true) := by
    decide +kernel
  obtain ⟨w, h, es, -, seen, events, ran⟩ := exists_of_commandAfter ran
  obtain ⟨memory, ran⟩ := Prod.mk.inj ran
  obtain ⟨erased, entries⟩ := Prod.mk.inj ran
  have erases : ErasesInside es := fun entry called =>
    of_decide_eq_true (List.all_eq_true.mp entries _ called)
  refine ⟨⟨w, h, es, events, erased, ?_⟩, ?_⟩
  · exact array_accesses_inside.1 w seen h es events memory erases
  · exact array_accesses_inside.2 _ (by decide) (by decide)

end Firestarter
