import Firestarter.BoardPorts

/-! The three boards serve the shield: a control line is switched in one store and alone, the data
functions end with the lines they promise and move no control line on the way, and a byte that is
read is the byte on the lines. -/
namespace Firestarter

open StoreSequence

theorem LeavesControl.of_stores {σ : Type} {connector : σ → Connector} {Ready : σ → Prop}
    {stores : Stores σ} {s : σ} (ready : Ready (settled stores s))
    (control : ∀ store ∈ stores, ∀ s, (connector (store s)).control = (connector s).control)
    (outputs : ∀ store ∈ stores, ∀ s,
      (connector (store s)).controlOutputs = (connector s).controlOutputs) :
    LeavesControl connector Ready stores s where
  ready := ready
  control _ member := look_passed (fun s => (connector s).control) control member
  outputs _ member := look_passed (fun s => (connector s).controlOutputs) outputs member

/-- A board whose serial port has pins of its own has nothing to do. -/
theorem ChangesMode.of_none {σ : Type} {connector : σ → Connector} {Ready : σ → Prop}
    {serialOpen : σ → Bool} {s : σ} {shares serial : Bool} (ready : Ready s)
    (same : serialOpen s = serial) :
    ChangesMode connector Ready serialOpen [] s shares serial where
  control := ⟨ready, by simp, by simp⟩
  serial := same
  unshared _ := rfl

/-- The five lines, and no other bit. -/
theorem controlLines_of_mem {pin : U8}
    (listed : pin ∈ controlPins) : pin &&& controlLines = pin ∧ pin &&& 0x10 = 0 := by
  revert pin
  decide

/-- Masking one line and looking at all five come in either order. -/
theorem switched_lines (pins pin : U8) (state : Bool) (line : pin &&& controlLines = pin) :
    (if state then pins ||| pin else pins &&& ~~~pin) &&& controlLines =
      if state then pins &&& controlLines ||| pin else pins &&& controlLines &&& ~~~pin := by
  cases state
  · simp only [Bool.false_eq_true, if_false]
    rw [BitVec.and_assoc, BitVec.and_comm (~~~pin), ← BitVec.and_assoc]
  · simp only [if_true]
    nth_rewrite 2 [← line]
    apply eq_of_lines <;> simp [controlLines_eq]

namespace Uno

theorem setControlPin_switches {p : Ports} {pin : U8} (state : Bool) (ready : p.Ready)
    (listed : pin ∈ controlPins) :
    SwitchesPin Ports.connector Ports.Ready Ports.serial (rurpSetControlPin pin state) p pin
      state := by
  obtain ⟨outputs, button⟩ := ready
  obtain ⟨line, other⟩ := controlLines_of_mem listed
  have one : rurpSetControlPin pin state =
      [fun p => { p with portB := if state then p.portB ||| pin else p.portB &&& ~~~pin }] := by
    cases state <;> rfl
  have bit4 : pin[4] = false := by
    have bit := congrArg (fun b : U8 => b[4]) other
    simpa using bit
  have pullUp : p.portB[4] = true := by
    have bit := congrArg (fun b : U8 => b[4]) button
    simpa [userButton] using bit
  rw [one]
  constructor
  · constructor
    · exact outputs
    · cases state <;> apply eq_of_lines <;> simp [userButton, bit4, pullUp]
  · rfl
  · refine ⟨0, 0, ?_⟩
    simp [Ports.connector, Connector.switched, switched_lines _ _ _ line]

/-- Stores to port D leave the control lines alone. -/
theorem leavesControl {stores : Stores Ports} {p : Ports} (ready : p.Ready)
    (still : ∀ store ∈ stores, ∀ p, (store p).portB = p.portB ∧ (store p).ddrB = p.ddrB)
    (settles : (settled stores p).portB = p.portB ∧ (settled stores p).ddrB = p.ddrB) :
    LeavesControl Ports.connector Ports.Ready stores p := by
  apply LeavesControl.of_stores
  · exact ⟨settles.2.trans ready.outputs, settles.1 ▸ ready.button⟩
  · intro store listed p
    simp [Ports.connector, still store listed p]
  · intro store listed p
    simp [Ports.connector, still store listed p]

theorem setDataOutput_settles {p : Ports} (ready : p.Ready) (closed : p.serial = false) :
    SettlesData Ports.connector Ports.Ready Ports.serial rurpSetDataOutput p
      p.connector.data 0xFF := by
  refine ⟨leavesControl ready ?_ ⟨rfl, rfl⟩, closed, rfl, ?_⟩
  · simp [rurpSetDataOutput]
  · simp [rurpSetDataOutput, Ports.connector, closed]

theorem setDataInput_settles {p : Ports} (ready : p.Ready) (closed : p.serial = false) :
    SettlesData Ports.connector Ports.Ready Ports.serial rurpSetDataInput p 0 0 := by
  refine ⟨leavesControl ready ?_ ⟨rfl, rfl⟩, closed, rfl, ?_⟩
  · simp [rurpSetDataInput]
  · simp [rurpSetDataInput, Ports.connector, closed]

theorem writeDataBuffer_settles {p : Ports} (data : U8) (ready : p.Ready)
    (closed : p.serial = false) :
    SettlesData Ports.connector Ports.Ready Ports.serial (rurpWriteDataBuffer data) p
      data 0xFF := by
  refine ⟨leavesControl ready ?_ ⟨rfl, rfl⟩, closed, rfl, ?_⟩
  · simp [rurpWriteDataBuffer, rurpSetDataOutput]
  · simp [rurpWriteDataBuffer, rurpSetDataOutput, Ports.connector, closed]

theorem setProgrammerMode_changes {p : Ports} (ready : p.Ready) :
    ChangesMode Ports.connector Ports.Ready Ports.serial rurpSetProgrammerMode p true false := by
  refine ⟨leavesControl ready ?_ ⟨rfl, rfl⟩, rfl, nofun⟩
  simp [rurpSetProgrammerMode]

theorem setCommunicationMode_changes {p : Ports} (ready : p.Ready) :
    ChangesMode Ports.connector Ports.Ready Ports.serial rurpSetCommunicationMode p true
      true := by
  refine ⟨leavesControl ready ?_ ⟨rfl, rfl⟩, rfl, nofun⟩
  simp [rurpSetCommunicationMode]

theorem faithful (b : Build) (uno : b.serialOnIo = true) (avr : b.board ≠ .py32f071) :
    port.Faithful b where
  outputs p ready := by
    have same : p.ddrB = controlLines := ready.outputs
    simp only [port, Ports.connector, same]
    rfl
  controlPin _ _ state ready listed := setControlPin_switches state ready listed
  dataOutput _ ready closed := setDataOutput_settles ready closed
  dataInput _ ready closed := by
    rw [if_neg avr]
    exact setDataInput_settles ready closed
  writeData _ data ready closed := writeDataBuffer_settles data ready closed
  readData _ _ := rfl
  programmerMode _ ready := by
    rw [uno]
    exact setProgrammerMode_changes ready
  communicationMode _ ready := by
    rw [uno]
    exact setCommunicationMode_changes ready

end Uno

namespace Leonardo

@[simp] theorem controlWiring_output_d (b c d : U8) :
    controlWiring b c (d ||| portdDataMask) = controlWiring b c d := by
  apply lines_eq <;> simp [controlWiring, portdDataMask, getElem_lines]

@[simp] theorem controlWiring_output_c (b c d : U8) :
    controlWiring b (c ||| portcDataMask) d = controlWiring b c d := by
  apply lines_eq <;> simp [controlWiring, portcDataMask, getElem_lines]

@[simp] theorem controlWiring_input_d (b c d : U8) :
    controlWiring b c (d &&& ~~~portdDataMask) = controlWiring b c d := by
  apply lines_eq <;> simp [controlWiring, portdDataMask, getElem_lines]

@[simp] theorem controlWiring_input_c (b c d : U8) :
    controlWiring b (c &&& ~~~portcDataMask) d = controlWiring b c d := by
  apply lines_eq <;> simp [controlWiring, portcDataMask, getElem_lines]

@[simp] theorem controlWiring_val_d (b c d data : U8) :
    controlWiring b c (d &&& ~~~portdDataMask ||| portdVal data) = controlWiring b c d := by
  apply lines_eq <;> simp [controlWiring, portdDataMask, portdVal, getElem_lines]

@[simp] theorem controlWiring_val_c (b c d data : U8) :
    controlWiring b (c &&& ~~~portcDataMask ||| portcVal data) d = controlWiring b c d := by
  apply lines_eq <;> simp [controlWiring, portcDataMask, portcVal, getElem_lines]

/-- Each of the three control stores shows its own bits of the variable. -/
theorem controlWiring_store_b (b c d pins : U8) :
    controlWiring (b &&& ~~~portbControlMask ||| pins <<< 4) c d =
      controlWiring b c d &&& 0x30 ||| pins &&& 0x0F := by
  apply lines_eq <;> simp [controlWiring, portbControlMask, getElem_lines]

theorem controlWiring_store_d (b c d pins : U8) :
    controlWiring b c (d &&& ~~~portdControlMask ||| (pins &&& 0x10) <<< 2) =
      controlWiring b c d &&& 0x2F ||| pins &&& 0x10 := by
  apply lines_eq <;> simp [controlWiring, portdControlMask, getElem_lines]

theorem controlWiring_store_c (b c d pins : U8) :
    controlWiring b (c &&& ~~~portcControlMask ||| (pins &&& 0x20) <<< 2) d =
      controlWiring b c d &&& 0x1F ||| pins &&& 0x20 := by
  apply lines_eq <;> simp [controlWiring, portcControlMask, getElem_lines]

/-- No control store reaches a data line. -/
@[simp] theorem dataWiring_store_d (c d e pins : U8) :
    dataWiring (d &&& ~~~portdControlMask ||| (pins &&& 0x10) <<< 2) c e = dataWiring d c e := by
  apply lines_eq <;> simp [dataWiring, portdControlMask, getElem_lines]

@[simp] theorem dataWiring_store_c (c d e pins : U8) :
    dataWiring d (c &&& ~~~portcControlMask ||| (pins &&& 0x20) <<< 2) e = dataWiring d c e := by
  apply lines_eq <;> simp [dataWiring, portcControlMask, getElem_lines]

@[simp] theorem dataWiring_val (d c e data : U8) :
    dataWiring (d &&& ~~~portdDataMask ||| portdVal data)
      (c &&& ~~~portcDataMask ||| portcVal data)
      (e &&& ~~~porteDataMask ||| porteVal data) = data := by
  apply lines_eq <;>
    simp [portdDataMask, portcDataMask, porteDataMask, portdVal, portcVal, porteVal]

@[simp] theorem dataWiring_output (d c e : U8) :
    dataWiring (d ||| portdDataMask) (c ||| portcDataMask) (e ||| porteDataMask) = 0xFF := by
  apply lines_eq <;> simp [portdDataMask, portcDataMask, porteDataMask]

@[simp] theorem dataWiring_input (d c e : U8) :
    dataWiring (d &&& ~~~portdDataMask) (c &&& ~~~portcDataMask) (e &&& ~~~porteDataMask) = 0 := by
  apply lines_eq <;> simp [portdDataMask, portcDataMask, porteDataMask]

/-- The bits come back in the order they were wired in. -/
theorem readDataBuffer_eq (p : Ports) (outside : Levels) :
    rurpReadDataBuffer p outside =
      p.connector.bus (dataWiring outside.d outside.c outside.e) := by
  apply eq_of_lines <;>
    simp [rurpReadDataBuffer, lineLevels, getElem_lines, Connector.bus, Ports.connector, dataWiring]

theorem setDataOutput_settles {p : Ports} (ready : p.Ready) :
    SettlesData Ports.connector Ports.Ready (fun _ => false) rurpSetDataOutput p
      p.connector.data 0xFF := by
  obtain ⟨shown, outputs⟩ := ready
  refine ⟨.of_stores ⟨?_, ?_⟩ ?_ ?_, rfl, rfl, ?_⟩
  · simpa [rurpSetDataOutput] using shown
  · simpa [rurpSetDataOutput] using outputs
  · simp [rurpSetDataOutput, Ports.connector]
  · simp [rurpSetDataOutput, Ports.connector]
  · simp [rurpSetDataOutput, Ports.connector]

theorem setDataInput_settles {p : Ports} (ready : p.Ready) :
    SettlesData Ports.connector Ports.Ready (fun _ => false) rurpSetDataInput p 0 0 := by
  obtain ⟨shown, outputs⟩ := ready
  refine ⟨.of_stores ⟨?_, ?_⟩ ?_ ?_, rfl, ?_, ?_⟩
  · simpa [rurpSetDataInput] using shown
  · simpa [rurpSetDataInput] using outputs
  · simp [rurpSetDataInput, Ports.connector]
  · simp [rurpSetDataInput, Ports.connector]
  · simp [rurpSetDataInput, Ports.connector]
  · simp [rurpSetDataInput, Ports.connector]

theorem writeDataBuffer_settles {p : Ports} (data : U8) (ready : p.Ready) :
    SettlesData Ports.connector Ports.Ready (fun _ => false) (rurpWriteDataBuffer data) p
      data 0xFF := by
  obtain ⟨shown, outputs⟩ := ready
  refine ⟨.of_stores ⟨?_, ?_⟩ ?_ ?_, rfl, ?_, ?_⟩
  · simpa [rurpWriteDataBuffer, rurpSetDataOutput] using shown
  · simpa [rurpWriteDataBuffer, rurpSetDataOutput] using outputs
  · simp [rurpWriteDataBuffer, rurpSetDataOutput, Ports.connector]
  · simp [rurpWriteDataBuffer, rurpSetDataOutput, Ports.connector]
  · simp [rurpWriteDataBuffer, rurpSetDataOutput, Ports.connector]
  · simp [rurpWriteDataBuffer, rurpSetDataOutput, Ports.connector]

/-- The connector when the ports show these control bits. -/
def Ports.showing (p : Ports) (pins : U8) : Connector :=
  { p.connector with control := pins &&& controlLines }

/-- The first store changes the variable only, and each of the other three shows its own bits. -/
theorem passed_setControlPin {p : Ports} (pin : U8) (state : Bool)
    (shown : controlWiring p.portB p.portC p.portD = p.controlPins &&& 0x3F) :
    let after := if state then p.controlPins ||| pin else p.controlPins &&& ~~~pin
    (passed (rurpSetControlPin pin state) p).map Ports.connector =
      [p.connector, p.showing (p.controlPins &&& 0x30 ||| after &&& 0x0F),
        p.showing (p.controlPins &&& 0x20 ||| after &&& 0x1F), p.showing after] := by
  intro after
  have second : (p.controlPins &&& 0x3F) &&& 0x30 ||| after &&& 0x0F =
      p.controlPins &&& 0x30 ||| after &&& 0x0F := by
    apply eq_of_lines <;> simp
  have third : (p.controlPins &&& 0x30 ||| after &&& 0x0F) &&& 0x2F ||| after &&& 0x10 =
      p.controlPins &&& 0x20 ||| after &&& 0x1F := by
    apply eq_of_lines <;> simp
  have last : (((p.controlPins &&& 0x30 ||| after &&& 0x0F) &&& 0x1F ||| after &&& 0x20) &&& 0x2F
      ||| after &&& 0x10) &&& controlLines = after &&& controlLines := by
    apply eq_of_lines <;> simp [controlLines_eq]
  simp only [rurpSetControlPin, passed_cons, passed_nil, List.map_cons, List.map_nil,
    Ports.connector, Ports.showing, controlWiring_store_b, controlWiring_store_c,
    controlWiring_store_d, dataWiring_store_c, dataWiring_store_d, shown]
  simp only [after] at second third last
  simp only [second, third, last, after]

theorem switched_low {pins pin : U8} (state : Bool) (low : pin &&& 0x0F = pin) :
    let after := if state then pins ||| pin else pins &&& ~~~pin
    (pins &&& 0x30 ||| after &&& 0x0F) &&& controlLines = after &&& controlLines ∧
      (pins &&& 0x20 ||| after &&& 0x1F) &&& controlLines = after &&& controlLines := by
  have bit := congrArg (fun b : U8 => b[5]) low
  have above : pin[5] = false := by simpa using bit.symm
  cases state <;> constructor <;> apply eq_of_lines <;> simp [controlLines_eq, above]

theorem switched_high (pins : U8) (state : Bool) :
    let after := if state then pins ||| chipEnable else pins &&& ~~~chipEnable
    (pins &&& 0x30 ||| after &&& 0x0F) &&& controlLines = pins &&& controlLines ∧
      (pins &&& 0x20 ||| after &&& 0x1F) &&& controlLines = pins &&& controlLines := by
  cases state <;> constructor <;> apply eq_of_lines <;> simp [controlLines_eq, chipEnable]

/-- The line that moves does so in one store: the low four in the store to port B, chip enable in
the one to port C. -/
theorem setControlPin_switches {p : Ports} {pin : U8} (state : Bool) (ready : p.Ready)
    (listed : pin ∈ controlPins) :
    SwitchesPin Ports.connector Ports.Ready (fun _ => false) (rurpSetControlPin pin state) p pin
      state := by
  obtain ⟨shown, outputs⟩ := ready
  have before : p.connector = p.showing p.controlPins := by
    have lines : (p.controlPins &&& 0x3F) &&& controlLines = p.controlPins &&& controlLines := by
      apply eq_of_lines <;> simp [controlLines_eq]
    simp only [Ports.showing, Ports.connector, shown, lines]
  have line := (controlLines_of_mem listed).1
  constructor
  · constructor
    · simp only [rurpSetControlPin, settled_cons, settled_nil, controlWiring_store_b,
        controlWiring_store_c, controlWiring_store_d]
      apply eq_of_lines <;> simp
    · simpa [rurpSetControlPin] using outputs
  · rfl
  · have after : p.connector.switched pin state =
        p.showing (if state then p.controlPins ||| pin else p.controlPins &&& ~~~pin) := by
      unfold Ports.showing
      rw [switched_lines _ _ _ line, before]
      rfl
    rw [passed_setControlPin pin state shown, after]
    by_cases chip : pin = chipEnable
    · subst chip
      obtain ⟨second, third⟩ := switched_high p.controlPins state
      refine ⟨3, 0, ?_⟩
      rw [before]
      simp only [Ports.showing, second, third]
      rfl
    · have low : pin &&& 0x0F = pin := by
        have table : ∀ pin ∈ controlPins, pin ≠ chipEnable → pin &&& 0x0F = pin := by decide
        exact table pin listed chip
      obtain ⟨second, third⟩ := @switched_low p.controlPins pin state low
      refine ⟨1, 2, ?_⟩
      simp only [Ports.showing, second, third]
      rfl

theorem faithful (b : Build) (leonardo : b.board = .leonardo) : port.Faithful b where
  outputs p ready := by
    have same : controlWiring p.ddrB p.ddrC p.ddrD = 0x3F := ready.outputs
    simp only [port, Ports.connector, same]
    rfl
  controlPin _ _ state ready listed := setControlPin_switches state ready listed
  dataOutput _ ready _ := setDataOutput_settles ready
  dataInput _ ready _ := by
    rw [leonardo, if_neg (by decide)]
    exact setDataInput_settles ready
  writeData _ data ready _ := writeDataBuffer_settles data ready
  readData := readDataBuffer_eq
  programmerMode _ ready := .of_none ready rfl
  communicationMode _ ready := by
    have unshared : b.serialOnIo = false := by simp [Build.serialOnIo, leonardo]
    rw [unshared]
    exact .of_none ready rfl

end Leonardo

namespace Py32f071

/-- Each control line has the port pin of its own number. -/
theorem controlPinToGpio_of_mem {pin : U8}
    (listed : pin ∈ controlPins) : controlPinToGpio pin = some (pin.setWidth 16) := by
  revert pin
  decide

/-- A store to the upper half of `BSRR` clears, one to the lower half sets. -/
theorem bsrr_setWidth (odr : U16) (pin : U8) (state : Bool) :
    (bsrr odr (if state then (pin.setWidth 16).setWidth 32
      else (pin.setWidth 16).setWidth 32 <<< 16)).setWidth 8 =
      if state then odr.setWidth 8 ||| pin else odr.setWidth 8 &&& ~~~pin := by
  cases state <;> apply eq_of_lines <;> simp [bsrr]

/-- Every line is either in the half that sets or in the half that clears. -/
theorem bsrr_data (odr : U16) (data : U8) :
    (bsrr odr (data.setWidth 32 <<< dataShift |||
      ((~~~data).setWidth 32 &&& 0xFF) <<< (dataShift + 16))).setWidth 8 = data := by
  apply eq_of_lines <;> simp [bsrr, dataShift]

theorem outputLines_output (moder : U32) :
    outputLines (moder &&& ~~~dataModeMask ||| 0x5555 <<< (dataShift * 2)) = 0xFF := by
  apply lines_eq <;> simp [isOutput, dataModeMask, dataShift]

theorem outputLines_input (moder : U32) :
    outputLines (moder &&& ~~~dataModeMask) = 0 := by
  apply lines_eq <;> simp [isOutput, dataModeMask, dataShift]

theorem pushPull (otyper : U32) : (otyper &&& ~~~dataPinMask).setWidth 8 = (0 : U8) := by
  apply eq_of_lines <;> simp [dataPinMask, dataShift]

theorem setControlPin_switches {p : Ports} {pin : U8} (state : Bool) (ready : p.Ready)
    (listed : pin ∈ controlPins) :
    SwitchesPin Ports.connector Ports.Ready (fun _ => false) (rurpSetControlPin pin state) p pin
      state := by
  have line := (controlLines_of_mem listed).1
  unfold rurpSetControlPin
  rw [controlPinToGpio_of_mem listed]
  constructor
  · exact ready
  · rfl
  · refine ⟨0, 0, ?_⟩
    simp only [Ports.connector, Connector.switched, passed_cons, passed_nil, List.map_cons,
      List.map_nil, bsrr_setWidth, switched_lines _ _ _ line]
    rfl

/-- Stores to port B leave the control lines alone. -/
theorem leavesControl {stores : Stores Ports} {p : Ports} (ready : p.Ready)
    (still : ∀ store ∈ stores, ∀ p, (store p).odrA = p.odrA ∧ (store p).moderA = p.moderA)
    (settles : (settled stores p).moderA = p.moderA) :
    LeavesControl Ports.connector Ports.Ready stores p := by
  apply LeavesControl.of_stores
  · unfold Ports.Ready
    rw [settles]
    exact ready
  · intro store listed p
    simp [Ports.connector, still store listed p]
  · intro store listed p
    simp [Ports.connector, still store listed p]

theorem readDataBuffer_eq (p : Ports) (outside : U16) :
    rurpReadDataBuffer p outside = p.connector.bus (outside.setWidth 8) := by
  generalize level : p.connector.bus (outside.setWidth 8) = bus
  apply eq_of_lines <;> simp [rurpReadDataBuffer, Ports.idr, dataShift, level]

theorem setDataOutput_settles {p : Ports} (ready : p.Ready) :
    SettlesData Ports.connector Ports.Ready (fun _ => false) rurpSetDataOutput p
      p.connector.data 0xFF := by
  refine ⟨leavesControl ready ?_ rfl, rfl, rfl, ?_⟩
  · simp [rurpSetDataOutput]
  · simp only [rurpSetDataOutput, Ports.connector, settled_cons, settled_nil, outputLines_output,
      pushPull]
    rfl

/-- The port keeps its bits: there are no pull-ups behind them. -/
theorem setDataInput_settles {p : Ports} (ready : p.Ready) :
    SettlesData Ports.connector Ports.Ready (fun _ => false) rurpSetDataInput p
      p.connector.data 0 := by
  refine ⟨leavesControl ready ?_ rfl, rfl, rfl, ?_⟩
  · simp [rurpSetDataInput]
  · simp [rurpSetDataInput, Ports.connector, outputLines_input]

theorem writeDataBuffer_settles {p : Ports} (data : U8) (ready : p.Ready) :
    SettlesData Ports.connector Ports.Ready (fun _ => false) (rurpWriteDataBuffer data) p
      data 0xFF := by
  refine ⟨leavesControl ready ?_ rfl, rfl, bsrr_data _ _, ?_⟩
  · simp [rurpWriteDataBuffer, rurpSetDataOutput]
  · simp only [rurpWriteDataBuffer, rurpSetDataOutput, Ports.connector, List.cons_append,
      List.nil_append, settled_cons, settled_nil, outputLines_output, pushPull]
    rfl

theorem faithful (b : Build) (py32 : b.board = .py32f071) : port.Faithful b where
  outputs _ ready := ready
  controlPin _ _ state ready listed := setControlPin_switches state ready listed
  dataOutput _ ready _ := setDataOutput_settles ready
  dataInput _ ready _ := by
    rw [if_pos py32]
    exact setDataInput_settles ready
  writeData _ data ready _ := writeDataBuffer_settles data ready
  readData := readDataBuffer_eq
  programmerMode _ ready := .of_none ready rfl
  communicationMode _ ready := by
    have unshared : b.serialOnIo = false := by simp [Build.serialOnIo, py32]
    rw [unshared]
    exact .of_none ready rfl

end Py32f071

theorem boardPort_faithful (b : Build) : (boardPort b.board).Faithful b := by
  obtain ⟨board, devTools⟩ := b
  cases board with
  | uno => exact Uno.faithful _ rfl nofun
  | uno328pb => exact Uno.faithful _ rfl nofun
  | leonardo => exact Leonardo.faithful _ rfl
  | py32f071 => exact Py32f071.faithful _ rfl

end Firestarter
