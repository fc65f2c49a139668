import Firestarter.AddressLines
import Firestarter.StoreSequence
import Mathlib.Tactic.IntervalCases

/-! The ports of the three boards under the shield, from `uno_rurp_shield.cpp`,
`leonardo_rurp_shield.cpp` and `py32f071_rurp_shield.cpp`. Each board drives the same eight data
lines and five control lines through registers of its own, one store after another, and the shield
sees the lines after every store. What a board owes the shield is `BoardPort.Faithful`. -/
namespace Firestarter

open StoreSequence

/-! ## The connector -/

/-- The five control lines, as bits of the control port. -/
def controlLines : U8 :=
  leastSignificantByte ||| mostSignificantByte ||| outputEnable ||| controlRegister ||| chipEnable

theorem controlLines_eq : controlLines = 0x2F := rfl

/-- The strobes of the three latches. -/
def strobes : List U8 := [leastSignificantByte, mostSignificantByte, controlRegister]

/-- The chip's two active-low lines. -/
def chipLines : List U8 := [chipEnable, outputEnable]

def controlPins : List U8 := strobes ++ chipLines

/-- The lines of a port: driven to the port's bit where they are outputs, else at the level they
get from elsewhere. -/
def lineLevels (bits outputs elsewhere : U8) : U8 := bits &&& outputs ||| elsewhere &&& ~~~outputs

/-- Eight lines as a byte, line 0 first. -/
def lines (l0 l1 l2 l3 l4 l5 l6 l7 : Bool) : U8 :=
  BitVec.ofBoolListLE [l0, l1, l2, l3, l4, l5, l6, l7]

theorem getElem_lines (l0 l1 l2 l3 l4 l5 l6 l7 : Bool) (i : Nat) (small : i < 8) :
    (lines l0 l1 l2 l3 l4 l5 l6 l7)[i] = [l0, l1, l2, l3, l4, l5, l6, l7].getD i false := by
  have listed : (lines l0 l1 l2 l3 l4 l5 l6 l7).getLsbD i = _ := BitVec.getLsbD_ofBoolListLE
  rw [← listed, BitVec.getLsbD_eq_getElem small]

/-- A byte is known by its eight lines. -/
theorem lines_eq {l0 l1 l2 l3 l4 l5 l6 l7 : Bool} {b : U8} (h0 : l0 = b[0]) (h1 : l1 = b[1])
    (h2 : l2 = b[2]) (h3 : l3 = b[3]) (h4 : l4 = b[4]) (h5 : l5 = b[5]) (h6 : l6 = b[6])
    (h7 : l7 = b[7]) : lines l0 l1 l2 l3 l4 l5 l6 l7 = b := by
  apply BitVec.eq_of_getElem_eq
  intro i small
  rw [getElem_lines]
  interval_cases i <;> assumption

theorem eq_of_lines {a b : U8} (h0 : a[0] = b[0]) (h1 : a[1] = b[1]) (h2 : a[2] = b[2])
    (h3 : a[3] = b[3]) (h4 : a[4] = b[4]) (h5 : a[5] = b[5]) (h6 : a[6] = b[6])
    (h7 : a[7] = b[7]) : a = b :=
  (lines_eq rfl rfl rfl rfl rfl rfl rfl rfl).symm.trans (lines_eq h0 h1 h2 h3 h4 h5 h6 h7)

/-- What a board drives: the bits behind its control and data lines, and which are outputs. -/
structure Connector where
  control : U8
  controlOutputs : U8
  data : U8
  dataOutputs : U8
  deriving DecidableEq

namespace Connector

def level (c : Connector) (line : U8) : Bool := c.control &&& line != 0

def bus (c : Connector) (elsewhere : U8) : U8 := lineLevels c.data c.dataOutputs elsewhere

/-- One control line takes another level. -/
def switched (c : Connector) (pin : U8) (state : Bool) : Connector :=
  { c with control := if state then c.control ||| pin else c.control &&& ~~~pin }

end Connector

/-! ## What is asked of a board -/

section
variable {σ : Type} (connector : σ → Connector) (Ready : σ → Prop) (serialOpen : σ → Bool)

/-- A control line is switched, once, and nothing else moves with it. -/
structure SwitchesPin (stores : Stores σ) (s : σ) (pin : U8) (state : Bool) : Prop where
  ready : Ready (settled stores s)
  serial : serialOpen (settled stores s) = serialOpen s
  switches : Switches (connector s) ((connector s).switched pin state)
    ((passed stores s).map connector)

/-- Stores that leave the control lines alone, all the way. -/
structure LeavesControl (stores : Stores σ) (s : σ) : Prop where
  ready : Ready (settled stores s)
  control : ∀ s' ∈ passed stores s, (connector s').control = (connector s).control
  outputs : ∀ s' ∈ passed stores s, (connector s').controlOutputs = (connector s).controlOutputs

/-- They leave the data lines like this, and the serial port closed. -/
structure SettlesData (stores : Stores σ) (s : σ) (data outputs : U8) : Prop where
  control : LeavesControl connector Ready stores s
  serial : serialOpen (settled stores s) = false
  data : (connector (settled stores s)).data = data
  dataOutputs : (connector (settled stores s)).dataOutputs = outputs

/-- They hand the shared lines over, where the board shares any. -/
structure ChangesMode (stores : Stores σ) (s : σ) (shares serial : Bool) : Prop where
  control : LeavesControl connector Ready stores s
  serial : serialOpen (settled stores s) = serial
  unshared : shares = false → connector (settled stores s) = connector s

end

/-- A board's functions, each with the stores it makes. -/
structure BoardPort where
  State : Type
  /-- The levels that come from outside, on every pin the board reads. -/
  Outside : Type
  connector : State → Connector
  elsewhere : Outside → U8
  /-- The serial port has taken over the data lines it shares. -/
  serialOpen : State → Bool
  /-- What the board's setup establishes. -/
  Ready : State → Prop
  rurpSetControlPin : U8 → Bool → Stores State
  rurpSetDataOutput : Stores State
  rurpSetDataInput : Stores State
  rurpWriteDataBuffer : U8 → Stores State
  rurpReadDataBuffer : State → Outside → U8
  rurpSetProgrammerMode : Stores State
  rurpSetCommunicationMode : Stores State

/-- A board that serves the shield. The data functions are promised only while the serial port
leaves the lines to them. -/
structure BoardPort.Faithful (port : BoardPort) (b : Build) : Prop where
  outputs : ∀ s, port.Ready s → (port.connector s).controlOutputs = controlLines
  controlPin : ∀ s pin state, port.Ready s →
    pin ∈ controlPins →
    SwitchesPin port.connector port.Ready port.serialOpen (port.rurpSetControlPin pin state) s pin
      state
  dataOutput : ∀ s, port.Ready s → port.serialOpen s = false →
    SettlesData port.connector port.Ready port.serialOpen port.rurpSetDataOutput s
      (port.connector s).data 0xFF
  dataInput : ∀ s, port.Ready s → port.serialOpen s = false →
    SettlesData port.connector port.Ready port.serialOpen port.rurpSetDataInput s
      (if b.board = .py32f071 then (port.connector s).data else 0) 0
  writeData : ∀ s data, port.Ready s → port.serialOpen s = false →
    SettlesData port.connector port.Ready port.serialOpen (port.rurpWriteDataBuffer data) s
      data 0xFF
  readData : ∀ s outside,
    port.rurpReadDataBuffer s outside = (port.connector s).bus (port.elsewhere outside)
  programmerMode : ∀ s, port.Ready s →
    ChangesMode port.connector port.Ready port.serialOpen port.rurpSetProgrammerMode s
      b.serialOnIo false
  communicationMode : ∀ s, port.Ready s →
    ChangesMode port.connector port.Ready port.serialOpen port.rurpSetCommunicationMode s
      b.serialOnIo b.serialOnIo

/-! ## The Uno class -/

namespace Uno

def userButton : U8 := 0x10

/-- The registers of ports B and D; on port D the UART takes over the two lines it shares. -/
structure Ports where
  portB : U8
  ddrB : U8
  portD : U8
  ddrD : U8
  serial : Bool

/-- The port pins are the shield's lines, bit for bit. -/
def Ports.connector (p : Ports) : Connector where
  control := p.portB &&& controlLines
  controlOutputs := p.ddrB &&& controlLines
  data := p.portD
  dataOutputs := if p.serial then p.ddrD &&& 0xFC else p.ddrD

/-- The button keeps its pull-up. -/
structure Ports.Ready (p : Ports) : Prop where
  outputs : p.ddrB = controlLines
  button : p.portB &&& userButton = userButton

def rurpSetControlPin (pin : U8) (state : Bool) : Stores Ports :=
  if state then [fun p => { p with portB := p.portB ||| pin }]
  else [fun p => { p with portB := p.portB &&& ~~~pin }]

def rurpSetDataOutput : Stores Ports := [fun p => { p with ddrD := 0xFF }]

def rurpSetDataInput : Stores Ports :=
  [fun p => { p with portD := 0x00 }, fun p => { p with ddrD := 0x00 }]

def rurpWriteDataBuffer (data : U8) : Stores Ports :=
  rurpSetDataOutput ++ [fun p => { p with portD := data }]

/-- `PIND` -/
def rurpReadDataBuffer (p : Ports) (outside : U8) : U8 := p.connector.bus outside

/-- The line that is UART RX and data bit 0 is driven high before it is let go. -/
def rurpSetCommunicationMode : Stores Ports :=
  [fun p => { p with portD := p.portD ||| 0x01 },
    fun p => { p with ddrD := p.ddrD &&& ~~~0x01 },
    fun p => { p with serial := true }]

def rurpSetProgrammerMode : Stores Ports :=
  [fun p => { p with serial := false }, fun p => { p with ddrD := p.ddrD ||| 0x01 }]

/-- `rurp_board_setup` up to its first call of a shield function. -/
def configurePins : Stores Ports :=
  [fun p => { p with portB := userButton ||| outputEnable ||| chipEnable },
    fun p => { p with
      ddrB := leastSignificantByte ||| mostSignificantByte ||| controlRegister |||
        outputEnable ||| chipEnable }]

def port : BoardPort where
  State := Ports
  Outside := U8
  connector := Ports.connector
  elsewhere := id
  serialOpen := Ports.serial
  Ready := Ports.Ready
  rurpSetControlPin := rurpSetControlPin
  rurpSetDataOutput := rurpSetDataOutput
  rurpSetDataInput := rurpSetDataInput
  rurpWriteDataBuffer := rurpWriteDataBuffer
  rurpReadDataBuffer := rurpReadDataBuffer
  rurpSetProgrammerMode := rurpSetProgrammerMode
  rurpSetCommunicationMode := rurpSetCommunicationMode

end Uno

/-! ## The Leonardo -/

namespace Leonardo

def portcDataMask : U8 := 0x40
def portdDataMask : U8 := 0x9F
def porteDataMask : U8 := 0x40
def portbControlMask : U8 := 0xF0
def portdControlMask : U8 := 0x40
def portcControlMask : U8 := 0x80

/-- The registers of the ports, and the variable that holds the logical control lines. -/
structure Ports where
  portB : U8
  portC : U8
  portD : U8
  portE : U8
  ddrB : U8
  ddrC : U8
  ddrD : U8
  ddrE : U8
  controlPins : U8

/-- Where the data lines D0 to D7 go: PD2, PD3, PD1, PD0, PD4, PC6, PD7 and PE6. -/
def dataWiring (portD portC portE : U8) : U8 :=
  lines portD[2] portD[3] portD[1] portD[0] portD[4] portC[6] portD[7] portE[6]

/-- Where the logical control bits 0 to 5 go: PB4 to PB7, PD6 and PC7. -/
def controlWiring (portB portC portD : U8) : U8 :=
  lines portB[4] portB[5] portB[6] portB[7] portD[6] portC[7] false false

def Ports.connector (p : Ports) : Connector where
  control := controlWiring p.portB p.portC p.portD &&& controlLines
  controlOutputs := controlWiring p.ddrB p.ddrC p.ddrD &&& controlLines
  data := dataWiring p.portD p.portC p.portE
  dataOutputs := dataWiring p.ddrD p.ddrC p.ddrE

/-- The ports show what the variable says. -/
structure Ports.Ready (p : Ports) : Prop where
  shown : controlWiring p.portB p.portC p.portD = p.controlPins &&& 0x3F
  outputs : controlWiring p.ddrB p.ddrC p.ddrD = 0x3F

def rurpSetControlPin (pin : U8) (state : Bool) : Stores Ports :=
  [fun p => { p with
      controlPins := if state then p.controlPins ||| pin else p.controlPins &&& ~~~pin },
    fun p => { p with portB := p.portB &&& ~~~portbControlMask ||| p.controlPins <<< 4 },
    fun p => { p with
      portD := p.portD &&& ~~~portdControlMask ||| (p.controlPins &&& 0x10) <<< 2 },
    fun p => { p with
      portC := p.portC &&& ~~~portcControlMask ||| (p.controlPins &&& 0x20) <<< 2 }]

def rurpSetDataOutput : Stores Ports :=
  [fun p => { p with ddrD := p.ddrD ||| portdDataMask },
    fun p => { p with ddrC := p.ddrC ||| portcDataMask },
    fun p => { p with ddrE := p.ddrE ||| porteDataMask }]

/-- The port bits go first, so that no pull-up is left on a data line. -/
def rurpSetDataInput : Stores Ports :=
  [fun p => { p with portD := p.portD &&& ~~~portdDataMask },
    fun p => { p with portC := p.portC &&& ~~~portcDataMask },
    fun p => { p with portE := p.portE &&& ~~~porteDataMask },
    fun p => { p with ddrD := p.ddrD &&& ~~~portdDataMask },
    fun p => { p with ddrC := p.ddrC &&& ~~~portcDataMask },
    fun p => { p with ddrE := p.ddrE &&& ~~~porteDataMask }]

def portdVal (data : U8) : U8 :=
  (data &&& 0x01) <<< 2 ||| (data &&& 0x02) <<< 2 ||| (data &&& 0x04) >>> 1 |||
    (data &&& 0x08) >>> 3 ||| data &&& 0x10 ||| (data &&& 0x40) <<< 1

def portcVal (data : U8) : U8 := (data &&& 0x20) <<< 1

def porteVal (data : U8) : U8 := (data &&& 0x80) >>> 1

def rurpWriteDataBuffer (data : U8) : Stores Ports :=
  rurpSetDataOutput ++
    [fun p => { p with portD := p.portD &&& ~~~portdDataMask ||| portdVal data },
      fun p => { p with portC := p.portC &&& ~~~portcDataMask ||| portcVal data },
      fun p => { p with portE := p.portE &&& ~~~porteDataMask ||| porteVal data }]

/-- The levels from outside on the three ports. -/
structure Levels where
  d : U8
  c : U8
  e : U8

/-- The three ports are read one after the other and their bits put in order. -/
def rurpReadDataBuffer (p : Ports) (outside : Levels) : U8 :=
  let pind := lineLevels p.portD p.ddrD outside.d
  let pinc := lineLevels p.portC p.ddrC outside.c
  let pine := lineLevels p.portE p.ddrE outside.e
  (pind &&& 0x04) >>> 2 ||| (pind &&& 0x08) >>> 2 ||| (pind &&& 0x02) <<< 1 |||
    (pind &&& 0x01) <<< 3 ||| pind &&& 0x10 ||| (pinc &&& 0x40) >>> 1 |||
    (pind &&& 0x80) >>> 1 ||| (pine &&& 0x40) <<< 1

/-- `rurp_board_setup` as far as the direction bits of the control lines. -/
def configurePins : Stores Ports :=
  rurpSetControlPin chipEnable true ++ rurpSetControlPin outputEnable true ++
    [fun p => { p with ddrB := p.ddrB ||| portbControlMask },
      fun p => { p with ddrC := p.ddrC ||| portcControlMask },
      fun p => { p with ddrD := p.ddrD ||| portdControlMask }]

def port : BoardPort where
  State := Ports
  Outside := Levels
  connector := Ports.connector
  elsewhere o := dataWiring o.d o.c o.e
  serialOpen _ := false
  Ready := Ports.Ready
  rurpSetControlPin := rurpSetControlPin
  rurpSetDataOutput := rurpSetDataOutput
  rurpSetDataInput := rurpSetDataInput
  rurpWriteDataBuffer := rurpWriteDataBuffer
  rurpReadDataBuffer := rurpReadDataBuffer
  rurpSetProgrammerMode := []
  rurpSetCommunicationMode := []

end Leonardo

/-! ## The PY32F071 -/

namespace Py32f071

/-- The registers of ports A and B that the shield's functions use. -/
structure Ports where
  odrA : U16
  moderA : U32
  odrB : U16
  moderB : U32
  otyperB : U32
  pupdrB : U32

/-- A store to `BSRR`: the upper half clears bits of the port, the lower half sets them. -/
def bsrr (odr : U16) (value : U32) : U16 :=
  odr &&& ~~~(value >>> 16).setWidth 16 ||| value.setWidth 16

/-- Two mode bits a pin; general purpose output is 01. -/
def isOutput (moder : U32) (pin : Nat) : Bool :=
  moder.getLsbD (2 * pin) && !moder.getLsbD (2 * pin + 1)

/-- The outputs among the eight lower pins of a port. -/
def outputLines (moder : U32) : U8 :=
  lines (isOutput moder 0) (isOutput moder 1) (isOutput moder 2) (isOutput moder 3)
    (isOutput moder 4) (isOutput moder 5) (isOutput moder 6) (isOutput moder 7)

/-- Data lines PB0 to PB7, of which an open-drain one counts as no output; control lines on the
pins of port A that have their numbers. -/
def Ports.connector (p : Ports) : Connector where
  control := p.odrA.setWidth 8 &&& controlLines
  controlOutputs := outputLines p.moderA &&& controlLines
  data := p.odrB.setWidth 8
  dataOutputs := outputLines p.moderB &&& ~~~p.otyperB.setWidth 8

def Ports.Ready (p : Ports) : Prop := outputLines p.moderA &&& controlLines = controlLines

/-- `RURP_PY32F071_DATA_SHIFT` -/
def dataShift : Nat := 0

def dataPinMask : U32 := 0xFF <<< dataShift
def dataModeMask : U32 := 0xFFFF <<< (dataShift * 2)

/-- `control_pin_to_gpio`: all of them are on port A; no other line has a pin. -/
def controlPinToGpio (pin : U8) : Option U16 :=
  if pin = leastSignificantByte then some 0x0001
  else if pin = mostSignificantByte then some 0x0002
  else if pin = outputEnable then some 0x0004
  else if pin = controlRegister then some 0x0008
  else if pin = chipEnable then some 0x0020
  else none

def rurpSetControlPin (pin : U8) (state : Bool) : Stores Ports :=
  match controlPinToGpio pin with
  | none => []
  | some gpio =>
    [fun p => { p with
      odrA := bsrr p.odrA (if state then gpio.setWidth 32 else gpio.setWidth 32 <<< 16) }]

def rurpSetDataOutput : Stores Ports :=
  [fun p => { p with moderB := p.moderB &&& ~~~dataModeMask ||| 0x5555 <<< (dataShift * 2) },
    fun p => { p with otyperB := p.otyperB &&& ~~~dataPinMask },
    fun p => { p with pupdrB := p.pupdrB &&& ~~~dataModeMask }]

def rurpSetDataInput : Stores Ports :=
  [fun p => { p with moderB := p.moderB &&& ~~~dataModeMask },
    fun p => { p with pupdrB := p.pupdrB &&& ~~~dataModeMask }]

def rurpWriteDataBuffer (data : U8) : Stores Ports :=
  rurpSetDataOutput ++
    [fun p => { p with
      odrB := bsrr p.odrB (data.setWidth 32 <<< dataShift |||
        ((~~~data).setWidth 32 &&& 0xFF) <<< (dataShift + 16)) }]

/-- `IDR` of port B, with the levels from outside on its sixteen pins. -/
def Ports.idr (p : Ports) (outside : U16) : U32 :=
  (outside &&& 0xFF00).setWidth 32 ||| (p.connector.bus (outside.setWidth 8)).setWidth 32

def rurpReadDataBuffer (p : Ports) (outside : U16) : U8 :=
  ((p.idr outside >>> dataShift) &&& 0xFF).setWidth 8

def port : BoardPort where
  State := Ports
  Outside := U16
  connector := Ports.connector
  elsewhere o := o.setWidth 8
  serialOpen _ := false
  Ready := Ports.Ready
  rurpSetControlPin := rurpSetControlPin
  rurpSetDataOutput := rurpSetDataOutput
  rurpSetDataInput := rurpSetDataInput
  rurpWriteDataBuffer := rurpWriteDataBuffer
  rurpReadDataBuffer := rurpReadDataBuffer
  rurpSetProgrammerMode := []
  rurpSetCommunicationMode := []

end Py32f071

/-- The board a build is made for. -/
def boardPort : Board → BoardPort
  | .uno | .uno328pb => Uno.port
  | .leonardo => Leonardo.port
  | .py32f071 => Py32f071.port

end Firestarter
