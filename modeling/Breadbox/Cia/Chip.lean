import Breadbox.Cia.Timer
import Breadbox.Cia.Clock

/-!
# The complex interface adapter

CIA 1 of the machine: two eight-bit data registers, A and B, wired to the keyboard matrix, timers A and B, the
time-of-day clock, a serial data register and the interrupt control register (ICR). Its
sixteen registers repeat through the page it is mapped into, so only the low four bits of a
register number count.

An event (timer underflow, alarm) sets its bit and bit 7 in the ICR status; when the event is
enabled in the mask, the IRQ line goes up and stays up until the status is read. Reading
registers has side effects only at three places (`fetch`): the tenths release the frozen
time, the hours freeze it, and the ICR is cleared by its read. `peek` reads without them.

Lines B read the keyboard rows of every column whose line A is low, a pressed key pulling
its row low.
-/

namespace Breadbox

/-! Register numbers, after masking to four bits. -/

namespace CiaReg
def pra : UInt8 := 0x00
def prb : UInt8 := 0x01
def ddra : UInt8 := 0x02
def ddrb : UInt8 := 0x03
def taLo : UInt8 := 0x04
def taHi : UInt8 := 0x05
def tbLo : UInt8 := 0x06
def tbHi : UInt8 := 0x07
def todTen : UInt8 := 0x08
def todSec : UInt8 := 0x09
def todMin : UInt8 := 0x0A
def todHrs : UInt8 := 0x0B
def sdr : UInt8 := 0x0C
def icr : UInt8 := 0x0D
def cra : UInt8 := 0x0E
def crb : UInt8 := 0x0F
end CiaReg

/-! Interrupt event bits of the ICR. -/

namespace CiaEvent
def timerA : UInt8 := 0x01
def timerB : UInt8 := 0x02
def alarm : UInt8 := 0x04
end CiaEvent

/-- The chip state. -/
structure Cia where
  pra : UInt8 := 0
  prb : UInt8 := 0
  ddra : UInt8 := 0
  ddrb : UInt8 := 0
  sdr : UInt8 := 0
  timerA : Timer := {}
  timerB : Timer := {}
  clock : Clock := {}
  /-- Event bits of the ICR, cleared by reading it. -/
  status : UInt8 := 0
  /-- Enabled events, five bits. -/
  mask : UInt8 := 0
  /-- The IRQ line. -/
  irq : Bool := false
  /-- Pressed keys: for each column, the bits of its pressed rows. -/
  keys : Vector UInt8 8 := Vector.replicate 8 0
deriving Repr, DecidableEq

namespace Cia

/-- The default clock rate, PAL cycles per second. -/
def palCps : Nat := 985248

/-- A chip at power-on for a machine of `cps` cycles per second. -/
def new (cps : Nat) : Cia := { clock := Clock.new cps }

/-- Presses or releases the key at a column and row; positions outside the 8 × 8 matrix are
ignored. -/
def setKey (c : Cia) (column row : Nat) (pressed : Bool) : Cia :=
  if h : column < 8 ∧ row < 8 then
    let bit : UInt8 := (1 : UInt8) <<< row.toUInt8
    let old := c.keys[column]
    { c with keys := c.keys.set column (if pressed then old ||| bit else old &&& ~~~bit) }
  else c

/-- Releases every key. -/
def releaseKeys (c : Cia) : Cia := { c with keys := Vector.replicate 8 0 }

/-- Records an event in the status and raises the IRQ line if it is enabled. -/
def raise (c : Cia) (event : UInt8) : Cia :=
  let c := { c with status := c.status ||| event ||| 0x80 }
  if c.mask &&& event != 0 then { c with irq := true } else c

/-- One machine cycle: the clock ticks (and may ring the alarm), timer A counts when
running, and timer B counts every cycle or on timer A's underflows, by CRB bits 5 and 6. -/
def cycle (c : Cia) : Cia :=
  let (ticked, clock) := c.clock.tick
  let c := { c with clock := clock }
  let c := if ticked && clock.time = clock.alarm then c.raise CiaEvent.alarm else c
  let (aUnder, c) :=
    if c.timerA.running then
      let (u, t) := c.timerA.count
      let c := { c with timerA := t }
      (u, if u then c.raise CiaEvent.timerA else c)
    else (false, c)
  let mode := c.timerB.control &&& 0x60
  let bInput := if mode = 0x00 then true else if mode = 0x40 then aUnder else false
  if bInput && c.timerB.running then
    let (u, t) := c.timerB.count
    let c := { c with timerB := t }
    if u then c.raise CiaEvent.timerB else c
  else c

/-- Whether a cycle would change nothing: the clock is stopped and neither timer runs. -/
def idle (c : Cia) : Bool := c.clock.stopped && !c.timerA.running && !c.timerB.running

/-- `n` machine cycles. An idle chip stays as it is, so the count stops mattering. -/
def cycles : Nat → Cia → Cia
  | 0, c => c
  | n + 1, c => if c.idle then c else cycles n c.cycle

/-- Lines A as the pins read: output bits from the register, inputs pulled high. -/
def linesA (c : Cia) : UInt8 := (c.pra &&& c.ddra) ||| ~~~c.ddra

/-- The keyboard rows seen on lines B: a row is low when a pressed key joins it to a column
that lines A drive low. -/
def keyRows (c : Cia) : UInt8 :=
  let cols := c.linesA
  (List.finRange 8).foldl (fun rows i =>
    if cols &&& ((1 : UInt8) <<< i.val.toUInt8) = 0 then rows &&& ~~~c.keys[i] else rows) 0xFF

/-- Lines B as the pins read: output bits from the register, inputs from the keyboard. -/
def linesB (c : Cia) : UInt8 := (c.prb &&& c.ddrb) ||| (c.keyRows &&& ~~~c.ddrb)

/-- The value of a register, without side effects. -/
def peek (c : Cia) (reg : UInt8) : UInt8 :=
  let r := reg &&& 0x0F
  if r = CiaReg.pra then c.linesA
  else if r = CiaReg.prb then c.linesB
  else if r = CiaReg.ddra then c.ddra
  else if r = CiaReg.ddrb then c.ddrb
  else if r = CiaReg.taLo then c.timerA.counter.toUInt8
  else if r = CiaReg.taHi then (c.timerA.counter >>> 8).toUInt8
  else if r = CiaReg.tbLo then c.timerB.counter.toUInt8
  else if r = CiaReg.tbHi then (c.timerB.counter >>> 8).toUInt8
  else if r = CiaReg.todTen then c.clock.visible.tenths
  else if r = CiaReg.todSec then c.clock.visible.seconds
  else if r = CiaReg.todMin then c.clock.visible.minutes
  else if r = CiaReg.todHrs then c.clock.time.hours
  else if r = CiaReg.sdr then c.sdr
  else if r = CiaReg.icr then c.status
  else if r = CiaReg.cra then c.timerA.control
  else c.timerB.control

/-- Reads a register with its side effects: the tenths release a frozen time, the hours
freeze the current time, and the ICR read clears the status and the IRQ line. -/
def fetch (c : Cia) (reg : UInt8) : UInt8 × Cia :=
  let r := reg &&& 0x0F
  if r = CiaReg.todTen then
    (c.clock.visible.tenths, { c with clock := { c.clock with latched := none } })
  else if r = CiaReg.todHrs then
    (c.clock.time.hours, { c with clock := { c.clock with latched := some c.clock.time } })
  else if r = CiaReg.icr then (c.status, { c with status := 0, irq := false })
  else (c.peek reg, c)

/-- Writes a time-of-day register: into the alarm when CRB bit 7 is set, else into the time,
where writing the hours starts or stops the clock and writing the tenths starts it. -/
def storeClock (c : Cia) (r : UInt8) (v : UInt8) : Cia :=
  let setField (t : TimeOfDay) : TimeOfDay :=
    if r = CiaReg.todTen then { t with tenths := v &&& 0x0F }
    else if r = CiaReg.todSec then { t with seconds := v &&& 0x7F }
    else if r = CiaReg.todMin then { t with minutes := v &&& 0x7F }
    else { t with hours := v &&& 0x9F }
  if c.timerB.control &&& 0x80 != 0 then
    { c with clock := { c.clock with alarm := setField c.clock.alarm } }
  else
    let k := { c.clock with time := setField c.clock.time }
    let k := if r = CiaReg.todHrs then k.toggle else if r = CiaReg.todTen then k.start else k
    { c with clock := k }

/-- Writes a register. An ICR write with bit 7 set enables the events of its low five bits,
without it disables them; an event already pending and now enabled raises the IRQ line. -/
def store (c : Cia) (reg : UInt8) (v : UInt8) : Cia :=
  let r := reg &&& 0x0F
  if r = CiaReg.pra then { c with pra := v }
  else if r = CiaReg.prb then { c with prb := v }
  else if r = CiaReg.ddra then { c with ddra := v }
  else if r = CiaReg.ddrb then { c with ddrb := v }
  else if r = CiaReg.taLo then { c with timerA := c.timerA.writeLatchLow v }
  else if r = CiaReg.taHi then { c with timerA := c.timerA.writeLatchHigh v }
  else if r = CiaReg.tbLo then { c with timerB := c.timerB.writeLatchLow v }
  else if r = CiaReg.tbHi then { c with timerB := c.timerB.writeLatchHigh v }
  else if r ≤ CiaReg.todHrs then c.storeClock r v
  else if r = CiaReg.sdr then { c with sdr := v }
  else if r = CiaReg.icr then
    let bits := v &&& 0x1F
    let mask := if v &&& 0x80 != 0 then c.mask ||| bits else c.mask &&& ~~~bits
    let c := { c with mask := mask }
    if c.status &&& mask != 0 then { c with irq := true } else c
  else if r = CiaReg.cra then { c with timerA := c.timerA.writeControl v }
  else { c with timerB := c.timerB.writeControl v }

end Cia

end Breadbox
