/-!
# Interval timers

A CIA timer is a 16-bit down-counter with a latch it reloads from. Counting from 1 (or 0)
underflows: the counter reloads from the latch, and in one-shot mode the timer stops. Writing
the high latch byte of a stopped timer also loads the counter, and a control write with the
force-load bit loads it at once; that bit is never kept.
-/

namespace Breadbox

/-- A 16-bit interval timer and its control register. -/
structure Timer where
  counter : UInt16 := 0
  latch : UInt16 := 0
  control : UInt8 := 0
deriving Repr, DecidableEq

namespace Timer

/-- Control bits. -/
def startBit : UInt8 := 0x01
def oneShotBit : UInt8 := 0x08
def forceLoadBit : UInt8 := 0x10

/-- The timer counts. -/
def running (t : Timer) : Bool := t.control &&& startBit != 0

/-- The timer stops at its next underflow. -/
def oneShot (t : Timer) : Bool := t.control &&& oneShotBit != 0

/-- Sets the low byte of the latch. -/
def writeLatchLow (t : Timer) (v : UInt8) : Timer :=
  { t with latch := (t.latch &&& 0xFF00) ||| v.toUInt16 }

/-- Sets the high byte of the latch; a stopped timer loads the new latch into its counter. -/
def writeLatchHigh (t : Timer) (v : UInt8) : Timer :=
  let t : Timer := { t with latch := (t.latch &&& 0x00FF) ||| (v.toUInt16 <<< (8 : UInt16)) }
  if t.running then t else { t with counter := t.latch }

/-- Writes the control register; with the force-load bit the counter takes the latch. -/
def writeControl (t : Timer) (v : UInt8) : Timer :=
  let t : Timer := if v &&& forceLoadBit != 0 then { t with counter := t.latch } else t
  { t with control := v &&& ~~~forceLoadBit }

/-- Counts once; true on an underflow, which reloads the counter and stops a one-shot
timer. -/
def count (t : Timer) : Bool × Timer :=
  if t.counter > 1 then (false, { t with counter := t.counter - 1 })
  else
    let t' : Timer := { t with counter := t.latch }
    (true, if t.oneShot then { t' with control := t'.control &&& ~~~startBit } else t')

end Timer

end Breadbox
