/-!
# The time-of-day clock

The clock keeps tenths, seconds, minutes and hours in BCD, the hours with bit 7 for PM, and
counts on a 12-hour dial: 11 goes to 12 with AM and PM swapped, and 12 goes to 1. It
advances one tenth each time its cycle account passes a tenth of a second: every machine
cycle adds 10 to the account, and the clock ticks when the account reaches the cycles per
second, which then are taken off it. The account is a 32-bit counter: pushing it past
`accountMax` is a fault that stops the machine, which the clock records.

Reading the hours freezes the visible time until the tenths are read, so a program reads a
consistent time across the four registers.
-/

namespace Breadbox

/-- A BCD time of day. -/
structure TimeOfDay where
  tenths : UInt8 := 0
  seconds : UInt8 := 0
  minutes : UInt8 := 0
  hours : UInt8 := 0
deriving Repr, DecidableEq

/-- The next BCD value: a low digit of 9 or more carries into the high digit. -/
def bcdIncrement (v : UInt8) : UInt8 :=
  if v &&& 0x0F ≥ 0x09 then (v &&& 0xF0) + 0x10 else v + 1

namespace TimeOfDay

/-- The time one second later, with tenths at zero. -/
def advanceSecond (t : TimeOfDay) : TimeOfDay :=
  let seconds := bcdIncrement t.seconds
  if seconds < 0x60 then { t with tenths := 0, seconds := seconds }
  else
    let minutes := bcdIncrement t.minutes
    if minutes < 0x60 then { t with tenths := 0, seconds := 0, minutes := minutes }
    else
      let pm := t.hours &&& 0x80
      let hour := t.hours &&& 0x1F
      let hours :=
        if hour = 0x11 then 0x12 ||| (pm ^^^ 0x80)
        else if hour = 0x12 then 0x01 ||| pm
        else bcdIncrement hour ||| pm
      { tenths := 0, seconds := 0, minutes := 0, hours := hours }

/-- The time one tenth later. -/
def advanceTenth (t : TimeOfDay) : TimeOfDay :=
  if t.tenths ≥ 9 then t.advanceSecond else { t with tenths := t.tenths + 1 }

end TimeOfDay

/-- The largest value the cycle account holds. -/
def accountMax : Nat := 4294967295

/-- The time-of-day clock with its alarm, read latch and cycle account. -/
structure Clock where
  time : TimeOfDay := {}
  alarm : TimeOfDay := {}
  /-- The time frozen by a read of the hours, until the tenths are read. -/
  latched : Option TimeOfDay := none
  stopped : Bool := true
  /-- Machine cycles per second. -/
  cps : Nat := 1
  cps_pos : 0 < cps := by omega
  /-- Ten times the cycles counted towards the next tenth. -/
  account : Nat := 0
  /-- An addition to the account went past `accountMax`. -/
  overflowed : Bool := false
deriving Repr, DecidableEq

namespace Clock

/-- A stopped clock at midnight for a machine of `cps` cycles per second (0 counts as 1). -/
def new (cps : Nat) : Clock := { cps := max cps 1, cps_pos := by omega }

/-- One machine cycle; true when the time advanced. -/
def tick (k : Clock) : Bool × Clock :=
  if k.stopped then (false, k)
  else
    let account := k.account + 10
    let k := { k with overflowed := k.overflowed || decide (accountMax < account) }
    if account < k.cps then (false, { k with account := account })
    else (true, { k with account := account - k.cps, time := k.time.advanceTenth })

/-- Starts the clock with an empty account. -/
def start (k : Clock) : Clock := { k with stopped := false, account := 0 }

/-- Starts a stopped clock, stops a running one. -/
def toggle (k : Clock) : Clock := if k.stopped then k.start else { k with stopped := true }

/-- The time the registers show: the frozen time while there is one. -/
def visible (k : Clock) : TimeOfDay := k.latched.getD k.time

end Clock

end Breadbox
