import Breadbox.Text.Radix

/-!
# Processor registers

The 6510 holds a 16-bit program counter, the accumulator, two index registers, a stack
pointer into page one and seven status flags. The flags are kept apart and packed into the
status byte only when it is pushed or shown. Bits 4 and 5 of a packed byte always read as
one (`status_or_mask`), and unpacking a byte sets the break flag, which has no latch of its
own.

`cycles` counts every cycle the processor has spent since power-on; a reset keeps it.
-/

namespace Breadbox

/-- The register file and the running cycle count of the processor. -/
structure Registers where
  pc : UInt16 := 0
  a : UInt8 := 0
  x : UInt8 := 0
  y : UInt8 := 0
  sp : UInt8 := 0xFF
  n : Bool := false
  v : Bool := false
  b : Bool := false
  d : Bool := false
  i : Bool := false
  z : Bool := false
  c : Bool := false
  cycles : Nat := 0
deriving Repr, DecidableEq

namespace Registers

/-- Status-byte bit of each flag. -/
def carryBit : UInt8 := 0x01
def zeroBit : UInt8 := 0x02
def irqDisableBit : UInt8 := 0x04
def decimalBit : UInt8 := 0x08
def breakBit : UInt8 := 0x10
def unusedBit : UInt8 := 0x20
def overflowBit : UInt8 := 0x40
def negativeBit : UInt8 := 0x80

/-- The power-on state: everything zero, the stack pointer at the top of page one. -/
def power : Registers := {}

/-- A reset clears every register and flag, points the stack at `$01FF`, and keeps the
cycle count. -/
def reset (r : Registers) : Registers := { cycles := r.cycles }

@[simp] theorem reset_cycles (r : Registers) : r.reset.cycles = r.cycles := rfl
@[simp] theorem reset_sp (r : Registers) : r.reset.sp = 0xFF := rfl

/-- `mask` when `flag` holds, else zero. -/
def bitIf (flag : Bool) (mask : UInt8) : UInt8 := if flag then mask else 0

/-- The packed status byte `NV1BDIZC`, with the break and unused bits always set. -/
def status (r : Registers) : UInt8 :=
  unusedBit ||| breakBit ||| bitIf r.n negativeBit ||| bitIf r.v overflowBit |||
    bitIf r.d decimalBit ||| bitIf r.i irqDisableBit ||| bitIf r.z zeroBit ||| bitIf r.c carryBit

/-- Unpacks a status byte into the flags. The break flag becomes set whatever the byte. -/
def setStatus (r : Registers) (s : UInt8) : Registers :=
  { r with
    n := s &&& negativeBit != 0
    v := s &&& overflowBit != 0
    b := true
    d := s &&& decimalBit != 0
    i := s &&& irqDisableBit != 0
    z := s &&& zeroBit != 0
    c := s &&& carryBit != 0 }

/-- Sets Z when `value` is zero and N to its bit 7. -/
def setZN (r : Registers) (value : UInt8) : Registers :=
  { r with z := value == 0, n := value &&& 0x80 != 0 }

@[simp] theorem setStatus_cycles (r : Registers) (s : UInt8) : (r.setStatus s).cycles = r.cycles :=
  rfl
@[simp] theorem setZN_cycles (r : Registers) (v : UInt8) : (r.setZN v).cycles = r.cycles := rfl

theorem status_or_mask (r : Registers) : r.status &&& 0x30 = 0x30 := by
  unfold status bitIf
  cases r.n <;> cases r.v <;> cases r.d <;> cases r.i <;> cases r.z <;> cases r.c <;> decide

/-- The column titles above `display`. -/
def dumpHeader : String := " PC   AC XR YR SP   NV-BDIZC  CY"

/-- The one-line dump: program counter, A, X, Y, stack pointer, status bits and cycle count,
as in `FCE2  00 00 00 FF   00110100  0`. -/
def display (r : Registers) : String :=
  Radix.word r.pc ++ "  " ++ Radix.byte r.a ++ " " ++ Radix.byte r.x ++ " " ++
    Radix.byte r.y ++ " " ++ Radix.byte r.sp ++ "   " ++ Radix.binary 8 r.status.toNat ++
    "  " ++ toString r.cycles

end Registers

end Breadbox
