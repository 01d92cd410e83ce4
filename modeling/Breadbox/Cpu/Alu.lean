import Breadbox.Cpu.Registers
import Breadbox.Cpu.Opcode

/-!
# Arithmetic and logic on the registers

What a read or read-modify-write instruction does once its operand byte is known, as pure
functions of the registers. Addition and subtraction follow the binary rules, or with D set
the decimal rules: the low nibble is corrected first, and V is taken from the sum before the
high nibble is corrected. Compares set C when the register is at least the operand and take
Z and N from the wrapped difference.
-/

namespace Breadbox

namespace Registers

/-- Bit 7 of the low byte of `n`, the sign of a byte-sized result. -/
def signOf (n : Int) : Bool := decide (n % 256 ≥ 0x80)

/-- Adds `m` and the carry to A. V is set when both operands have one sign and the sum the
other. -/
def adc (r : Registers) (m : UInt8) : Registers :=
  let a := r.a.toNat
  let v := m.toNat
  let carry := if r.c then 1 else 0
  let overflow (sum : Nat) : Bool := signOf a == signOf v && signOf a != signOf sum
  let (sum, ovf) :=
    if r.d then
      let low0 := a % 16 + v % 16 + carry
      let low := if low0 ≥ 0x0A then (low0 + 6) % 16 + 0x10 else low0
      let sum0 := a / 16 * 16 + v / 16 * 16 + low
      ((if sum0 ≥ 0xA0 then sum0 + 0x60 else sum0), overflow sum0)
    else
      let sum := a + v + carry
      (sum, overflow sum)
  let res := UInt8.ofNat sum
  { r with v := ovf, c := decide (sum > 0xFF), a := res }.setZN res

/-- Subtracts `m` and the borrow (the complement of C) from A. C and V come from the binary
difference; with D set, A gets the decimal difference. -/
def sbc (r : Registers) (m : UInt8) : Registers :=
  let a : Int := r.a.toNat
  let v : Int := m.toNat
  let borrow : Int := if r.c then 0 else 1
  let binary := a - v - borrow
  let overflow := signOf a != signOf v && signOf a != signOf binary
  let result :=
    if r.d then
      let low0 := a % 16 - v % 16 - borrow
      let low := if low0 < 0 then (low0 - 6) % 16 - 0x10 else low0
      let diff0 := a / 16 * 16 - v / 16 * 16 + low
      if diff0 < 0 then diff0 - 0x60 else diff0
    else binary
  let res := UInt8.ofNat (result % 256).toNat
  { r with c := decide (binary ≥ 0), v := overflow, a := res }.setZN res

/-- Compares `reg` with `m`, as CMP, CPX and CPY do. -/
def compare (r : Registers) (reg m : UInt8) : Registers :=
  { r with c := decide (reg ≥ m) }.setZN (reg - m)

/-- BIT: Z from A AND `m`, N and V copied from bits 7 and 6 of `m`. -/
def bitTest (r : Registers) (m : UInt8) : Registers :=
  { r with z := r.a &&& m == 0, n := m &&& 0x80 != 0, v := m &&& 0x40 != 0 }

end Registers

namespace ReadOp

/-- The effect of a read instruction given its operand byte. -/
def apply (op : ReadOp) (r : Registers) (m : UInt8) : Registers :=
  match op with
  | .lda => { r with a := m }.setZN m
  | .ldx => { r with x := m }.setZN m
  | .ldy => { r with y := m }.setZN m
  | .adc => r.adc m
  | .sbc => r.sbc m
  | .and => { r with a := r.a &&& m }.setZN (r.a &&& m)
  | .ora => { r with a := r.a ||| m }.setZN (r.a ||| m)
  | .eor => { r with a := r.a ^^^ m }.setZN (r.a ^^^ m)
  | .cmp => r.compare r.a m
  | .cpx => r.compare r.x m
  | .cpy => r.compare r.y m
  | .bit => r.bitTest m

end ReadOp

namespace ModifyOp

/-- The byte a read-modify-write instruction writes back for `m`, and the registers after
it. Shifts and rotates set C to the bit shifted out; all set Z and N from the result. -/
def apply (op : ModifyOp) (r : Registers) (m : UInt8) : UInt8 × Registers :=
  let shifted (carry : Bool) (res : UInt8) := (res, { r with c := carry }.setZN res)
  match op with
  | .asl => shifted (m &&& 0x80 != 0) (m <<< 1)
  | .lsr => shifted (m &&& 0x01 != 0) (m >>> 1)
  | .rol => shifted (m &&& 0x80 != 0) ((m <<< 1) ||| (if r.c then (1 : UInt8) else 0))
  | .ror => shifted (m &&& 0x01 != 0) ((if r.c then (0x80 : UInt8) else 0) ||| (m >>> 1))
  | .inc => (m + 1, r.setZN (m + 1))
  | .dec => (m - 1, r.setZN (m - 1))

end ModifyOp

end Breadbox
