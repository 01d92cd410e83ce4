import Breadbox.Bus
import Breadbox.Cpu.Registers
import Breadbox.Cpu.Opcode

/-!
# The processor and its bus accesses

A `Cpu` is the register file, the cycle cost of the last instruction, and the interrupt
latch. Interrupts are only requested between instructions: the latch keeps the request of
highest priority (reset, then NMI, then BRK, then IRQ), and a later request replaces it only
when strictly higher (`Cpu.latch`). A BRK also raises the `software` mark, which survives a
replacement of the latch and tells the next service to push the status with B set.

`Exec β` is a computation of the processor on a bus `β`. Every memory access of an
instruction goes through `Exec.read` and `Exec.write`, in the order the chip makes them.
Addressing follows the 6510: zero-page indexing and zero-page pointers wrap inside page
zero, the indirect jump fetches the high byte of its pointer from the same page, and an
indexed read that crosses a page costs one more cycle.
-/

namespace Breadbox

/-- An interrupt request. -/
inductive Interrupt where
  | irq | brk | nmi | reset
deriving Repr, DecidableEq

namespace Interrupt

/-- Which request wins when two are made before a service. -/
def priority : Interrupt → Nat
  | .irq => 0
  | .brk => 1
  | .nmi => 2
  | .reset => 3

/-- The address of the vector the service jumps through. -/
def vector : Interrupt → UInt16
  | .irq => 0xFFFE
  | .brk => 0xFFFE
  | .nmi => 0xFFFA
  | .reset => 0xFFFC

end Interrupt

/-- The processor between two bus accesses. -/
structure Cpu where
  regs : Registers := {}
  /-- Cycles of the last executed instruction, penalties included. -/
  last : Nat := 0
  /-- The latched interrupt request. -/
  pending : Option Interrupt := none
  /-- A BRK was executed since the last service. -/
  software : Bool := false
deriving Repr, DecidableEq

namespace Cpu

/-- Latches a request unless one of at least its priority is already latched. -/
def latch (i : Interrupt) (c : Cpu) : Cpu :=
  let c := if i = .brk then { c with software := true } else c
  match c.pending with
  | some p => if i.priority ≤ p.priority then c else { c with pending := some i }
  | none => { c with pending := some i }

/-- Requests an IRQ; ignored while I is set. -/
def signalIrq (c : Cpu) : Cpu := if c.regs.i then c else c.latch .irq

/-- Requests an NMI. -/
def signalNmi (c : Cpu) : Cpu := c.latch .nmi

/-- Requests a reset. -/
def signalReset (c : Cpu) : Cpu := c.latch .reset

end Cpu

/-- 1 when adding `index` to `address` moves into another page. -/
def pageCross (address : UInt16) (index : UInt8) : Nat :=
  if address &&& 0xFF00 != (address + index.toUInt16) &&& 0xFF00 then 1 else 0

/-- A computation of the processor on a bus of type `β`. -/
abbrev Exec (β : Type) := StateT Cpu (StateM β)

namespace Exec

/-- Runs a computation from a processor and a bus; the result, then both after it. -/
def perform {β α : Type} (x : Exec β α) (c : Cpu) (b : β) : α × Cpu × β :=
  let ((a, c), b) := (StateT.run x c).run b
  (a, c, b)

variable {β : Type} [Bus β]

/-- Reads the bus. -/
@[inline] def read (a : UInt16) : Exec β UInt8 :=
  StateT.lift (modifyGet (Bus.read a))

/-- Writes the bus. -/
@[inline] def write (a : UInt16) (v : UInt8) : Exec β Unit :=
  StateT.lift (modify (Bus.write a v))

/-- The registers. -/
@[inline] def regs : Exec β Registers := return (← getThe Cpu).regs

/-- Changes the registers. -/
@[inline] def setRegs (f : Registers → Registers) : Exec β Unit :=
  modifyThe Cpu fun c => { c with regs := f c.regs }

/-- Adds to the cycle cost of the current instruction. -/
@[inline] def charge (n : Nat) : Exec β Unit :=
  modifyThe Cpu fun c => { c with last := c.last + n }

/-- The byte at PC; PC moves past it. -/
@[inline] def fetch : Exec β UInt8 := do
  let pc := (← regs).pc
  let v ← read pc
  setRegs fun r => { r with pc := pc + 1 }
  return v

/-- The little-endian word at PC; PC moves past it. -/
@[inline] def fetchWord : Exec β UInt16 := do
  let lo ← fetch
  let hi ← fetch
  return word lo hi

/-- The little-endian word at an address (and the next one). -/
@[inline] def readWord (a : UInt16) : Exec β UInt16 := do
  let lo ← read a
  let hi ← read (a + 1)
  return word lo hi

/-- The word at a zero-page pointer; its high byte comes from the next zero-page byte. -/
@[inline] def readZeroPageWord (p : UInt8) : Exec β UInt16 := do
  let lo ← read p.toUInt16
  let hi ← read (p + 1).toUInt16
  return word lo hi

/-- The target of `JMP ($nnnn)`: the pointer follows the opcode, and the high byte of the
target is read from the pointer's own page. -/
def indirectTarget : Exec β UInt16 := do
  let p ← fetchWord
  let lo ← read p
  let hi ← read ((p &&& 0xFF00) ||| ((p + 1) &&& 0x00FF))
  return word lo hi

/-- `base + index`, charging a cycle for a page cross when `penalty` holds. -/
@[inline] def indexed (base : UInt16) (index : UInt8) (penalty : Bool) : Exec β UInt16 := do
  if penalty then charge (pageCross base index)
  return base + index.toUInt16

/-- The effective address of an operand. Immediate and relative operands are the byte after
the opcode; implied and accumulator operands have none and give 0. -/
def resolve (mode : AddressMode) (penalty : Bool) : Exec β UInt16 :=
  match mode with
  | .immediate | .relative => do
    let pc := (← regs).pc
    setRegs fun r => { r with pc := pc + 1 }
    return pc
  | .zeroPage => return (← fetch).toUInt16
  | .zeroPageX => return ((← fetch) + (← regs).x).toUInt16
  | .zeroPageY => return ((← fetch) + (← regs).y).toUInt16
  | .absolute => fetchWord
  | .absoluteX => do
    let base ← fetchWord
    indexed base (← regs).x penalty
  | .absoluteY => do
    let base ← fetchWord
    indexed base (← regs).y penalty
  | .indirect => indirectTarget
  | .indirectX => do
    let p := (← fetch) + (← regs).x
    readZeroPageWord p
  | .indirectY => do
    let p ← fetch
    let base ← readZeroPageWord p
    indexed base (← regs).y penalty
  | .implied | .accumulator => return 0

/-- The operand byte of a read instruction: A in accumulator mode, else the byte at the
effective address, with the page-cross penalty. -/
def operand (mode : AddressMode) : Exec β UInt8 :=
  match mode with
  | .accumulator => return (← regs).a
  | _ => do read (← resolve mode true)

/-- Pushes a byte at `$0100 + SP` and moves SP down, wrapping inside page one. -/
@[inline] def push (v : UInt8) : Exec β Unit := do
  let sp := (← regs).sp
  write (0x0100 ||| sp.toUInt16) v
  setRegs fun r => { r with sp := sp - 1 }

/-- Moves SP up, wrapping inside page one, and reads the byte there. -/
@[inline] def pop : Exec β UInt8 := do
  let sp := (← regs).sp + 1
  setRegs fun r => { r with sp := sp }
  read (0x0100 ||| sp.toUInt16)

/-- Pushes a word, high byte first. -/
def pushWord (w : UInt16) : Exec β Unit := do
  push (w >>> 8).toUInt8
  push w.toUInt8

/-- Pops a word, low byte first. -/
def popWord : Exec β UInt16 := do
  let lo ← pop
  let hi ← pop
  return word lo hi

end Exec

end Breadbox
