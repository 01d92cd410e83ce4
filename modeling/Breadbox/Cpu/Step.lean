import Breadbox.Cpu.Core
import Breadbox.Cpu.Alu
import Breadbox.Fault

/-!
# Executing instructions and servicing interrupts

`Exec.step` fetches one opcode, looks it up, and runs the instruction with its addressing
mode; it returns the cycles spent (base cost plus page-cross and branch penalties) and adds
them to the running count. A byte without a table entry stops the step with
`Fault.unknownOpcode`, leaves PC on that byte, and costs nothing. Interrupts are never taken
inside `step`: BRK only skips its signature byte and latches a request, and
`Exec.service` takes the latched request between instructions.
-/

namespace Breadbox

/-- Whether a branch on this condition is taken with these flags. -/
def Condition.holds (cond : Condition) (r : Registers) : Bool :=
  match cond with
  | .carryClear => !r.c
  | .carrySet => r.c
  | .equal => r.z
  | .notEqual => !r.z
  | .minus => r.n
  | .plus => !r.n
  | .overflowClear => !r.v
  | .overflowSet => r.v

/-- The value of the register a store instruction writes. -/
def Register.select (reg : Register) (r : Registers) : UInt8 :=
  match reg with
  | .a => r.a
  | .x => r.x
  | .y => r.y

/-- A branch offset as a signed 16-bit displacement. -/
def signExtend (b : UInt8) : UInt16 :=
  if b ≥ 0x80 then 0xFF00 ||| b.toUInt16 else b.toUInt16

/-- Why a bounded run of instructions ended. -/
inductive RunStop where
  /-- All requested steps ran. -/
  | count
  /-- A step left PC where it was, so the program loops on one instruction. -/
  | trap
  /-- A step failed. -/
  | fault
deriving Repr, DecidableEq

/-- What a bounded run did: successful steps, their cycles, and why it ended. -/
structure RunReport where
  steps : Nat
  cycles : Nat
  stop : RunStop
  fault : Option Fault
deriving Repr, DecidableEq

namespace Exec

variable {β : Type} [Bus β]

/-- A conditional branch: a taken branch costs one more cycle, and one more again when it
lands in another page than the instruction after it. -/
def branch (cond : Condition) : Exec β Unit := do
  let offset ← fetch
  let r ← regs
  if cond.holds r then
    let target := r.pc + signExtend offset
    setRegs fun r => { r with pc := target }
    charge (if r.pc &&& 0xFF00 != target &&& 0xFF00 then 2 else 1)

/-- Runs an instruction that takes no operand value. -/
def control (op : Control) (mode : AddressMode) : Exec β Unit :=
  match op with
  | .tax => setRegs fun r => { r with x := r.a }.setZN r.a
  | .tay => setRegs fun r => { r with y := r.a }.setZN r.a
  | .txa => setRegs fun r => { r with a := r.x }.setZN r.x
  | .tya => setRegs fun r => { r with a := r.y }.setZN r.y
  | .tsx => setRegs fun r => { r with x := r.sp }.setZN r.sp
  | .txs => setRegs fun r => { r with sp := r.x }
  | .pha => do push (← regs).a
  | .php => do push (← regs).status
  | .pla => do
    let v ← pop
    setRegs fun r => { r with a := v }.setZN v
  | .plp => do
    let s ← pop
    setRegs fun r => r.setStatus s
  | .clc => setRegs fun r => { r with c := false }
  | .sec => setRegs fun r => { r with c := true }
  | .cli => setRegs fun r => { r with i := false }
  | .sei => setRegs fun r => { r with i := true }
  | .clv => setRegs fun r => { r with v := false }
  | .cld => setRegs fun r => { r with d := false }
  | .sed => setRegs fun r => { r with d := true }
  | .inx => setRegs fun r => { r with x := r.x + 1 }.setZN (r.x + 1)
  | .iny => setRegs fun r => { r with y := r.y + 1 }.setZN (r.y + 1)
  | .dex => setRegs fun r => { r with x := r.x - 1 }.setZN (r.x - 1)
  | .dey => setRegs fun r => { r with y := r.y - 1 }.setZN (r.y - 1)
  | .branch cond => branch cond
  | .jmp => do
    let target ← resolve mode false
    setRegs fun r => { r with pc := target }
  | .jsr => do
    let target ← fetchWord
    pushWord ((← regs).pc - 1)
    setRegs fun r => { r with pc := target }
  | .rts => do
    let w ← popWord
    setRegs fun r => { r with pc := w + 1 }
  | .rti => do
    let s ← pop
    setRegs fun r => r.setStatus s
    let w ← popWord
    setRegs fun r => { r with pc := w }
  | .brk => do
    setRegs fun r => { r with pc := r.pc + 1 }
    modifyThe Cpu (Cpu.latch .brk)
  | .nop => pure ()

/-- Runs one table entry, after its opcode byte has been fetched. -/
def execute (e : Entry) : Exec β Unit :=
  match e.instruction with
  | .control op => control op e.mode
  | .read op => do
    let m ← operand e.mode
    setRegs fun r => op.apply r m
  | .store reg => do
    let a ← resolve e.mode false
    write a (reg.select (← regs))
  | .modify op =>
    if e.mode = .accumulator then
      setRegs fun r => let (res, r') := op.apply r r.a; { r' with a := res }
    else do
      let a ← resolve e.mode false
      let m ← read a
      let (res, r') := op.apply (← regs) m
      setRegs fun _ => r'
      write a res

/-- Fetches and runs one instruction; returns its cycles, which are also added to the
running count. -/
def step : Exec β (Except Fault Nat) := do
  let opcode ← fetch
  match Opcode.decode opcode with
  | none =>
    let pc := (← regs).pc - 1
    setRegs fun r => { r with pc := pc }
    return .error (.unknownOpcode opcode pc)
  | some e =>
    modifyThe Cpu fun c => { c with last := e.cycles }
    execute e
    let n := (← getThe Cpu).last
    setRegs fun r => { r with cycles := r.cycles + n }
    return .ok n

/-- Takes the latched interrupt, if any, and returns the cycles it costs. A reset clears the
registers; any other request pushes PC and the status (B set only after a BRK) and sets I.
Then PC is loaded from the request's vector. The service after a BRK costs nothing, the
BRK having paid, unless a reset took its place. -/
def service : Exec β Nat := do
  let c ← getThe Cpu
  match c.pending with
  | none => return 0
  | some i =>
    modifyThe Cpu fun c => { c with pending := none, software := false }
    if i = .reset then
      setRegs Registers.reset
    else
      pushWord c.regs.pc
      let st := (← regs).status
      push (if c.software then st else st &&& ~~~Registers.breakBit)
      setRegs fun r => { r with i := true }
    let pc ← readWord i.vector
    setRegs fun r => { r with pc := pc }
    let n := if c.software && i != .reset then 0 else 7
    setRegs fun r => { r with cycles := r.cycles + n }
    return n

/-- Requests a reset and services it at once. -/
def reset : Exec β Unit := do
  modifyThe Cpu Cpu.signalReset
  discard service

/-- Runs up to `k` more instructions after `steps` steps of `cycles` cycles, stopping at a
fault or at a step that leaves PC unchanged. -/
def runFrom (steps cycles : Nat) : Nat → Exec β RunReport
  | 0 => return ⟨steps, cycles, .count, none⟩
  | k + 1 => do
    let before := (← regs).pc
    match ← step with
    | .error f => return ⟨steps, cycles, .fault, some f⟩
    | .ok n =>
      if (← regs).pc = before then return ⟨steps + 1, cycles + n, .trap, none⟩
      else runFrom (steps + 1) (cycles + n) k

/-- Runs up to `k` instructions. -/
def runSteps (k : Nat) : Exec β RunReport := runFrom 0 0 k

end Exec

end Breadbox
