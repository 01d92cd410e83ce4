import Breadbox.Cpu.Step
import Breadbox.Video.Chip

/-!
# The whole machine

The processor, the system bus (memory and CIA 1) and the video chip, advanced one instruction
at a time. A step runs in a fixed order: an asserted CIA IRQ line requests an IRQ; the
processor runs one instruction; a latched interrupt is serviced; the video chip follows the
new cycle count; and the CIA is clocked once for every cycle the step took. A fault stops the
step after the instruction, before the service, the video chip and the CIA.

Every successful step takes between 2 and 14 cycles, so runs that wait for a cycle budget or
for the end of a frame are bounded by a step count computed from the budget.
-/

namespace Breadbox

/-- The machine. -/
structure Machine where
  cpu : Cpu
  board : Board
  vic : Vic
  /-- Cycles per second, as configured. -/
  cps : Nat

namespace Machine

/-- Requests a reset and services it through the bus. -/
def reset (m : Machine) : Machine :=
  let (_, cpu, board) := Exec.reset.perform m.cpu m.board
  { m with cpu := cpu, board := board }

/-- A machine at power-on with these ROMs, after the reset through the KERNAL's vector. -/
def new (roms : RomSet) (cps : Nat) : Machine :=
  reset { cpu := {}, board := ⟨Memory.new roms, Cia.new cps⟩, vic := {}, cps := cps }

/-- A machine from three unchecked ROM images. -/
def create (basic kernal chargen : Array UInt8) (cps : Nat) : Except Fault Machine := do
  return new (← RomSet.ofImages basic kernal chargen) cps

/-- Requests an NMI, taken after the next instruction. -/
def nmi (m : Machine) : Machine := { m with cpu := m.cpu.signalNmi }

/-- Runs one step and returns its cycles, or the fault that stopped it. Irreducible, so that
the runs below, which match on a step's outcome, are not unfolded through it. -/
@[irreducible] def step (m : Machine) : Except Fault Nat × Machine :=
  match m with
  | ⟨cpu, board, vic, cps⟩ =>
    let cpu := if board.cia.irq then cpu.signalIrq else cpu
    match Exec.step.perform cpu board with
    | (.error f, cpu, board) => (.error f, ⟨cpu, board, vic, cps⟩)
    | (.ok n, cpu, board) =>
      let (extra, cpu, board) := Exec.service.perform cpu board
      let n := n + extra
      let (_, vic, board) := vic.refresh cpu.regs.cycles board
      let board := { board with cia := Cia.cycles n board.cia }
      (.ok n, ⟨cpu, board, vic, cps⟩)

/-- Runs up to `k` steps; the cycles of those that ran, and the fault that stopped them. -/
def steps (m : Machine) : Nat → Nat → Nat × Option Fault × Machine
  | 0, total => (total, none, m)
  | k + 1, total =>
    match m.step with
    | (.ok n, m) => steps m k (total + n)
    | (.error f, m) => (total, some f, m)

/-- Steps while fewer than `budget` cycles have passed since `start`, for at most `fuel`
steps. -/
def runUntil (m : Machine) (start budget : Nat) : Nat → Except Fault Unit × Machine
  | 0 => (.ok (), m)
  | fuel + 1 =>
    if m.cpu.regs.cycles - start < budget then
      match m.step with
      | (.ok _, m) => runUntil m start budget fuel
      | (.error f, m) => (.error f, m)
    else (.ok (), m)

/-- Runs until at least `budget` cycles have passed. Each step takes at least two cycles,
so `budget` steps always suffice. -/
def runCycles (m : Machine) (budget : Nat) : Except Fault Unit × Machine :=
  runUntil m m.cpu.regs.cycles budget budget

/-- Steps until the frame count moves on from `frame`, for at most `fuel` steps. -/
def runFrameFrom (m : Machine) (frame : Nat) : Nat → Except Fault Unit × Machine
  | 0 => (.ok (), m)
  | fuel + 1 =>
    if m.vic.frames = frame then
      match m.step with
      | (.ok _, m) => runFrameFrom m frame fuel
      | (.error f, m) => (.error f, m)
    else (.ok (), m)

/-- Runs until the video chip completes a frame. A frame is at most 19656 + 63 cycles away
and a step takes at least two, so one step per frame cycle always suffices. -/
def runFrame (m : Machine) : Except Fault Unit × Machine :=
  runFrameFrom m m.vic.frames (cyclesPerFrame + cyclesPerLine)

/-- Steps until a step fails, for at most `fuel` steps: the fault with the machine the failed
step left, or the machine after `fuel` successful steps, whose run goes on. -/
def runToFault (m : Machine) : Nat → Except (Fault × Machine) Machine
  | 0 => .ok m
  | fuel + 1 =>
    match m.step with
    | (.ok _, m) => runToFault m fuel
    | (.error f, m) => .error (f, m)

/-- Runs for a budget of cycles at a speed. The pace only spreads the steps out in time, so a
non-zero budget is `runCycles`. Budget 0 runs until a step fails, which need not happen: that
run gets `fuel` steps, and `none` means that all of them succeeded and the run goes on. -/
def runRealtime (m : Machine) (budget _speed fuel : Nat) :
    Option (Except Fault Unit × Machine) :=
  if budget = 0 then
    match m.runToFault fuel with
    | .error (f, m) => some (.error f, m)
    | .ok _ => none
  else some (m.runCycles budget)

/-- Loads a program image into RAM. -/
def loadPrg (m : Machine) (data : List UInt8) : Except Fault UInt16 × Machine :=
  match m.board.memory.loadPrg data with
  | .ok (a, mem) => (.ok a, { m with board := { m.board with memory := mem } })
  | .error f => (.error f, m)

end Machine

end Breadbox
