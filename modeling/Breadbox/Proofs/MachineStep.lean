import Breadbox.Proofs.Interrupts
import Breadbox.Proofs.Refresh
import Breadbox.Machine

/-!
# One step of the machine

A machine step runs one instruction; a failed step stops there (`step_of_error`), a successful
one goes on to the service, the refresh and the CIA's cycles (`step_of_ok`). The machines reached
from power-on are `Reachable`.
-/

namespace Breadbox

/-- A vector outside the CIA is read without side effects, as the bus shows it. -/
theorem Board.readVector_eq (b : Board) (v : UInt16)
    (h0 : ¬(0xDC00 ≤ v.toNat ∧ v.toNat ≤ 0xDCFF))
    (h1 : ¬(0xDC00 ≤ (v + 1).toNat ∧ (v + 1).toNat ≤ 0xDCFF)) :
    Cpu.readVector v b = (word (b.peek v) (b.peek (v + 1)), b) := by
  have e0 : Bus.read v b = (b.peek v, b) := read_eq_peek h0
  have e1 : Bus.read (v + 1) b = (b.peek (v + 1), b) := read_eq_peek h1
  simp only [Cpu.readVector, e0, e1]

namespace Machine

/-- The processor a step hands to its instruction, an IRQ requested while the line is up. -/
def sampled (m : Machine) : Cpu := if m.board.cia.irq then m.cpu.signalIrq else m.cpu

variable {m : Machine}

@[simp] theorem nmi_cpu : m.nmi.cpu = m.cpu.signalNmi :=
  rfl

@[simp] theorem nmi_board : m.nmi.board = m.board :=
  rfl

/-- With I set the CIA's line goes unheard. -/
theorem sampled_of_masked (h : m.cpu.regs.i = true) : m.sampled = m.cpu := by
  simp [sampled, Cpu.signalIrq, h]

theorem step_of_error {f : Fault} {c : Cpu} {b : Board}
    (h : Exec.step.perform m.sampled m.board = (.error f, c, b)) :
    m.step = (.error f, { m with cpu := c, board := b }) := by
  rcases m with ⟨cpu, board, vic, cps⟩
  unfold sampled at h
  unfold Machine.step
  dsimp only at h ⊢
  rw [h]

theorem step_of_ok {n : Nat} {c : Cpu} {b : Board}
    (h : Exec.step.perform m.sampled m.board = (.ok n, c, b)) :
    let sv := Exec.service.perform c b
    let rf := m.vic.refresh sv.2.1.regs.cycles sv.2.2
    m.step = (.ok (n + sv.1),
      ⟨sv.2.1, { rf.2.2 with cia := Cia.cycles (n + sv.1) rf.2.2.cia }, rf.2.1, m.cps⟩) := by
  rcases m with ⟨cpu, board, vic, cps⟩
  unfold sampled at h
  unfold Machine.step
  dsimp only at h ⊢
  rw [h]

section Ok

variable {n : Nat} {c : Cpu} {b : Board}
  (h : Exec.step.perform m.sampled m.board = (.ok n, c, b))
include h

theorem step_fst_of_ok : m.step.1 = .ok (n + (Exec.service.perform c b).1) := by
  rw [step_of_ok h]

theorem step_cpu_of_ok : m.step.2.cpu = (Exec.service.perform c b).2.1 := by
  rw [step_of_ok h]

/-- After the service a step writes RAM only at the video chip's two raster registers. -/
theorem step_ram_get_of_ok {x : UInt16} (hr : x ≠ VicReg.raster) (hs : x ≠ VicReg.scrollY) :
    m.step.2.board.memory.ram.get x = (Exec.service.perform c b).2.2.memory.ram.get x := by
  rw [step_of_ok h]
  exact Vic.refresh_ram_get _ _ _ hr hs

end Ok

/-- A step at an opcode with no entry fails naming it. -/
theorem step_of_decode_none
    (h : Opcode.decode (Bus.read m.sampled.regs.pc m.board).1 = none) :
    m.step = (.error (.unknownOpcode (Bus.read m.sampled.regs.pc m.board).1 m.sampled.regs.pc),
      { m with cpu := m.sampled, board := (Bus.read m.sampled.regs.pc m.board).2 }) :=
  step_of_error (Exec.step_of_decode_none h)

/-- A failed step leaves the processor, latch included, as the instruction got it. -/
theorem cpu_of_step_error {f : Fault} (h : m.step.1 = .error f) : m.step.2.cpu = m.sampled := by
  rcases hs : Exec.step.perform m.sampled m.board with ⟨r, c, b⟩
  cases r with
  | ok n => rw [step_of_ok hs] at h; cases h
  | error f' =>
    have hd := Exec.decode_none_of_error (congrArg Prod.fst hs)
    rw [step_of_decode_none hd]

/-- A successful step ends with the latch empty. -/
theorem step_pending_of_ok {n : Nat} (h : m.step.1 = .ok n) : m.step.2.cpu.pending = none := by
  rcases hs : Exec.step.perform m.sampled m.board with ⟨r, c, b⟩
  cases r with
  | error f => rw [step_of_error hs] at h; cases h
  | ok k =>
    rw [step_of_ok hs]
    exact Cpu.service_pending c b

/-! ## Power-on and loading -/

theorem new_bankMode (roms : RomSet) : (Memory.new roms).bankMode = 7 := by
  simp [Memory.bankMode, Memory.new, Memory.powerOnBanks]

/-- At power-on the bus shows the KERNAL at `$E000-$FFFF`, whatever the CIA holds. -/
theorem peek_new_kernal (roms : RomSet) (cia : Cia) {a : UInt16} (h : 0xE000 ≤ a.toNat) :
    (⟨Memory.new roms, cia⟩ : Board).peek a =
      roms.kernal.get ⟨a.toNat - 0xE000, Region.offset_kernal_lt a⟩ := by
  have hr : (⟨Memory.new roms, cia⟩ : Board).memory.resolve a =
      .kernal ⟨a.toNat - 0xE000, Region.offset_kernal_lt a⟩ := by
    unfold Memory.resolve
    rw [new_bankMode]
    exact Region.ofRead_kernal h (by simp)
  rw [(Board.shows_of_resolve hr nofun).1]
  rfl

/-- The reset at power-on: PC from the KERNAL's reset vector, 7 cycles, nothing else. -/
theorem reset_new (roms : RomSet) (cps : Nat) :
    Exec.reset.perform ({} : Cpu) (⟨Memory.new roms, Cia.new cps⟩ : Board) =
      ((), { regs := { pc := word (roms.kernal.get 0x1FFC) (roms.kernal.get 0x1FFD),
                       cycles := 7 } },
        ⟨Memory.new roms, Cia.new cps⟩) := by
  have hv := Board.readVector_eq (⟨Memory.new roms, Cia.new cps⟩ : Board) 0xFFFC (by decide)
    (by decide)
  rw [peek_new_kernal _ _ (by decide), peek_new_kernal _ _ (by decide)] at hv
  have hr : ({} : Cpu).signalReset = { pending := some .reset } := rfl
  simp only [Exec.reset, Exec.perform_bind, Exec.perform_modifyThe, Exec.perform_discard,
    Cpu.service_perform, hr, Cpu.serviceEffect, hv]
  rfl

/-- The machine at power-on: PC from the reset vector after 7 cycles, and the rest at its start. -/
theorem new_eq (roms : RomSet) (cps : Nat) :
    new roms cps =
      ⟨{ regs := { pc := word (roms.kernal.get 0x1FFC) (roms.kernal.get 0x1FFD), cycles := 7 } },
        ⟨Memory.new roms, Cia.new cps⟩, {}, cps⟩ := by
  simp only [new, reset, reset_new]

/-- Loading a program elsewhere than BASIC's start only writes its body to RAM. -/
theorem loadPrg_of_ne (m : Machine) (lo hi : UInt8) (body : List UInt8)
    (h : word lo hi ≠ Memory.basicStart) :
    m.loadPrg (lo :: hi :: body) = (.ok (word lo hi), { m with board := { m.board with
      memory := { m.board.memory with ram := m.board.memory.ram.load (word lo hi) body } } }) := by
  simp [loadPrg, Memory.loadPrg, h]

/-! ## The machines reached from power-on -/

/-- The machines reached from power-on; `board` is any change made through the bus. -/
inductive Reachable : Machine → Prop
  | new (roms : RomSet) (cps : Nat) : Reachable (Machine.new roms cps)
  | step {m : Machine} : Reachable m → Reachable m.step.2
  | nmi {m : Machine} : Reachable m → Reachable m.nmi
  | reset {m : Machine} : Reachable m → Reachable m.reset
  | board {m : Machine} (f : Board → Board) :
      Reachable m → Reachable { m with board := f m.board }

theorem Reachable.loadPrg (h : Reachable m) (data : List UInt8) : Reachable (m.loadPrg data).2 := by
  unfold Machine.loadPrg
  split
  · next mem _ => exact h.board fun b => { b with memory := mem }
  · exact h

theorem Reachable.of_step (h : Reachable m) {r : Except Fault Nat} {m' : Machine}
    (hs : m.step = (r, m')) : Reachable m' := by
  have h' := h.step
  rw [hs] at h'
  exact h'

theorem Reachable.steps (h : Reachable m) (k total : Nat) : Reachable (m.steps k total).2.2 := by
  induction k generalizing m total with
  | zero => exact h
  | succ k ih =>
    unfold Machine.steps
    split
    · next n m' hs => exact ih (h.of_step hs) _
    · next f m' hs => exact h.of_step hs

theorem Reachable.runUntil (h : Reachable m) (start budget fuel : Nat) :
    Reachable (m.runUntil start budget fuel).2 := by
  induction fuel generalizing m with
  | zero => exact h
  | succ fuel ih =>
    unfold Machine.runUntil
    split
    · split
      · next n m' hs => exact ih (h.of_step hs)
      · next f m' hs => exact h.of_step hs
    · exact h

theorem Reachable.runFrameFrom (h : Reachable m) (frame fuel : Nat) :
    Reachable (m.runFrameFrom frame fuel).2 := by
  induction fuel generalizing m with
  | zero => exact h
  | succ fuel ih =>
    unfold Machine.runFrameFrom
    split
    · split
      · next n m' hs => exact ih (h.of_step hs)
      · next f m' hs => exact h.of_step hs
    · exact h

theorem Reachable.runCycles (h : Reachable m) (budget : Nat) : Reachable (m.runCycles budget).2 :=
  h.runUntil _ _ _

theorem Reachable.runFrame (h : Reachable m) : Reachable m.runFrame.2 :=
  h.runFrameFrom _ _

end Machine

end Breadbox
