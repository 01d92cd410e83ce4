import Breadbox.Proofs.MachineStep

/-!
# How the CIA's interrupt reaches the processor

A machine step samples the CIA's IRQ line before its instruction and serves the latch after it;
between steps the latch stays in the shape `LatchOk` gives. Main statement (`cia_irq_delivery`).
A step that fails stops before the service, so a latched NMI waits for the next step
(`nmi_outlives_failed_step`).
-/

namespace Breadbox

namespace Cpu

/-- The latch between steps: no BRK mark, no BRK or reset, and an IRQ only while I is clear. -/
structure LatchOk (c : Cpu) : Prop where
  software : c.software = false
  not_brk : c.pending ≠ some .brk
  not_reset : c.pending ≠ some .reset
  irq : c.pending = some .irq → c.regs.i = false

variable {c : Cpu}

theorem LatchOk.of_empty (hp : c.pending = none) (hs : c.software = false) : LatchOk c :=
  ⟨hs, by simp [hp], by simp [hp], by simp [hp]⟩

/-- Between steps the latch holds nothing, an IRQ or an NMI. -/
theorem LatchOk.pending_cases (h : LatchOk c) :
    c.pending = none ∨ c.pending = some .irq ∨ c.pending = some .nmi := by
  rcases hp : c.pending with _ | w
  · exact .inl rfl
  · cases w with
    | irq => exact .inr (.inl rfl)
    | brk => exact absurd hp h.not_brk
    | nmi => exact .inr (.inr rfl)
    | reset => exact absurd hp h.not_reset

/-- With no NMI waiting, the latch holds nothing or an IRQ. -/
theorem LatchOk.pending_of_ne_nmi (h : LatchOk c) (hn : c.pending ≠ some .nmi) :
    c.pending = none ∨ c.pending = some .irq :=
  h.pending_cases.imp_right fun h' => h'.resolve_right hn

/-- Whatever was waiting, an NMI signal leaves an NMI waiting. -/
theorem LatchOk.signalNmi_pending (h : LatchOk c) : c.signalNmi.pending = some .nmi := by
  rw [signalNmi, latch_pending]
  rcases h.pending_cases with hp | hp | hp <;> simp [hp, Interrupt.priority]

theorem LatchOk.signalNmi (h : LatchOk c) : LatchOk c.signalNmi :=
  ⟨by simp [Cpu.signalNmi, h.software], by simp [h.signalNmi_pending],
    by simp [h.signalNmi_pending], by simp [h.signalNmi_pending]⟩

theorem LatchOk.signalIrq (h : LatchOk c) : LatchOk c.signalIrq := by
  unfold Cpu.signalIrq
  split
  · exact h
  · next hi =>
    refine ⟨by simp [h.software], ?_, ?_, fun _ => by simpa using hi⟩ <;>
    · rw [latch_pending]
      rcases h.pending_cases with hp | hp | hp <;> simp [hp, Interrupt.priority]

/-- After a service the latch is empty, provided a BRK mark never stood alone. -/
theorem latchOk_service {β : Type} [Bus β] (b : β)
    (h : c.pending = none → c.software = false) :
    LatchOk (Exec.service.perform c b).2.1 :=
  .of_empty (service_pending c b) (service_software c b h)

end Cpu

namespace Board

theorem stack_lt (x : UInt8) : (0x0100 ||| x.toUInt16 : UInt16).toNat < 0xD000 := by
  have := x.toNat_lt
  rw [toNat_stack]
  omega

theorem stack_ne_one (x : UInt8) : (0x0100 ||| x.toUInt16 : UInt16) ≠ 1 := by
  intro h
  have := congrArg UInt16.toNat h
  rw [toNat_stack, show (1 : UInt16).toNat = 1 from rfl] at this
  omega

theorem ne_stack {a : UInt16} (ha : 0x0200 ≤ a.toNat) (x : UInt8) :
    a ≠ 0x0100 ||| x.toUInt16 := by
  intro h
  have := x.toNat_lt
  rw [h, toNat_stack] at ha
  omega

variable (sp : UInt8) (pc : UInt16) (st : UInt8) (b : Board)

/-- On the board an interrupt's frame goes to page one of RAM. -/
theorem pushFrame_eq : Cpu.pushFrame sp pc st b =
    { b with memory := { b.memory with ram :=
      ((b.memory.ram.set (0x0100 ||| sp.toUInt16) (pc >>> 8).toUInt8).set
        (0x0100 ||| (sp - 1).toUInt16) pc.toUInt8).set (0x0100 ||| (sp - 1 - 1).toUInt16) st } } := by
  unfold Cpu.pushFrame
  show ((b.write _ _).write _ _).write _ _ = _
  rw [write_low _ (stack_lt sp), write_low _ (stack_lt (sp - 1)),
    write_low _ (stack_lt (sp - 1 - 1))]

/-- The frame holds the address high byte at `sp`, its low byte below, then the status. -/
theorem pushFrame_ram_get :
    let ram := (Cpu.pushFrame sp pc st b).memory.ram
    ram.get (0x0100 ||| sp.toUInt16) = (pc >>> 8).toUInt8 ∧
      ram.get (0x0100 ||| (sp - 1).toUInt16) = pc.toUInt8 ∧
      ram.get (0x0100 ||| (sp - 1 - 1).toUInt16) = st := by
  simp only [pushFrame_eq, Ram.get_set, stack_inj, sub_one_ne, sub_two_ne, ↓reduceIte, and_self]

/-- Above page one the board reads as it did before the frame was pushed. -/
theorem peek_pushFrame {a : UInt16} (ha : 0x0200 ≤ a.toNat) :
    (Cpu.pushFrame sp pc st b).peek a = b.peek a := by
  unfold Cpu.pushFrame
  show (((b.write _ _).write _ _).write _ _).peek a = _
  rw [peek_write_low _ (stack_lt _) (stack_ne_one _) (ne_stack ha _),
    peek_write_low _ (stack_lt _) (stack_ne_one _) (ne_stack ha _),
    peek_write_low _ (stack_lt _) (stack_ne_one _) (ne_stack ha _)]

/-- The IRQ vector, read after the frame is pushed, is the one the board showed before. -/
theorem readVector_irq :
    Cpu.readVector 0xFFFE (Cpu.pushFrame sp pc st b) =
      (word (b.peek 0xFFFE) (b.peek 0xFFFF), Cpu.pushFrame sp pc st b) := by
  rw [readVector_eq _ _ (by decide) (by decide), peek_pushFrame _ _ _ _ (by decide),
    peek_pushFrame _ _ _ _ (by decide)]
  rfl

end Board

/-- An IRQ service pushes PC and the status, sets I and jumps through `$FFFE`, in 7 cycles. -/
theorem Cpu.service_irq (c : Cpu) (b : Board) (hp : c.pending = some .irq)
    (hs : c.software = false) :
    Exec.service.perform c b = (7, { c with
      regs := { c.regs with
        sp := c.regs.sp - 1 - 1 - 1, i := true, pc := word (b.peek 0xFFFE) (b.peek 0xFFFF),
        cycles := c.regs.cycles + 7 },
      pending := none, software := false },
      Cpu.pushFrame c.regs.sp c.regs.pc (c.regs.status &&& ~~~0x10) b) := by
  have hst : c.regs.status &&& ~~~Registers.breakBit ||| Registers.bitIf false Registers.breakBit =
      c.regs.status &&& ~~~0x10 := by
    simp [Registers.bitIf, Registers.breakBit]
  rw [Cpu.service_perform, hp, hs, Cpu.serviceEffect_of_ne_reset (by decide)]
  simp only [hst, Interrupt.vector, Board.readVector_irq, Bool.false_eq_true, ↓reduceIte]

namespace Machine

variable {m : Machine}

theorem LatchOk.step (h : m.cpu.LatchOk) : m.step.2.cpu.LatchOk := by
  have hs : m.sampled.LatchOk := by
    unfold sampled
    split
    · exact h.signalIrq
    · exact h
  rcases hst : Exec.step.perform m.sampled m.board with ⟨r, c, b⟩
  cases r with
  | error f =>
    have he : m.step.1 = .error f := by rw [step_of_error hst]
    rw [cpu_of_step_error he]
    exact hs
  | ok n =>
    rw [step_of_ok hst]
    refine Cpu.latchOk_service _ fun hp => ?_
    obtain ⟨hlp, hls⟩ := Exec.step_latch m.sampled m.board
    rw [hst] at hlp hls
    by_cases h0 : (Bus.read m.sampled.regs.pc m.board).1 = 0
    · rw [if_pos h0] at hlp
      simp [hp] at hlp
    · rw [if_neg h0] at hls
      exact hls.trans hs.software

theorem reset_cpu (m : Machine) :
    m.reset.cpu = (Exec.service.perform m.cpu.signalReset m.board).2.1 :=
  rfl

theorem LatchOk.reset (m : Machine) : m.reset.cpu.LatchOk := by
  rw [reset_cpu]
  exact Cpu.latchOk_service _ fun hp => by simp [Cpu.signalReset] at hp

/-- The run lemma: every reached machine's latch is in order. -/
theorem Reachable.latchOk (h : Reachable m) : m.cpu.LatchOk := by
  induction h with
  | new roms cps => exact LatchOk.reset _
  | step _ ih => exact LatchOk.step ih
  | nmi _ ih => exact ih.signalNmi
  | reset _ ih => exact LatchOk.reset _
  | board f _ ih => exact ih

/-- The frame an IRQ pushes survives the rest of the step. -/
theorem step_stack_of_ok {n : Nat} {c : Cpu} {b : Board}
    (h : Exec.step.perform m.sampled m.board = (.ok n, c, b)) (x : UInt8) :
    m.step.2.board.memory.ram.get (0x0100 ||| x.toUInt16) =
      (Exec.service.perform c b).2.2.memory.ram.get (0x0100 ||| x.toUInt16) :=
  step_ram_get_of_ok h (Board.ne_stack (by decide) x).symm (Board.ne_stack (by decide) x).symm

/-- The step runs its instruction and takes the IRQ right after it: PC and the status are
pushed, I is set, PC comes from `$FFFE`, and the step costs 7 cycles more. -/
def TakesIrqAfter (m : Machine) : Prop :=
  let s := Exec.step.perform m.cpu.signalIrq m.board
  let r := s.2.1.regs
  ∃ n, s.1 = .ok n ∧ m.step.1 = .ok (n + 7) ∧
    m.step.2.cpu.regs = { r with
      sp := r.sp - 3, i := true, pc := word (s.2.2.peek 0xFFFE) (s.2.2.peek 0xFFFF),
      cycles := r.cycles + 7 } ∧
    m.step.2.board.memory.ram.get (0x0100 ||| r.sp.toUInt16) = (r.pc >>> 8).toUInt8 ∧
    m.step.2.board.memory.ram.get (0x0100 ||| (r.sp - 1).toUInt16) = r.pc.toUInt8 ∧
    m.step.2.board.memory.ram.get (0x0100 ||| (r.sp - 2).toUInt16) = r.status &&& ~~~0x10

/-- With the line up, I clear and no NMI latched, a step takes the IRQ after its instruction. -/
theorem step_takes_irq (hm : Reachable m) (hline : m.board.cia.irq = true)
    (hi : m.cpu.regs.i = false) (hn : m.cpu.pending ≠ some .nmi) {e : Entry}
    (hd : Opcode.decode (Bus.read m.cpu.regs.pc m.board).1 = some e)
    (hb : e.instruction ≠ .control .brk) : m.TakesIrqAfter := by
  unfold TakesIrqAfter
  intro s r
  have hinv := hm.latchOk
  have hsig : m.cpu.signalIrq = m.cpu.latch .irq := by simp [Cpu.signalIrq, hi]
  have hsamp : m.sampled = m.cpu.latch .irq := by simp [sampled, hline, hsig]
  have hp0 : (m.cpu.latch .irq).pending = some .irq := by
    rcases hinv.pending_of_ne_nmi hn with hp | hp <;> simp [hp]
  have hs0 : (m.cpu.latch .irq).software = false := by simp [hinv.software]
  have hd' : Opcode.decode (Bus.read (m.cpu.latch .irq).regs.pc m.board).1 = some e := by
    simp only [Cpu.latch_regs]
    exact hd
  have h0 : (Bus.read (m.cpu.latch .irq).regs.pc m.board).1 ≠ 0 :=
    fun h => hb ((Exec.decode_brk_iff hd').2 h)
  have hok := Exec.step_ok_of_decode hd'
  obtain ⟨hlp, hls⟩ := Exec.step_latch (m.cpu.latch .irq) m.board
  rw [if_neg h0] at hlp hls
  rcases hst : Exec.step.perform (m.cpu.latch .irq) m.board with ⟨res, c1, b1⟩
  rw [hst] at hok hlp hls
  dsimp only at hok hlp hls
  subst hok
  have hs : s = (.ok c1.last, c1, b1) := by simp only [s, hsig, hst]
  have hsv := Cpu.service_irq c1 b1 (hlp.trans hp0) (hls.trans hs0)
  rw [← hsamp] at hst
  simp only [r, hs]
  obtain ⟨hhi, hlo, hst'⟩ :=
    Board.pushFrame_ram_get c1.regs.sp c1.regs.pc (c1.regs.status &&& ~~~0x10) b1
  refine ⟨c1.last, rfl, ?_, ?_, ?_, ?_, ?_⟩
  · rw [step_fst_of_ok hst, hsv]
  · rw [step_cpu_of_ok hst, hsv]
    simp only [sub_three_eq]
  · rw [step_stack_of_ok hst, hsv, hhi]
  · rw [step_stack_of_ok hst, hsv, hlo]
  · rw [← sub_two_eq, step_stack_of_ok hst, hsv, hst']

/-- With I set and no NMI latched, a step not at BRK serves no interrupt. -/
theorem step_masked (hm : Reachable m) (hi : m.cpu.regs.i = true) (hn : m.cpu.pending ≠ some .nmi)
    (h0 : (Bus.read m.cpu.regs.pc m.board).1 ≠ 0) :
    m.step.1 = (Exec.step.perform m.cpu m.board).1 ∧
      m.step.2.cpu = (Exec.step.perform m.cpu m.board).2.1 := by
  have hinv := hm.latchOk
  have hp : m.cpu.pending = none :=
    (hinv.pending_of_ne_nmi hn).resolve_right fun hp => by simp [hinv.irq hp] at hi
  have hsamp := sampled_of_masked hi
  obtain ⟨hlp, -⟩ := Exec.step_latch m.cpu m.board
  rw [if_neg h0] at hlp
  rcases hst : Exec.step.perform m.cpu m.board with ⟨r, c, b⟩
  rw [hst] at hlp
  rw [← hsamp] at hst
  cases r with
  | error f => simp [step_of_error hst]
  | ok n =>
    rw [step_of_ok hst, Cpu.service_of_none c b (hlp.trans hp)]
    simp

/-- IRQ delivery from the CIA, over every reached machine: with the line up, I clear and no NMI
latched the IRQ is taken right after the instruction; with I set and no NMI latched no interrupt
is served but BRK's; a successful step ends with the latch empty. -/
theorem cia_irq_delivery (m : Machine) (hm : Reachable m) :
    (m.board.cia.irq = true → m.cpu.regs.i = false → m.cpu.pending ≠ some .nmi →
      ∀ e : Entry, Opcode.decode (Bus.read m.cpu.regs.pc m.board).1 = some e →
        e.instruction ≠ .control .brk → m.TakesIrqAfter) ∧
    (m.cpu.regs.i = true → m.cpu.pending ≠ some .nmi →
      (Bus.read m.cpu.regs.pc m.board).1 ≠ 0 →
      m.step.1 = (Exec.step.perform m.cpu m.board).1 ∧
        m.step.2.cpu = (Exec.step.perform m.cpu m.board).2.1) ∧
    (∀ n, m.step.1 = .ok n → m.step.2.cpu.pending = none) :=
  ⟨fun hl hi hn _ hd hb => step_takes_irq hm hl hi hn hd hb,
    fun hi hn h0 => step_masked hm hi hn h0, fun _ h => step_pending_of_ok h⟩

/-- At power-on with the KERNAL filled with NOP and the CIA's line up, the IRQ follows the first
NOP. -/
theorem irq_taken_after_nop :
    let m0 := Machine.new ⟨Vector.replicate 8192 0xBA, Vector.replicate 8192 0xEA,
      Vector.replicate 4096 0xC4⟩ 985248
    let m := { m0 with board := { m0.board with cia := { m0.board.cia with irq := true } } }
    Reachable m ∧ m.board.cia.irq = true ∧ m.cpu.regs.i = false ∧
      m.cpu.pending ≠ some .nmi ∧
      Opcode.decode (Bus.read m.cpu.regs.pc m.board).1 = some ⟨.control .nop, .implied, 2⟩ ∧
      m.TakesIrqAfter := by
  intro m0 m
  have hm : Reachable m :=
    (Reachable.new _ _).board fun b => { b with cia := { b.cia with irq := true } }
  have e0 : m0 = _ := new_eq _ _
  have e : m = { m0 with board := { m0.board with cia := { m0.board.cia with irq := true } } } :=
    rfl
  clear_value m m0
  have hpc : word ((Vector.replicate 8192 (0xEA : UInt8)).get 0x1FFC)
      ((Vector.replicate 8192 (0xEA : UInt8)).get 0x1FFD) = 0xEAEA := by
    simp only [Vector.get, Vector.toArray_replicate, Array.getElem_replicate]
    decide
  rw [hpc] at e0
  rw [e0] at e
  have hr : Bus.read m.cpu.regs.pc m.board = (0xEA, m.board) := by
    rw [e, Board.bus_read_eq]
    refine (Board.read_eq_peek (by decide)).trans ?_
    rw [peek_new_kernal _ _ (by decide)]
    simp only [Vector.get, Vector.toArray_replicate, Array.getElem_replicate]
  have hd : Opcode.decode 0xEA = some ⟨.control .nop, .implied, 2⟩ := by
    rw [Opcode.decode_eq_find?]
    rfl
  have hl : m.board.cia.irq = true := by rw [e]
  have hi : m.cpu.regs.i = false := by rw [e]
  have hn : m.cpu.pending ≠ some .nmi := by rw [e]; simp
  rw [hr]
  exact ⟨hm, hl, hi, hn, hd,
    (cia_irq_delivery m hm).1 hl hi hn _ (by rw [hr]; exact hd) (by decide)⟩

/-- An NMI requested before a step that fails at `$02` is still latched, and the next step serves
it: it returns 9, not the NOP's 2. -/
theorem nmi_outlives_failed_step :
    let m := Machine.new ⟨Vector.replicate 8192 0xBA, Vector.replicate 8192 0x10,
      Vector.replicate 4096 0xC4⟩ 985248
    let m0 := (m.loadPrg [0x10, 0x10, 0x78, 0x02]).2
    let m1 := m0.step.2.nmi
    let m2 := (m1.step.2.loadPrg [0x11, 0x10, 0xEA]).2
    m1.step.1 = .error (.unknownOpcode 0x02 0x1011) ∧ Reachable m2 ∧ m2.cpu.regs.i = true ∧
      m2.cpu.pending = some .nmi ∧ (Bus.read m2.cpu.regs.pc m2.board).1 = 0xEA ∧
      (Exec.step.perform m2.cpu m2.board).1 = .ok 2 ∧ m2.step.1 = .ok 9 := by
  intro m m0 m1 m2
  have hreach : Reachable m2 := (((Reachable.new _ _).loadPrg _).step.nmi.step).loadPrg _
  have e1 : m1 = m0.step.2.nmi := rfl
  have e2 : m2 = (m1.step.2.loadPrg [0x11, 0x10, 0xEA]).2 := rfl
  have hm : m = _ := new_eq _ _
  have e0 : m0 = _ := congrArg Prod.snd (loadPrg_of_ne m 0x10 0x10 [0x78, 0x02] (by decide))
  clear_value m2 m1 m0 m
  have hpc : word ((Vector.replicate 8192 (0x10 : UInt8)).get 0x1FFC)
      ((Vector.replicate 8192 (0x10 : UInt8)).get 0x1FFD) = 0x1010 := by
    simp only [Vector.get, Vector.toArray_replicate, Array.getElem_replicate]
    decide
  rw [hpc] at hm
  rw [hm] at e0
  have hw0 : word 0x10 0x10 = 0x1010 := by decide
  have hc0 : m0.cpu = { regs := { pc := 0x1010, cycles := 7 } } := by rw [e0]
  have hline0 : m0.board.cia.irq = false := by rw [e0]; rfl
  have hsei : Bus.read m0.cpu.regs.pc m0.board = (0x78, m0.board) := by
    rw [hc0, Board.bus_read_eq,
      Board.read_low (show (0x1010 : UInt16).toNat < 0xA000 by decide), e0]
    simp [Ram.load, hw0]
  have dsei : Opcode.decode 0x78 = some ⟨.control .sei, .implied, 2⟩ := by
    rw [Opcode.decode_eq_find?]
    rfl
  have hs0 : Exec.step.perform m0.sampled m0.board =
      (.ok 2, { regs := { pc := 0x1011, i := true, cycles := 9 }, last := 2 }, m0.board) := by
    rw [show m0.sampled = m0.cpu by simp [sampled, hline0],
      Exec.step_of_registers (by rw [hsei]; exact dsei) (fun r => { r with i := true })
        (fun _ _ => rfl),
      hsei, hc0]
    rfl
  have hsv0 := Cpu.service_of_none
    ({ regs := { pc := 0x1011, i := true, cycles := 9 }, last := 2 } : Cpu) m0.board rfl
  have hc1 : m1.cpu =
      { regs := { pc := 0x1011, i := true, cycles := 9 }, last := 2, pending := some .nmi } := by
    rw [e1, nmi_cpu, step_cpu_of_ok hs0, hsv0]
    rfl
  have hram1 : m1.board.memory.ram.get 0x1011 = 0x02 := by
    rw [e1, nmi_board, step_ram_get_of_ok hs0 (by decide) (by decide), hsv0, e0]
    simp [Ram.load, hw0]
  -- the unknown $02 fails the step before the service: the NMI stays latched
  have hm1 : m1.sampled = m1.cpu := sampled_of_masked (by rw [hc1])
  have hread1 : Bus.read m1.sampled.regs.pc m1.board = (0x02, m1.board) := by
    rw [hm1, hc1, Board.bus_read_eq,
      Board.read_low (show (0x1011 : UInt16).toNat < 0xA000 by decide), hram1]
  have d02 : Opcode.decode 0x02 = none := by
    rw [Opcode.decode_eq_find?]
    rfl
  have hf : m1.step = _ := step_of_decode_none (by rw [hread1]; exact d02)
  rw [hread1, hm1, hc1] at hf
  rw [loadPrg_of_ne _ 0x11 0x10 [0xEA] (by decide)] at e2
  have hw2 : word 0x11 0x10 = 0x1011 := by decide
  have hc2 : m2.cpu =
      { regs := { pc := 0x1011, i := true, cycles := 9 }, last := 2, pending := some .nmi } := by
    rw [e2, hf]
  have hread2 : Bus.read m2.cpu.regs.pc m2.board = (0xEA, m2.board) := by
    rw [hc2, Board.bus_read_eq,
      Board.read_low (show (0x1011 : UInt16).toNat < 0xA000 by decide), e2]
    simp [Ram.load, hw2]
  have dnop : Opcode.decode 0xEA = some ⟨.control .nop, .implied, 2⟩ := by
    rw [Opcode.decode_eq_find?]
    rfl
  have hs2 : Exec.step.perform m2.cpu m2.board =
      (.ok 2,
        { regs := { pc := 0x1012, i := true, cycles := 11 }, last := 2, pending := some .nmi },
        m2.board) := by
    rw [Exec.step_of_registers (by rw [hread2]; exact dnop) id (fun _ _ => rfl), hread2, hc2]
    rfl
  have hm2 : m2.sampled = m2.cpu := sampled_of_masked (by rw [hc2])
  refine ⟨by rw [hf], hreach, by rw [hc2], by rw [hc2], by rw [hread2], by rw [hs2], ?_⟩
  rw [step_fst_of_ok (hm2 ▸ hs2), Cpu.service_cycles _ _ rfl rfl]

end Machine

end Breadbox
