import Breadbox.Proofs.InterruptReturn

/-!
# Stack round trips and subroutine calls

A pop reads back what the last push stored, at every SP, the wrap inside page one included. A
JSR followed by the RTS at its target comes back three bytes on, 12 cycles later, with only the
return address written (`Exec.stack_round_trips`).
-/

namespace Breadbox

namespace Exec

variable (c : Cpu) (m : FlatRam)

/-- JSR pushes the address of its operand's last byte and jumps to the operand. -/
theorem step_jsr (h : m.bytes.get c.regs.pc = 0x20) :
    step.perform c m =
      (.ok 6, { c with
        regs := { c.regs with
          sp := c.regs.sp - 1 - 1,
          pc := word (m.bytes.get (c.regs.pc + 1)) (m.bytes.get (c.regs.pc + 2)),
          cycles := c.regs.cycles + 6 },
        last := 6 },
        Bus.write (0x0100 ||| (c.regs.sp - 1).toUInt16) (c.regs.pc + 2).toUInt8
          (Bus.write (0x0100 ||| c.regs.sp.toUInt16) ((c.regs.pc + 2) >>> 8).toUInt8 m)) := by
  have hd : Opcode.decode 0x20 = some ⟨.control .jsr, .absolute, 6⟩ := by
    rw [Opcode.decode_eq_find?]
    rfl
  have h2 : c.regs.pc + 1 + 1 = c.regs.pc + 2 := by rw [UInt16.add_assoc]; rfl
  have h3 : c.regs.pc + 2 + 1 - 1 = c.regs.pc + 2 := UInt16.add_sub_cancel _ _
  simp only [step, perform_bind, perform_fetch, FlatRam.read_eq, h, hd, perform_modifyThe, execute,
    control, fetchWord, perform_pure, perform_regs, perform_pushWord, perform_setRegs,
    perform_getThe, h2]
  rw [h3]

/-- RTS pops the return address and goes one past it. -/
theorem step_rts (h : m.bytes.get c.regs.pc = 0x60) :
    step.perform c m =
      (.ok 6, { c with
        regs := { c.regs with
          sp := c.regs.sp + 1 + 1,
          pc := word (m.bytes.get (0x0100 ||| (c.regs.sp + 1).toUInt16))
            (m.bytes.get (0x0100 ||| (c.regs.sp + 1 + 1).toUInt16)) + 1,
          cycles := c.regs.cycles + 6 },
        last := 6 }, m) := by
  have hd : Opcode.decode 0x60 = some ⟨.control .rts, .implied, 6⟩ := by
    rw [Opcode.decode_eq_find?]
    rfl
  simp only [step, perform_bind, perform_fetch, FlatRam.read_eq, h, hd, perform_modifyThe, execute,
    control, perform_pure, perform_popWord, perform_setRegs, perform_getThe]

/-- A popped byte is the one the last push stored, and the pop puts SP back. -/
theorem push_pop (v : UInt8) :
    let s := (push v : Exec FlatRam Unit).perform c m
    (pop.perform s.2.1 s.2.2).1 = v ∧ (pop.perform s.2.1 s.2.2).2.1 = c := by
  simp

/-- A popped word is the one the last push stored, and the pops put SP back. -/
theorem pushWord_popWord (w : UInt16) :
    let s := (pushWord w : Exec FlatRam Unit).perform c m
    (popWord.perform s.2.1 s.2.2).1 = w ∧ (popWord.perform s.2.1 s.2.2).2.1 = c := by
  have h1 : c.regs.sp - 1 - 1 + 1 = c.regs.sp - 1 := UInt8.sub_add_cancel _ _
  have h2 : c.regs.sp - 1 + 1 = c.regs.sp := UInt8.sub_add_cancel _ _
  simp only [perform_pushWord, perform_popWord, FlatRam.read_eq, FlatRam.write_bytes, h1, h2,
    Ram.get_set, stack_inj, sub_one_ne, ↓reduceIte, word_toUInt8, and_true]

/-- Stack round trips at every stack pointer: a byte or a word pushed and popped comes back with
SP restored; a JSR at `p` and the RTS at its target take 6 cycles each, end at `p + 3` with every
register and flag as it was, and write only the return address at `$0100 | SP` and below. -/
theorem stack_round_trips (c : Cpu) (m : FlatRam) :
    (∀ v : UInt8, let s := (push v : Exec FlatRam Unit).perform c m
      (pop.perform s.2.1 s.2.2).1 = v ∧ (pop.perform s.2.1 s.2.2).2.1 = c) ∧
    (∀ w : UInt16, let s := (pushWord w : Exec FlatRam Unit).perform c m
      (popWord.perform s.2.1 s.2.2).1 = w ∧ (popWord.perform s.2.1 s.2.2).2.1 = c) ∧
    (let p := c.regs.pc
     let t := word (m.bytes.get (p + 1)) (m.bytes.get (p + 2))
     let hiAt : UInt16 := 0x0100 ||| c.regs.sp.toUInt16
     let loAt : UInt16 := 0x0100 ||| (c.regs.sp - 1).toUInt16
     m.bytes.get p = 0x20 → m.bytes.get t = 0x60 → t ≠ hiAt → t ≠ loAt →
     let s1 := step.perform c m
     let s2 := step.perform s1.2.1 s1.2.2
     s1.1 = .ok 6 ∧ s2.1 = .ok 6 ∧
       s2.2.1.regs = { c.regs with pc := p + 3, cycles := c.regs.cycles + 12 } ∧
       s2.2.2.bytes = (m.bytes.set hiAt ((p + 2) >>> 8).toUInt8).set loAt (p + 2).toUInt8 ∧
       s2.2.2.journal =
         (m.journal.push (hiAt, ((p + 2) >>> 8).toUInt8)).push (loAt, (p + 2).toUInt8)) := by
  refine ⟨push_pop c m, pushWord_popWord c m, ?_⟩
  intro p t hiAt loAt hjsr hrts hhi hlo s1 s2
  obtain ⟨c1, hc1⟩ : ∃ c1 : Cpu, c1 = { c with
      regs := { c.regs with sp := c.regs.sp - 1 - 1, pc := t, cycles := c.regs.cycles + 6 },
      last := 6 } := ⟨_, rfl⟩
  obtain ⟨m1, hm1⟩ : ∃ m1 : FlatRam, m1 = Bus.write loAt (p + 2).toUInt8
      (Bus.write hiAt ((p + 2) >>> 8).toUInt8 m) := ⟨_, rfl⟩
  have e1 : s1 = (.ok 6, c1, m1) := by
    rw [show s1 = step.perform c m from rfl, step_jsr c m hjsr, hc1, hm1]
  have hbytes : m1.bytes = (m.bytes.set hiAt ((p + 2) >>> 8).toUInt8).set loAt (p + 2).toUInt8 := by
    rw [hm1]
    rfl
  have hret : m1.bytes.get c1.regs.pc = 0x60 := by
    rw [hbytes, hc1]
    simp only [Ram.get_set, Ne.symm hhi, Ne.symm hlo, ↓reduceIte]
    exact hrts
  have hsp1 : c.regs.sp - 1 - 1 + 1 = c.regs.sp - 1 := UInt8.sub_add_cancel _ _
  have hsp2 : c.regs.sp - 1 + 1 = c.regs.sp := UInt8.sub_add_cancel _ _
  have hpop : word (m1.bytes.get (0x0100 ||| (c1.regs.sp + 1).toUInt16))
      (m1.bytes.get (0x0100 ||| (c1.regs.sp + 1 + 1).toUInt16)) = p + 2 := by
    rw [hbytes, hc1]
    simp only [hsp1, hsp2, loAt, hiAt, Ram.get_set, stack_inj, sub_one_ne, ↓reduceIte,
      word_toUInt8]
  have e2 : s2 = step.perform c1 m1 := by rw [show s2 = step.perform s1.2.1 s1.2.2 from rfl, e1]
  have hpc : p + 2 + 1 = p + 3 := by rw [UInt16.add_assoc]; rfl
  have hcycles : c.regs.cycles + 6 + 6 = c.regs.cycles + 12 := by omega
  rw [e2, step_rts c1 m1 hret, hpop, e1]
  refine ⟨rfl, rfl, ?_, hbytes, by rw [hm1]; rfl⟩
  simp only [hc1, hsp1, hsp2, hpc, hcycles]

/-- A call from `$1000` with SP at `$00` pushes across the wrap and comes back to `$1003`. -/
theorem jsr_rts_across_stack_wrap :
    let c : Cpu := { regs := { pc := 0x1000, sp := 0x00 } }
    let m : FlatRam :=
      { bytes := (((Ram.zero.set 0x1000 0x20).set 0x1001 0x00).set 0x1002 0x20).set 0x2000 0x60 }
    let s1 := step.perform c m
    let s2 := step.perform s1.2.1 s1.2.2
    m.bytes.get 0x1000 = 0x20 ∧ m.bytes.get 0x2000 = 0x60 ∧
      s2.2.1.regs = { pc := 0x1003, sp := 0x00, cycles := 12 } ∧
      s2.2.2.journal = #[(0x0100, 0x10), (0x01FF, 0x02)] := by
  intro c m s1 s2
  have hjsr : m.bytes.get 0x1000 = 0x20 := by simp [m]
  have ht : word (m.bytes.get (c.regs.pc + 1)) (m.bytes.get (c.regs.pc + 2)) = 0x2000 := by
    simp [c, m]
    decide
  have hrts : m.bytes.get 0x2000 = 0x60 := by simp [m]
  -- the runs stay opaque: only the theorem's equations are used about them
  have hc : c.regs = { pc := 0x1000, sp := 0x00 } := rfl
  have hm : m.journal = #[] := rfl
  have e1 : s1 = step.perform c m := rfl
  have e2 : s2 = step.perform s1.2.1 s1.2.2 := rfl
  clear_value s2 s1 c m
  obtain ⟨-, -, hregs, -, hjournal⟩ := (stack_round_trips c m).2.2 (by rw [hc]; exact hjsr)
    (ht ▸ hrts) (by rw [ht, hc]; decide) (by rw [ht, hc]; decide)
  rw [← e1, ← e2] at hregs hjournal
  refine ⟨hjsr, hrts, ?_, ?_⟩
  · rw [hregs, hc]
    rfl
  · rw [hjournal, hm, hc]
    decide

end Exec

end Breadbox
