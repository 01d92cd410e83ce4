import Breadbox.Proofs.InterruptReturn
import Breadbox.Proofs.StepCost

/-!
# Decoding: effective addresses and the next PC

`AddressMode.effective` states the addressing rules on a memory as a function, and
`Exec.resolve_flat` shows the processor computes them on a flat RAM.

Main statement (`Exec.step_addressing`): a step leaves PC where `Entry.nextPc` says, and reads,
stores and read-modify-write instructions use the effective address.
-/

namespace Breadbox

namespace AddressMode

/-- The number of operand bytes after the opcode. -/
def operandBytes : AddressMode → UInt16
  | .implied | .accumulator => 0
  | .immediate | .relative | .zeroPage | .zeroPageX | .zeroPageY | .indirectX | .indirectY => 1
  | .absolute | .absoluteX | .absoluteY | .indirect => 2

/-- The effective address of an operand, for the opcode at `r.pc` of a memory `mem`. Zero-page
addresses wrap in page zero, and the indirect jump reads its target's high byte from the
pointer's own page. -/
def effective (mode : AddressMode) (mem : UInt16 → UInt8) (r : Registers) : UInt16 :=
  let p := r.pc
  let b := mem (p + 1)
  let w := word b (mem (p + 2))
  let pointer (q : UInt16) : UInt16 := word (mem q) (mem ((q + 1) % 256))
  match mode with
  | .immediate | .relative => p + 1
  | .zeroPage => b.toUInt16
  | .zeroPageX => (b.toUInt16 + r.x.toUInt16) % 256
  | .zeroPageY => (b.toUInt16 + r.y.toUInt16) % 256
  | .absolute => w
  | .absoluteX => w + r.x.toUInt16
  | .absoluteY => w + r.y.toUInt16
  | .indirect => word (mem w) (mem ((w &&& 0xFF00) ||| ((w + 1) &&& 0x00FF)))
  | .indirectX => pointer ((b.toUInt16 + r.x.toUInt16) % 256)
  | .indirectY => pointer b.toUInt16 + r.y.toUInt16
  | .implied | .accumulator => 0

end AddressMode

/-- Whether an instruction sends PC elsewhere than past its operand. -/
def Instruction.transfers : Instruction → Bool
  | .control (.branch _) | .control .jmp | .control .jsr | .control .rts | .control .rti
  | .control .brk => true
  | _ => false

/-- Where PC stands after an instruction whose opcode is at `r.pc`: past the operand, or where
a taken branch, jump, call, return or BRK sends it. -/
def Entry.nextPc (e : Entry) (mem : UInt16 → UInt8) (r : Registers) : UInt16 :=
  let stack (k : UInt8) : UInt16 := 0x0100 ||| (r.sp + k).toUInt16
  match e.instruction with
  | .control (.branch cond) =>
    if cond.holds r then r.pc + 2 + UInt16.ofBitVec ((mem (r.pc + 1)).toBitVec.signExtend 16)
    else r.pc + 2
  | .control .jmp => e.mode.effective mem r
  | .control .jsr => word (mem (r.pc + 1)) (mem (r.pc + 2))
  | .control .rts => word (mem (stack 1)) (mem (stack 2)) + 1
  | .control .rti => word (mem (stack 2)) (mem (stack 3))
  | .control .brk => r.pc + 2
  | _ => r.pc + 1 + e.mode.operandBytes

@[simp] theorem Registers.setZN_pc (r : Registers) (v : UInt8) : (r.setZN v).pc = r.pc := rfl

@[simp] theorem Registers.setStatus_pc (r : Registers) (s : UInt8) : (r.setStatus s).pc = r.pc :=
  rfl

@[simp] theorem Registers.setStatus_sp (r : Registers) (s : UInt8) : (r.setStatus s).sp = r.sp :=
  rfl

@[simp] theorem ReadOp.apply_pc (op : ReadOp) (r : Registers) (m : UInt8) :
    (op.apply r m).pc = r.pc := by
  cases op <;> simp [ReadOp.apply, Registers.adc, Registers.sbc, Registers.compare,
    Registers.bitTest]

@[simp] theorem ModifyOp.apply_pc (op : ModifyOp) (r : Registers) (m : UInt8) :
    (op.apply r m).2.pc = r.pc := by
  cases op <;> simp [ModifyOp.apply]

/-- The branch offset's sign extension is the library's. -/
theorem signExtend_eq : ∀ b : UInt8, signExtend b = UInt16.ofBitVec (b.toBitVec.signExtend 16) := by
  decide +kernel

/-- Every other entry that does not transfer control is implied. -/
theorem find?_control_implied : ∀ i : Fin 256, ∀ e ∈ Opcode.find? (UInt8.ofNat i.val),
    (e.instruction matches .control _) → e.instruction.transfers = false → e.mode = .implied := by
  decide +kernel

/-- No read instruction of the table takes the accumulator as its operand. -/
theorem find?_read_not_accumulator : ∀ i : Fin 256, ∀ e ∈ Opcode.find? (UInt8.ofNat i.val),
    (e.instruction matches .read _) → e.mode ≠ .accumulator := by
  decide +kernel

theorem decode_read_not_accumulator {b : UInt8} {e : Entry} {op : ReadOp}
    (h : Opcode.decode b = some e) (hi : e.instruction = .read op) : e.mode ≠ .accumulator := by
  have hr := find?_read_not_accumulator ⟨b.toNat, b.toNat_lt⟩ e
  rw [UInt8.ofNat_toNat, ← Opcode.decode_eq_find?] at hr
  exact hr h (by rw [hi])

theorem decode_control_implied {b : UInt8} {op : Control} {mode : AddressMode} {n : Nat}
    (h : Opcode.decode b = some ⟨.control op, mode, n⟩)
    (ht : (Instruction.control op).transfers = false) : mode = .implied := by
  have hi := find?_control_implied ⟨b.toNat, b.toNat_lt⟩ ⟨.control op, mode, n⟩
  rw [UInt8.ofNat_toNat, ← Opcode.decode_eq_find?] at hi
  exact hi h rfl ht

namespace Exec

/-! The lemmas below run a computation from any processor whose PC has just moved past the
opcode at `r.pc`; its other registers are those of `r`. -/

variable {c : Cpu} {r : Registers}

/-- On a flat RAM the processor computes the effective address and leaves PC past the operand. -/
theorem resolve_flat (mode : AddressMode) (penalty : Bool) (hc : c.regs = { r with pc := r.pc + 1 })
    (m : FlatRam) :
    let s := (resolve mode penalty).perform c m
    s.1 = mode.effective m.bytes.get r ∧
      s.2.1.regs = { r with pc := r.pc + 1 + mode.operandBytes } ∧ s.2.2 = m := by
  obtain ⟨regs, last, pending, software⟩ := c
  subst hc
  cases mode <;> cases penalty <;>
    simp [resolve, fetchWord, indexed, indirectTarget, readZeroPageWord, AddressMode.effective,
      AddressMode.operandBytes, UInt16.add_assoc]

theorem operand_of_ne {β : Type} [Bus β] {mode : AddressMode} (h : mode ≠ .accumulator) :
    (operand mode : Exec β UInt8) = resolve mode true >>= Exec.read := by
  cases mode <;> simp_all [operand]

/-- The operand of a read instruction: A in accumulator mode, else the byte it addresses. -/
theorem operand_flat (mode : AddressMode) (hc : c.regs = { r with pc := r.pc + 1 }) (m : FlatRam) :
    let s := (operand mode).perform c m
    s.1 = (if mode = .accumulator then r.a else m.bytes.get (mode.effective m.bytes.get r)) ∧
      s.2.1.regs = { r with pc := r.pc + 1 + mode.operandBytes } ∧ s.2.2 = m := by
  by_cases hacc : mode = .accumulator
  · subst hacc
    simp [operand, AddressMode.operandBytes, hc]
  · obtain ⟨h1, h2, h3⟩ := resolve_flat mode true hc m
    simp only [operand_of_ne hacc, perform_bind, perform_read, FlatRam.read_eq, h1, h2, h3, hacc]
    simp

theorem holds_withPc (cond : Condition) (r : Registers) (p : UInt16) :
    cond.holds { r with pc := p } = cond.holds r := by
  cases cond <;> rfl

variable {e : Entry}

/-- A read instruction applies its operation to the operand; memory stays. -/
theorem execute_read_flat {op : ReadOp} (hi : e.instruction = .read op)
    (hc : c.regs = { r with pc := r.pc + 1 }) (m : FlatRam) :
    let s := (execute e).perform c m
    s.2.1.regs = op.apply { r with pc := r.pc + 1 + e.mode.operandBytes }
        (if e.mode = .accumulator then r.a else m.bytes.get (e.mode.effective m.bytes.get r)) ∧
      s.2.2 = m := by
  rcases e with ⟨instruction, mode, n⟩
  subst hi
  obtain ⟨h1, h2, h3⟩ := operand_flat mode hc m
  simp only [execute, perform_bind, perform_setRegs, h1, h2, h3, and_self]

/-- What a store does on a flat RAM: its register written at the effective address. -/
theorem execute_store_flat {reg : Register} (hi : e.instruction = .store reg)
    (hc : c.regs = { r with pc := r.pc + 1 }) (m : FlatRam) :
    let s := (execute e).perform c m
    s.2.1.regs = { r with pc := r.pc + 1 + e.mode.operandBytes } ∧
      s.2.2.bytes = m.bytes.set (e.mode.effective m.bytes.get r) (reg.select r) := by
  rcases e with ⟨instruction, mode, n⟩
  subst hi
  obtain ⟨h1, h2, h3⟩ := resolve_flat mode false hc m
  simp only [execute, perform_bind, perform_regs, perform_write, h1, h2, h3, FlatRam.write_bytes,
    true_and]
  cases reg <;> rfl

/-- A read-modify-write instruction writes its result back to the effective address. -/
theorem execute_modify_flat {op : ModifyOp} (hi : e.instruction = .modify op)
    (hm : e.mode ≠ .accumulator) (hc : c.regs = { r with pc := r.pc + 1 }) (m : FlatRam) :
    let s := (execute e).perform c m
    let res := op.apply { r with pc := r.pc + 1 + e.mode.operandBytes }
      (m.bytes.get (e.mode.effective m.bytes.get r))
    s.2.1.regs = res.2 ∧ s.2.2.bytes = m.bytes.set (e.mode.effective m.bytes.get r) res.1 := by
  rcases e with ⟨instruction, mode, n⟩
  subst hi
  obtain ⟨h1, h2, h3⟩ := resolve_flat mode false hc m
  simp only [execute, hm, ↓reduceIte, perform_bind, perform_read, perform_regs, perform_setRegs,
    perform_write, FlatRam.read_eq, FlatRam.write_bytes, h1, h2, h3, and_self]

/-- The accumulator form of a read-modify-write instruction leaves PC past the opcode. -/
theorem execute_modify_accumulator_pc {op : ModifyOp} (hi : e.instruction = .modify op)
    (hm : e.mode = .accumulator) (hc : c.regs = { r with pc := r.pc + 1 }) (m : FlatRam) :
    ((execute e).perform c m).2.1.regs.pc = r.pc + 1 := by
  rcases e with ⟨instruction, mode, n⟩
  subst hi hm
  simp [execute, hc]

/-- Where a control instruction leaves PC on a flat RAM. -/
theorem control_pc_flat {op : Control} (hi : e.instruction = .control op)
    (hm : (Instruction.control op).transfers = false → e.mode = .implied)
    (hc : c.regs = { r with pc := r.pc + 1 }) (m : FlatRam) :
    ((execute e).perform c m).2.1.regs.pc = e.nextPc m.bytes.get r := by
  rcases e with ⟨instruction, mode, n⟩
  subst hi
  obtain ⟨regs, last, pending, software⟩ := c
  subst hc
  cases op with
  | branch cond =>
    by_cases h : cond.holds r
    · simp [execute, control, branch, Entry.nextPc, holds_withPc, h, signExtend_eq,
        UInt16.add_assoc]
    · simp [execute, control, branch, Entry.nextPc, holds_withPc, h, UInt16.add_assoc]
  | jmp => simpa [execute, control, Entry.nextPc] using (resolve_flat mode false rfl m).1
  | jsr => simp [execute, control, fetchWord, Entry.nextPc, UInt16.add_assoc]
  | rts => simp [execute, control, Entry.nextPc, UInt8.add_assoc]
  | rti => simp [execute, control, Entry.nextPc, UInt8.add_assoc]
  | brk => simp [execute, control, Entry.nextPc, UInt16.add_assoc]
  | _ =>
    have hmode : mode = .implied := hm rfl
    simp [execute, control, Entry.nextPc, hmode, AddressMode.operandBytes]

/-- A step on a flat RAM runs the entry's body from PC past the opcode and counts its cost. -/
theorem step_flat {c : Cpu} {m : FlatRam} {e : Entry}
    (hd : Opcode.decode (m.bytes.get c.regs.pc) = some e) :
    let s := (execute e).perform
      { c with regs := { c.regs with pc := c.regs.pc + 1 }, last := e.cycles } m
    (step.perform c m).2.1.regs = { s.2.1.regs with cycles := s.2.1.regs.cycles + s.2.1.last } ∧
      (step.perform c m).2.2 = s.2.2 := by
  rw [step_of_decode_some (b := m) (by rwa [FlatRam.read_eq])]
  exact ⟨rfl, rfl⟩

/-- A read instruction's step applies its operation to the operand and leaves memory. -/
theorem step_read_flat (c : Cpu) (m : FlatRam) {e : Entry} {op : ReadOp}
    (hd : Opcode.decode (m.bytes.get c.regs.pc) = some e) (hi : e.instruction = .read op) :
    let r := c.regs
    let mem := m.bytes.get
    let s := step.perform c m
    s.2.1.regs =
        { op.apply { r with pc := e.nextPc mem r }
            (if e.mode = .accumulator then r.a else mem (e.mode.effective mem r)) with
          cycles := s.2.1.regs.cycles } ∧ s.2.2 = m := by
  intro r mem
  obtain ⟨hregs, hbus⟩ := step_flat hd
  generalize step.perform c m = s at hregs hbus ⊢
  dsimp only
  have hc : ({ c with regs := { c.regs with pc := c.regs.pc + 1 }, last := e.cycles } : Cpu).regs =
      { r with pc := r.pc + 1 } := rfl
  obtain ⟨h1, h2⟩ := execute_read_flat hi hc m
  have hnext : e.nextPc mem r = r.pc + 1 + e.mode.operandBytes := by simp [Entry.nextPc, hi]
  refine ⟨?_, hbus.trans h2⟩
  rw [hregs, h1]
  simp only [mem, hnext]

/-- Decoding on a flat RAM, for every table entry at PC: PC ends where `Entry.nextPc` says, a
read applies its operation to the operand, a store writes its register at the effective address,
and a read-modify-write instruction writes its result back there. -/
theorem step_addressing (c : Cpu) (m : FlatRam) {e : Entry}
    (hd : Opcode.decode (m.bytes.get c.regs.pc) = some e) :
    let r := c.regs
    let mem := m.bytes.get
    let a := e.mode.effective mem r
    let r' := { r with pc := e.nextPc mem r }
    let s := step.perform c m
    s.2.1.regs.pc = e.nextPc mem r ∧
      (∀ op, e.instruction = .read op →
        s.2.1.regs =
            { op.apply r' (if e.mode = .accumulator then r.a else mem a) with
              cycles := s.2.1.regs.cycles } ∧ s.2.2 = m) ∧
      (∀ reg, e.instruction = .store reg → s.2.2.bytes = m.bytes.set a (reg.select r)) ∧
      (∀ op, e.instruction = .modify op → e.mode ≠ .accumulator →
        s.2.1.regs = { (op.apply r' (mem a)).2 with cycles := s.2.1.regs.cycles } ∧
          s.2.2.bytes = m.bytes.set a (op.apply r' (mem a)).1) := by
  intro r mem a r'
  obtain ⟨hregs, hbus⟩ := step_flat hd
  have hread := fun op (hi : e.instruction = .read op) => step_read_flat c m hd hi
  generalize step.perform c m = s at hregs hbus hread ⊢
  dsimp only at hread ⊢
  have hc : ({ c with regs := { c.regs with pc := c.regs.pc + 1 }, last := e.cycles } : Cpu).regs =
      { r with pc := r.pc + 1 } := rfl
  have hpc := congrArg Registers.pc hregs
  cases hi : e.instruction with
  | read op =>
    obtain ⟨h1, h2⟩ := hread op hi
    refine ⟨?_, (fun _ hop => by cases hop; exact ⟨h1, h2⟩), (fun _ h => by cases h),
      (fun _ h => by cases h)⟩
    rw [h1]
    exact ReadOp.apply_pc _ _ _
  | store reg =>
    obtain ⟨h1, h2⟩ := execute_store_flat hi hc m
    refine ⟨?_, (fun _ h => by cases h), fun _ hreg => ?_, (fun _ h => by cases h)⟩
    · rw [hpc, h1]
      simp [Entry.nextPc, hi]
    · cases hreg
      rw [hbus, h2]
  | modify op =>
    by_cases hm : e.mode = .accumulator
    · -- the accumulator form has no operand and no address
      refine ⟨?_, (fun _ h => by cases h), (fun _ h => by cases h), fun _ _ h => absurd hm h⟩
      rw [hpc, execute_modify_accumulator_pc hi hm hc m]
      simp [Entry.nextPc, hi, hm, AddressMode.operandBytes]
    · obtain ⟨h1, h2⟩ := execute_modify_flat hi hm hc m
      have hnext : e.nextPc mem r = r.pc + 1 + e.mode.operandBytes := by simp [Entry.nextPc, hi]
      refine ⟨by rw [hpc, h1, ModifyOp.apply_pc, hnext], (fun _ h => by cases h),
        (fun _ h => by cases h), fun _ hop _ => ?_⟩
      cases hop
      constructor
      · rw [hregs, h1]
        simp only [r', mem, a, hnext]
      · rw [hbus, h2]
        simp only [r', mem, a, hnext]
  | control op =>
    have hpc' := control_pc_flat hi (fun ht => ?_) hc m
    · exact ⟨hpc.trans hpc', (fun _ h => by cases h), (fun _ h => by cases h), (fun _ h => by cases h)⟩
    · rcases e with ⟨instruction, mode, n⟩
      subst hi
      exact decode_control_implied hd ht

/-- JMP ($10FF) takes the high byte of its target from $1000, not from $1100. -/
theorem jmp_indirect_stays_in_page :
    let m : FlatRam := { bytes := (((((Ram.zero.set 0x0200 0x6C).set 0x0201 0xFF).set 0x0202 0x10).set
      0x10FF 0x34).set 0x1000 0x12).set 0x1100 0x56 }
    let c : Cpu := { regs := { pc := 0x0200 } }
    (step.perform c m).2.1.regs.pc = 0x1234 := by
  intro m c
  have hd : Opcode.decode (m.bytes.get c.regs.pc) = some ⟨.control .jmp, .indirect, 5⟩ := by
    simp only [m, c, Ram.get_set, Ram.get_zero]
    decide +kernel
  rw [(step_addressing c m hd).1]
  simp only [m, c, Entry.nextPc, AddressMode.effective, word, Ram.get_set, Ram.get_zero]
  decide +kernel

end Exec

end Breadbox
