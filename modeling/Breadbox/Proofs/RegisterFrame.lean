import Breadbox.Proofs.Decoding

/-!
# What an instruction does to the registers

`Instruction.changes` lists, row by row of the instruction set, the registers an instruction may
change. A computation keeps a frame when it changes no register outside it (`Exec.Touches`), and
frames compose along a do-block.

Main statement (`Exec.step_register_frame`): a step changes no register outside PC, the cycle
count and its row; Z and N describe the destination, and PLP and RTI set B.
-/

namespace Breadbox

/-- The registers and flags of the processor, by name. -/
inductive Reg where
  | pc | a | x | y | sp | n | v | b | d | i | z | c | cycles
deriving Repr, DecidableEq

namespace Registers

/-- Two register files hold the same value in register `g`. -/
def Agree (r r' : Registers) : Reg → Prop
  | .pc => r'.pc = r.pc
  | .a => r'.a = r.a
  | .x => r'.x = r.x
  | .y => r'.y = r.y
  | .sp => r'.sp = r.sp
  | .n => r'.n = r.n
  | .v => r'.v = r.v
  | .b => r'.b = r.b
  | .d => r'.d = r.d
  | .i => r'.i = r.i
  | .z => r'.z = r.z
  | .c => r'.c = r.c
  | .cycles => r'.cycles = r.cycles

/-- `r'` differs from `r` at most in the registers of `l`. -/
def ChangesOnly (l : List Reg) (r r' : Registers) : Prop :=
  ∀ g, g ∉ l → r.Agree r' g

/-- The frame register by register, so that `simp` settles it for a list it can evaluate. -/
theorem changesOnly_iff {l : List Reg} {r r' : Registers} :
    r.ChangesOnly l r' ↔
      (.pc ∉ l → r'.pc = r.pc) ∧ (.a ∉ l → r'.a = r.a) ∧ (.x ∉ l → r'.x = r.x) ∧
      (.y ∉ l → r'.y = r.y) ∧ (.sp ∉ l → r'.sp = r.sp) ∧ (.n ∉ l → r'.n = r.n) ∧
      (.v ∉ l → r'.v = r.v) ∧ (.b ∉ l → r'.b = r.b) ∧ (.d ∉ l → r'.d = r.d) ∧
      (.i ∉ l → r'.i = r.i) ∧ (.z ∉ l → r'.z = r.z) ∧ (.c ∉ l → r'.c = r.c) ∧
      (.cycles ∉ l → r'.cycles = r.cycles) := by
  constructor
  · intro h
    exact ⟨h .pc, h .a, h .x, h .y, h .sp, h .n, h .v, h .b, h .d, h .i, h .z, h .c, h .cycles⟩
  · rintro ⟨hpc, ha, hx, hy, hsp, hn, hv, hb, hd, hi, hz, hc, hcy⟩ g hg
    cases g
    · exact hpc hg
    · exact ha hg
    · exact hx hg
    · exact hy hg
    · exact hsp hg
    · exact hn hg
    · exact hv hg
    · exact hb hg
    · exact hd hg
    · exact hi hg
    · exact hz hg
    · exact hc hg
    · exact hcy hg

theorem ChangesOnly.refl (l : List Reg) (r : Registers) : r.ChangesOnly l r := fun g _ => by
  cases g <;> rfl

theorem ChangesOnly.trans {l : List Reg} {r r' r'' : Registers} (h : r.ChangesOnly l r')
    (h' : r'.ChangesOnly l r'') : r.ChangesOnly l r'' := fun g hg => by
  have h1 := h g hg
  have h2 := h' g hg
  cases g <;> exact h2.trans h1

theorem ChangesOnly.mono {l l' : List Reg} {r r' : Registers} (h : r.ChangesOnly l r')
    (hl : l ⊆ l') : r.ChangesOnly l' r' := fun g hg => h g fun hm => hg (hl hm)

/-- Z and N describe `v`: Z is set exactly when it is zero, and N is its bit 7. -/
def Describes (r : Registers) (v : UInt8) : Prop := r.z = (v == 0) ∧ r.n = (v &&& 0x80 != 0)

theorem describes_setZN (r : Registers) (v : UInt8) : (r.setZN v).Describes v := ⟨rfl, rfl⟩

end Registers

/-- The registers and flags an instruction may change besides PC and the cycle count. -/
def Instruction.changes (i : Instruction) (mode : AddressMode) : List Reg :=
  let acc : List Reg := if mode = .accumulator then [.a] else []
  match i with
  | .read .lda | .read .and | .read .ora | .read .eor => [.a, .z, .n]
  | .read .ldx => [.x, .z, .n]
  | .read .ldy => [.y, .z, .n]
  | .read .adc | .read .sbc => [.a, .c, .v, .z, .n]
  | .read .cmp | .read .cpx | .read .cpy => [.c, .z, .n]
  | .read .bit => [.z, .n, .v]
  | .store _ => []
  | .modify .inc | .modify .dec => acc ++ [.z, .n]
  | .modify .asl | .modify .lsr | .modify .rol | .modify .ror => acc ++ [.c, .z, .n]
  | .control .tax | .control .tsx | .control .inx | .control .dex => [.x, .z, .n]
  | .control .tay | .control .iny | .control .dey => [.y, .z, .n]
  | .control .txa | .control .tya => [.a, .z, .n]
  | .control .pla => [.sp, .a, .z, .n]
  | .control .txs | .control .pha | .control .php | .control .jsr | .control .rts => [.sp]
  | .control .plp | .control .rti => [.sp, .n, .v, .b, .d, .i, .z, .c]
  | .control .clc | .control .sec => [.c]
  | .control .cli | .control .sei => [.i]
  | .control .clv => [.v]
  | .control .cld | .control .sed => [.d]
  | .control (.branch _) | .control .jmp | .control .brk | .control .nop => []

/-- The register whose new value Z and N describe after the instruction. -/
def Instruction.result? : Instruction → Option Register
  | .read .lda | .read .and | .read .ora | .read .eor => some .a
  | .read .ldx => some .x
  | .read .ldy => some .y
  | .control .tax | .control .tsx | .control .inx | .control .dex => some .x
  | .control .tay | .control .iny | .control .dey => some .y
  | .control .txa | .control .tya | .control .pla => some .a
  | _ => none

open Registers

/-! ## The operations on their own -/

theorem ReadOp.apply_changesOnly (op : ReadOp) (mode : AddressMode) (r : Registers) (m : UInt8) :
    r.ChangesOnly ((Instruction.read op).changes mode) (op.apply r m) := by
  cases op <;>
    simp [changesOnly_iff, Instruction.changes, ReadOp.apply, Registers.setZN, Registers.adc,
      Registers.sbc, Registers.compare, Registers.bitTest]

theorem ReadOp.apply_describes {op : ReadOp} {reg : Register}
    (h : (Instruction.read op).result? = some reg) (r : Registers) (m : UInt8) :
    (op.apply r m).Describes (reg.select (op.apply r m)) := by
  cases op <;> cases h <;> exact describes_setZN _ _

theorem ModifyOp.apply_changesOnly (op : ModifyOp) (mode : AddressMode) (r : Registers)
    (m : UInt8) : r.ChangesOnly ((Instruction.modify op).changes mode) (op.apply r m).2 := by
  cases op <;> simp [changesOnly_iff, Instruction.changes, ModifyOp.apply, Registers.setZN]

/-- In accumulator mode the result goes to A as well. -/
theorem ModifyOp.apply_accumulator_changesOnly (op : ModifyOp) (r : Registers) :
    r.ChangesOnly ((Instruction.modify op).changes .accumulator)
      { (op.apply r r.a).2 with a := (op.apply r r.a).1 } := by
  cases op <;> simp [changesOnly_iff, Instruction.changes, ModifyOp.apply, Registers.setZN]

namespace Exec

section Frames

variable {β α γ : Type}

/-- A computation that changes no register outside `l`. -/
def Touches (l : List Reg) (x : Exec β α) : Prop :=
  ∀ (c : Cpu) (b : β), c.regs.ChangesOnly l (x.perform c b).2.1.regs

theorem Touches.bind {l : List Reg} {x : Exec β α} {f : α → Exec β γ} (hx : Touches l x)
    (hf : ∀ a, Touches l (f a)) : Touches l (x >>= f) := by
  intro c b
  exact (hx c b).trans (hf _ _ _)

theorem Touches.ite {l : List Reg} {p : Prop} [Decidable p] {x y : Exec β α} (hx : Touches l x)
    (hy : Touches l y) : Touches l (if p then x else y) := by
  split
  · exact hx
  · exact hy

theorem Touches.mono {l l' : List Reg} {x : Exec β α} (h : Touches l x) (hl : l ⊆ l') :
    Touches l' x := by
  intro c b
  exact (h c b).mono hl

/-- A computation that leaves the registers as they were touches none. -/
theorem touches_of_regs_eq {l : List Reg} {x : Exec β α}
    (h : ∀ c b, (x.perform c b).2.1.regs = c.regs) : Touches l x := by
  intro c b
  rw [h c b]
  exact ChangesOnly.refl l c.regs

theorem touches_pure (l : List Reg) (a : α) : Touches l (pure a : Exec β α) :=
  touches_of_regs_eq fun _ _ => rfl

theorem touches_setRegs {l : List Reg} {f : Registers → Registers}
    (h : ∀ r : Registers, r.ChangesOnly l (f r)) : Touches l (setRegs f : Exec β Unit) := by
  intro c _
  exact h c.regs

theorem touches_regs (l : List Reg) : Touches l (regs : Exec β Registers) :=
  touches_of_regs_eq fun _ _ => rfl

theorem touches_charge (l : List Reg) (n : Nat) : Touches l (charge n : Exec β Unit) :=
  touches_of_regs_eq fun _ _ => rfl

end Frames

variable {β : Type} [Bus β]

/-! ## The parts of an instruction -/

theorem touches_read (l : List Reg) (a : UInt16) : Touches l (read a : Exec β UInt8) :=
  touches_of_regs_eq fun _ _ => rfl

theorem touches_write (l : List Reg) (a : UInt16) (v : UInt8) :
    Touches l (write a v : Exec β Unit) :=
  touches_of_regs_eq fun _ _ => rfl

theorem touches_fetch {l : List Reg} (h : .pc ∈ l) : Touches l (fetch : Exec β UInt8) := by
  intro c b
  simp [changesOnly_iff, h]

/-- Resolving an address moves only PC, whatever the mode. -/
theorem touches_resolve {l : List Reg} (h : .pc ∈ l) (mode : AddressMode) (penalty : Bool) :
    Touches l (resolve mode penalty : Exec β UInt16) := by
  intro c b
  cases mode <;> cases penalty <;>
    simp [resolve, fetchWord, indexed, indirectTarget, readZeroPageWord, changesOnly_iff, h]

theorem touches_operand {l : List Reg} (h : .pc ∈ l) (mode : AddressMode) :
    Touches l (operand mode : Exec β UInt8) := by
  cases mode with
  | accumulator => exact touches_regs l |>.bind fun _ => touches_pure l _
  | _ => exact (touches_resolve h _ true).bind fun a => touches_read l a

/-- A branch moves only PC, taken or not. -/
theorem touches_branch {l : List Reg} (h : .pc ∈ l) (cond : Condition) :
    Touches l (branch cond : Exec β Unit) := by
  refine (touches_fetch h).bind fun offset => (touches_regs l).bind fun r =>
    Touches.ite ((touches_setRegs fun q => ?_).bind fun _ => touches_charge l _) (touches_pure l ())
  simp [changesOnly_iff, h]

theorem control_touches (op : Control) (mode : AddressMode) :
    Touches (.pc :: (Instruction.control op).changes mode) (control op mode : Exec β Unit) := by
  cases op with
  | branch cond => exact touches_branch (List.mem_cons_self ..) cond
  | jmp =>
    exact (touches_resolve (List.mem_cons_self ..) mode false).bind fun _ =>
      touches_setRegs fun r => by simp [changesOnly_iff]
  | _ =>
    intro c b
    simp [control, fetchWord, changesOnly_iff, Instruction.changes, Registers.setZN,
      Registers.setStatus]

/-- An instruction changes no register outside PC and its row of `Instruction.changes`. -/
theorem execute_touches (e : Entry) :
    Touches (.pc :: e.instruction.changes e.mode) (execute e : Exec β Unit) := by
  have hpc : Reg.pc ∈ Reg.pc :: e.instruction.changes e.mode := List.mem_cons_self ..
  rcases e with ⟨instruction, mode, cycles⟩
  cases instruction with
  | control op => exact control_touches op mode
  | read op =>
    exact (touches_operand hpc mode).bind fun m => touches_setRegs fun r =>
      (ReadOp.apply_changesOnly op mode r m).mono (List.subset_cons_self _ _)
  | store reg =>
    exact (touches_resolve hpc mode false).bind fun a => (touches_regs _).bind fun r =>
      touches_write _ a _
  | modify op =>
    intro c b
    simp only [execute]
    split
    · next hacc =>
      subst hacc
      exact (ModifyOp.apply_accumulator_changesOnly op c.regs).mono (List.subset_cons_self _ _)
    · -- the operation sees the registers the address left, which differ from `c.regs` in PC
      have hr := touches_resolve (β := β) hpc mode false c b
      simp only [perform_bind, perform_read, perform_regs, perform_setRegs, perform_write]
      refine hr.trans (fun g hg => ?_)
      exact ModifyOp.apply_changesOnly op mode _ _ g fun hm => hg (List.mem_cons_of_mem _ hm)

/-- Z and N describe the new value of the destination register. -/
theorem execute_describes (e : Entry) {reg : Register} (h : e.instruction.result? = some reg)
    (c : Cpu) (b : β) :
    let r' := ((execute e).perform c b).2.1.regs
    r'.Describes (reg.select r') := by
  rcases e with ⟨instruction, mode, cycles⟩
  cases instruction with
  | read op =>
    simp only [execute, perform_bind, perform_setRegs]
    exact ReadOp.apply_describes h _ _
  | control op =>
    cases op <;> cases h <;> simp [execute, control, Register.select, Registers.Describes,
      Registers.setZN]
  | _ => cases h

/-- PLP and RTI set B, whatever the status byte they pull. -/
theorem execute_sets_break {e : Entry}
    (h : e.instruction = .control .plp ∨ e.instruction = .control .rti) (c : Cpu) (b : β) :
    ((execute e).perform c b).2.1.regs.b = true := by
  rcases e with ⟨instruction, mode, cycles⟩
  rcases h with rfl | rfl <;> simp [execute, control, Registers.setStatus]

/-- The register frame of one step, on every bus: no register or flag outside PC, the cycle
count and the entry's row changes; Z and N describe the destination; PLP and RTI leave B set. -/
theorem step_register_frame (c : Cpu) (b : β) {e : Entry}
    (hd : Opcode.decode (Bus.read c.regs.pc b).1 = some e) :
    let r' := (step.perform c b).2.1.regs
    c.regs.ChangesOnly (.pc :: .cycles :: e.instruction.changes e.mode) r' ∧
      (∀ reg, e.instruction.result? = some reg → r'.Describes (reg.select r')) ∧
      (e.instruction = .control .plp ∨ e.instruction = .control .rti → r'.b = true) := by
  intro r'
  let c1 : Cpu := { c with regs := { c.regs with pc := c.regs.pc + 1 }, last := e.cycles }
  let s := (execute e).perform c1 (Bus.read c.regs.pc b).2
  have hr' : r' = { s.2.1.regs with cycles := s.2.1.regs.cycles + s.2.1.last } := by
    simp only [r', s, c1, step_of_decode_some hd]
  have hframe : c.regs.ChangesOnly (.pc :: .cycles :: e.instruction.changes e.mode) r' := by
    have h1 : c.regs.ChangesOnly [.pc] c1.regs := by simp [c1, changesOnly_iff]
    have h2 := execute_touches (β := β) e c1 (Bus.read c.regs.pc b).2
    have h3 : s.2.1.regs.ChangesOnly [.cycles] r' := by simp [hr', changesOnly_iff]
    refine ((h1.mono ?_).trans (h2.mono ?_)).trans (h3.mono ?_)
    · exact List.cons_subset.2 ⟨List.mem_cons_self .., List.nil_subset _⟩
    · exact List.cons_subset_cons _ (List.subset_cons_self _ _)
    · exact List.cons_subset.2 ⟨List.mem_cons_of_mem _ (List.mem_cons_self ..), List.nil_subset _⟩
  refine ⟨hframe, fun reg hreg => ?_, fun hb => ?_⟩
  · have hz := execute_describes e hreg c1 (Bus.read c.regs.pc b).2
    rw [hr']
    cases reg <;> exact hz
  · rw [hr']
    exact execute_sets_break hb c1 _

/-- PLP of a zero status byte leaves B set. -/
theorem plp_keeps_break :
    let m : FlatRam := { bytes := Ram.zero.set 0x0200 0x28 }
    let c : Cpu := { regs := { pc := 0x0200 } }
    let r' := (step.perform c m).2.1.regs
    c.regs.ChangesOnly [.pc, .cycles, .sp, .n, .v, .b, .d, .i, .z, .c] r' ∧ r'.b = true := by
  intro m c r'
  have hd : Opcode.decode (Bus.read c.regs.pc m).1 = some ⟨.control .plp, .implied, 4⟩ := by
    show Opcode.decode (m.bytes.get c.regs.pc) = _
    simp only [m, c, Ram.get_set]
    decide +kernel
  obtain ⟨hframe, -, hb⟩ := step_register_frame c m hd
  exact ⟨hframe, hb (.inl rfl)⟩

end Exec

end Breadbox
