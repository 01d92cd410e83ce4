import Breadbox.Proofs.RegisterFrame

/-!
# The bus accesses of an instruction

Reading some CIA registers has side effects, so an instruction must make exactly the accesses
the processor makes. `Recorded β` wraps a bus and lists every access; `AddressMode.Locates` and
`Entry.Accesses` say which accesses each mode and each instruction make.

Main statement (`Exec.step_bus_accesses`): a step reads its opcode and then makes exactly the
accesses of its table entry, and nothing else at an opcode without one; a read-modify-write
instruction in accumulator mode leaves its result in A.
-/

namespace Breadbox

/-- One access of the processor to its bus: a read, with the byte it returned, or a write. -/
inductive BusAccess where
  | read (a : UInt16) (v : UInt8)
  | write (a : UInt16) (v : UInt8)
deriving Repr, DecidableEq

/-- A bus that passes every access on to the bus it wraps, and lists it. -/
structure Recorded (β : Type) where
  bus : β
  log : List BusAccess

namespace Recorded

variable {β : Type} [Bus β]

instance : Bus (Recorded β) where
  read a r :=
    let v := Bus.read a r.bus
    (v.1, ⟨v.2, r.log ++ [.read a v.1]⟩)
  write a v r := ⟨Bus.write a v r.bus, r.log ++ [.write a v]⟩

@[simp] theorem read_eq (a : UInt16) (r : Recorded β) :
    Bus.read a r = ((Bus.read a r.bus).1,
      ⟨(Bus.read a r.bus).2, r.log ++ [.read a (Bus.read a r.bus).1]⟩) := rfl

@[simp] theorem write_eq (a : UInt16) (v : UInt8) (r : Recorded β) :
    Bus.write a v r = ⟨Bus.write a v r.bus, r.log ++ [.write a v]⟩ := rfl

end Recorded

namespace AddressMode

/-- The reads that find the effective address `ea` of an operand, `r.pc` on the byte after the
opcode. -/
def Locates (mode : AddressMode) (r : Registers) (t : List BusAccess) (ea : UInt16) : Prop :=
  let p := r.pc
  match mode with
  | .immediate | .relative => t = [] ∧ ea = p
  | .zeroPage => ∃ v, t = [.read p v] ∧ ea = v.toUInt16
  | .zeroPageX => ∃ v, t = [.read p v] ∧ ea = (v + r.x).toUInt16
  | .zeroPageY => ∃ v, t = [.read p v] ∧ ea = (v + r.y).toUInt16
  | .absolute => ∃ lo hi, t = [.read p lo, .read (p + 1) hi] ∧ ea = word lo hi
  | .absoluteX => ∃ lo hi, t = [.read p lo, .read (p + 1) hi] ∧ ea = word lo hi + r.x.toUInt16
  | .absoluteY => ∃ lo hi, t = [.read p lo, .read (p + 1) hi] ∧ ea = word lo hi + r.y.toUInt16
  | .indirect => ∃ lo hi lo' hi', t = [.read p lo, .read (p + 1) hi, .read (word lo hi) lo',
      .read ((word lo hi &&& 0xFF00) ||| ((word lo hi + 1) &&& 0x00FF)) hi'] ∧ ea = word lo' hi'
  | .indirectX => ∃ v lo hi, t = [.read p v, .read (v + r.x).toUInt16 lo,
      .read (v + r.x + 1).toUInt16 hi] ∧ ea = word lo hi
  | .indirectY => ∃ v lo hi, t = [.read p v, .read v.toUInt16 lo, .read (v + 1).toUInt16 hi] ∧
      ea = word lo hi + r.y.toUInt16
  | .implied | .accumulator => t = [] ∧ ea = 0

end AddressMode

/-- The accesses an instruction makes after its opcode, `r` the registers with PC on the opcode.
Stack accesses are at `$0100 | SP`, SP wrapping inside page one. -/
def Entry.Accesses (e : Entry) (r : Registers) (t : List BusAccess) : Prop :=
  let r1 := { r with pc := r.pc + 1 }
  let stack (sp : UInt8) : UInt16 := 0x0100 ||| sp.toUInt16
  match e.instruction with
  | .read _ => ∃ ta ea v, e.mode.Locates r1 ta ea ∧ t = ta ++ [.read ea v]
  | .store reg => ∃ ta ea, e.mode.Locates r1 ta ea ∧ t = ta ++ [.write ea (reg.select r)]
  | .modify op =>
    if e.mode = .accumulator then t = []
    else ∃ ta ea v, e.mode.Locates r1 ta ea ∧ t = ta ++ [.read ea v, .write ea (op.apply r v).1]
  | .control .pha => t = [.write (stack r.sp) r.a]
  | .control .php => t = [.write (stack r.sp) r.status]
  | .control .pla | .control .plp => ∃ v, t = [.read (stack (r.sp + 1)) v]
  | .control .jsr => ∃ lo hi, t = [.read (r.pc + 1) lo, .read (r.pc + 2) hi,
      .write (stack r.sp) ((r.pc + 2) >>> 8).toUInt8, .write (stack (r.sp - 1)) (r.pc + 2).toUInt8]
  | .control .rts => ∃ lo hi, t = [.read (stack (r.sp + 1)) lo, .read (stack (r.sp + 2)) hi]
  | .control .rti => ∃ s lo hi, t = [.read (stack (r.sp + 1)) s, .read (stack (r.sp + 2)) lo,
      .read (stack (r.sp + 3)) hi]
  | .control (.branch _) => ∃ v, t = [.read (r.pc + 1) v]
  | .control .jmp => ∃ ea, e.mode.Locates r1 t ea
  | .control _ => t = []

/-- JSR pushes the address of the last byte of its operand: three bytes on, one back. -/
theorem add_three_sub_one (p : UInt16) : p + 3 - 1 = p + 2 := by
  rw [UInt16.sub_eq_add_neg, UInt16.add_assoc]
  rfl

namespace Exec

variable {β : Type} [Bus β]

/-- Resolving an address makes exactly the reads of its mode. -/
theorem resolve_accesses (mode : AddressMode) (penalty : Bool) (c : Cpu) (b : Recorded β) :
    let s := (resolve mode penalty).perform c b
    ∃ t, mode.Locates c.regs t s.1 ∧ s.2.2.log = b.log ++ t := by
  cases mode <;> cases penalty <;>
    simp [resolve, fetchWord, indexed, indirectTarget, readZeroPageWord, AddressMode.Locates]

/-- Resolving an address leaves every register but PC as it was. -/
theorem resolve_regs (mode : AddressMode) (penalty : Bool) (c : Cpu) (b : β) :
    ((resolve mode penalty).perform c b).2.1.regs =
      { c.regs with pc := ((resolve mode penalty).perform c b).2.1.regs.pc } := by
  cases mode <;> cases penalty <;>
    simp [resolve, fetchWord, indexed, indirectTarget, readZeroPageWord]

section Body

/- The body of an instruction runs from `c`, PC past the opcode of registers `r`. -/
variable (r : Registers) (c : Cpu) (hc : c.regs = { r with pc := r.pc + 1 }) (b : Recorded β)
include hc

/-- A read instruction reads its operand's address and then that address, once. -/
theorem execute_read_accesses (op : ReadOp) {mode : AddressMode} (hm : mode ≠ .accumulator)
    (cycles : Nat) :
    ∃ t, Entry.Accesses ⟨.read op, mode, cycles⟩ r t ∧
      ((execute ⟨.read op, mode, cycles⟩).perform c b).2.2.log = b.log ++ t := by
  obtain ⟨t, hloc, hlog⟩ := resolve_accesses mode true c b
  simp only [execute, operand_of_ne hm, perform_bind, perform_read, perform_setRegs,
    Recorded.read_eq]
  generalize (resolve mode true).perform c b = s at hloc hlog ⊢
  rw [hc] at hloc
  exact ⟨t ++ [.read s.1 (Bus.read s.1 s.2.2.bus).1], ⟨t, _, _, hloc, rfl⟩, by simp [hlog]⟩

/-- A store resolves its address and writes its register there. -/
theorem execute_store_accesses (reg : Register) (mode : AddressMode) (cycles : Nat) :
    ∃ t, Entry.Accesses ⟨.store reg, mode, cycles⟩ r t ∧
      ((execute ⟨.store reg, mode, cycles⟩).perform c b).2.2.log = b.log ++ t := by
  obtain ⟨t, hloc, hlog⟩ := resolve_accesses mode false c b
  have hr := resolve_regs mode false c b
  simp only [execute, perform_bind, perform_regs, perform_write, Recorded.write_eq]
  generalize (resolve mode false).perform c b = s at hloc hlog hr ⊢
  rw [hc] at hloc hr
  refine ⟨t ++ [.write s.1 (reg.select r)], ⟨t, _, hloc, rfl⟩, ?_⟩
  rw [hlog, hr, List.append_assoc]
  cases reg <;> rfl

/-- A read-modify-write instruction on memory reads its address and writes the result there. -/
theorem execute_modify_accesses (op : ModifyOp) {mode : AddressMode} (hm : mode ≠ .accumulator)
    (cycles : Nat) :
    ∃ t, Entry.Accesses ⟨.modify op, mode, cycles⟩ r t ∧
      ((execute ⟨.modify op, mode, cycles⟩).perform c b).2.2.log = b.log ++ t := by
  obtain ⟨t, hloc, hlog⟩ := resolve_accesses mode false c b
  have hr := resolve_regs mode false c b
  simp only [execute, hm, ↓reduceIte, perform_bind, perform_read, perform_regs,
    perform_setRegs, perform_write, Recorded.read_eq, Recorded.write_eq]
  generalize (resolve mode false).perform c b = s at hloc hlog hr ⊢
  rw [hc] at hloc hr
  let v := (Bus.read s.1 s.2.2.bus).1
  refine ⟨t ++ [.read s.1 v, .write s.1 (op.apply r v).1], ?_, ?_⟩
  · simp only [Entry.Accesses, hm, ↓reduceIte]
    exact ⟨t, _, _, hloc, rfl⟩
  · rw [hlog, hr]
    simp only [v, List.append_assoc, List.singleton_append]
    cases op <;> rfl

/-- In accumulator mode it makes no access and leaves its result in A. -/
theorem execute_modify_accumulator (op : ModifyOp) (cycles : Nat) :
    ((execute ⟨.modify op, .accumulator, cycles⟩).perform c b).2.2.log = b.log ∧
      ((execute ⟨.modify op, .accumulator, cycles⟩).perform c b).2.1.regs.a =
        (op.apply r r.a).1 := by
  simp only [execute, ↓reduceIte, perform_setRegs, hc, true_and]
  cases op <;> rfl

/-- An instruction makes exactly the accesses of its entry. -/
theorem execute_accesses (e : Entry) (he : ∀ op, e.instruction = .read op → e.mode ≠ .accumulator) :
    ∃ t, e.Accesses r t ∧ ((execute e).perform c b).2.2.log = b.log ++ t := by
  rcases e with ⟨instruction, mode, cycles⟩
  cases instruction with
  | read op => exact execute_read_accesses r c hc b op (he op rfl) cycles
  | store reg => exact execute_store_accesses r c hc b reg mode cycles
  | modify op =>
    by_cases hacc : mode = .accumulator
    · subst hacc
      exact ⟨[], by simp [Entry.Accesses], by
        simpa using (execute_modify_accumulator r c hc b op cycles).1⟩
    · exact execute_modify_accesses r c hc b op hacc cycles
  | control op =>
    cases op with
    | branch cond =>
      by_cases h : cond.holds r <;>
        simp [execute, control, branch, Entry.Accesses, Exec.holds_withPc, hc, h]
    | jmp =>
      obtain ⟨t, hloc, hlog⟩ := resolve_accesses mode false c b
      rw [hc] at hloc
      exact ⟨t, ⟨_, hloc⟩, by simpa [execute, control] using hlog⟩
    | _ =>
      simp [execute, control, Entry.Accesses, fetchWord, Registers.status, hc, UInt16.add_assoc,
        UInt8.add_assoc, add_three_sub_one]

end Body

/-- The bus accesses of one step, on every bus: the opcode read, then exactly the accesses of
the table entry, or nothing more at an opcode without one; in accumulator mode a
read-modify-write instruction leaves its result in A. -/
theorem step_bus_accesses (c : Cpu) (b : β) (log : List BusAccess) :
    let op := (Bus.read c.regs.pc b).1
    let s := step.perform c (⟨b, log⟩ : Recorded β)
    (Opcode.decode op = none → s.2.2.log = log ++ [.read c.regs.pc op]) ∧
      (∀ e, Opcode.decode op = some e →
        ∃ t, e.Accesses c.regs t ∧ s.2.2.log = log ++ .read c.regs.pc op :: t) ∧
      (∀ e f, Opcode.decode op = some e → e.instruction = .modify f → e.mode = .accumulator →
        s.2.1.regs.a = (f.apply c.regs c.regs.a).1) := by
  intro op s
  have hop : (Bus.read c.regs.pc (⟨b, log⟩ : Recorded β)).1 = op := rfl
  refine ⟨fun hd => ?_, fun e hd => ?_, fun e f hd hi hm => ?_⟩
  · rw [← hop] at hd
    simp [s, op, step_of_decode_none hd]
  · rw [← hop] at hd
    obtain ⟨t, ht, hlog⟩ := execute_accesses c.regs
      { c with regs := { c.regs with pc := c.regs.pc + 1 }, last := e.cycles } rfl
      (Bus.read c.regs.pc (⟨b, log⟩ : Recorded β)).2 e (fun _ hi => decode_read_not_accumulator hd hi)
    refine ⟨t, ht, ?_⟩
    simp only [s, step_of_decode_some hd, hlog]
    simp [op]
  · rw [← hop] at hd
    rcases e with ⟨instruction, mode, cycles⟩
    dsimp only at hi hm
    subst hi hm
    simp only [s, step_of_decode_some hd]
    exact (execute_modify_accumulator c.regs
      { c with regs := { c.regs with pc := c.regs.pc + 1 }, last := cycles } rfl _ f cycles).2

end Exec

end Breadbox
