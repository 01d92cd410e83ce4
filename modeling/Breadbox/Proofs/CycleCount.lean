import Breadbox.Proofs.Decoding

/-!
# The exact cost of an instruction

An instruction costs the cycles of its table entry, one more when an indexed read crosses a
page, and one or two more for a taken branch (`Entry.extraCycles`).

Main statement (`Exec.step_cycle_accounting`): on every bus, a step returns and counts exactly
these cycles, and at an opcode without an entry fails and leaves the processor as it was.
-/

namespace Breadbox

/-! ## Pages -/

/-- Masking with `$FF00` keeps the page of an address. -/
theorem and_page (a : UInt16) : a &&& 0xFF00 = a >>> (8 : UInt16) <<< (8 : UInt16) := by
  apply UInt16.toBitVec_inj.mp
  have h := BitVec.shiftLeft_ushiftRight (x := a.toBitVec) (n := 8)
  simp only [UInt16.toBitVec_and, UInt16.toBitVec_shiftLeft, UInt16.toBitVec_shiftRight]
  rw [show (8 : UInt16).toBitVec % 16 = 8 from rfl]
  simp [h]

/-- Two addresses share a page exactly when their high bytes agree. -/
theorem and_page_eq_iff (a b : UInt16) : a &&& 0xFF00 = b &&& 0xFF00 ↔ a >>> 8 = b >>> 8 := by
  rw [and_page, and_page]
  refine ⟨fun h => ?_, fun h => by rw [h]⟩
  have hn := congrArg UInt16.toNat h
  apply UInt16.toNat_inj.mp
  have ha := a.toNat_lt
  have hb := b.toNat_lt
  simp [UInt16.toNat_shiftLeft, UInt16.toNat_shiftRight, Nat.shiftLeft_eq,
    Nat.shiftRight_eq_div_pow] at hn ⊢
  omega

theorem pageCross_eq (a : UInt16) (i : UInt8) :
    pageCross a i = if a >>> 8 = (a + i.toUInt16) >>> 8 then 0 else 1 := by
  unfold pageCross
  by_cases h : a >>> 8 = (a + i.toUInt16) >>> 8
  · simp [h, (and_page_eq_iff _ _).2 h]
  · simp [h, mt (and_page_eq_iff _ _).1 h]

/-! ## What an instruction pays on top of its entry -/

variable {β : Type} [Bus β]

namespace AddressMode

/-- For `abs,X`, `abs,Y` and `(zp),Y`, the base address and the index, as the processor reads
them through the bus with `r.pc` on the byte after the opcode. -/
def indexBase (mode : AddressMode) (r : Registers) (b : β) : Option (UInt16 × UInt8) :=
  let first := Bus.read r.pc b
  match mode with
  | .absoluteX => some (word first.1 (Bus.read (r.pc + 1) first.2).1, r.x)
  | .absoluteY => some (word first.1 (Bus.read (r.pc + 1) first.2).1, r.y)
  | .indirectY =>
    let lo := Bus.read first.1.toUInt16 first.2
    some (word lo.1 (Bus.read (first.1 + 1).toUInt16 lo.2).1, r.y)
  | _ => none

/-- The cycle a read pays when its index moves the address into another page. -/
def crossCost (mode : AddressMode) (r : Registers) (b : β) : Nat :=
  match mode.indexBase r b with
  | some (base, i) => if base >>> 8 = (base + i.toUInt16) >>> 8 then 0 else 1
  | none => 0

end AddressMode

/-- What a branch pays for being taken: one cycle, two when it lands in another page. -/
def Condition.takenCost (cond : Condition) (r : Registers) (b : β) : Nat :=
  if cond.holds r then
    let next := r.pc + 1
    let target := next + UInt16.ofBitVec ((Bus.read r.pc b).1.toBitVec.signExtend 16)
    if next >>> 8 = target >>> 8 then 1 else 2
  else 0

/-- The cycles an instruction adds to its entry's, `r.pc` on the byte after the opcode. -/
def Entry.extraCycles (e : Entry) (r : Registers) (b : β) : Nat :=
  match e.instruction with
  | .read _ => e.mode.crossCost r b
  | .control (.branch cond) => cond.takenCost r b
  | _ => 0

namespace Exec

/-- Resolving an address charges the page cross only with the penalty on. -/
theorem resolve_last (mode : AddressMode) (penalty : Bool) (c : Cpu) (b : β) :
    ((resolve mode penalty).perform c b).2.1.last =
      c.last + if penalty then mode.crossCost c.regs b else 0 := by
  -- `pageCross` is rewritten last, once its arguments are in normal form
  cases mode <;> cases penalty <;>
    simp [resolve, fetchWord, indexed, indirectTarget, readZeroPageWord, AddressMode.crossCost,
      AddressMode.indexBase] <;>
    exact pageCross_eq _ _

theorem operand_last (mode : AddressMode) (c : Cpu) (b : β) :
    ((operand mode).perform c b).2.1.last = c.last + mode.crossCost c.regs b := by
  cases mode with
  | accumulator => simp [operand, AddressMode.crossCost, AddressMode.indexBase]
  | _ => simpa only [operand, perform_bind, perform_read, ↓reduceIte] using resolve_last _ true c b

theorem branch_last (cond : Condition) (c : Cpu) (b : β) :
    ((branch cond).perform c b).2.1.last = c.last + cond.takenCost c.regs b := by
  by_cases h : cond.holds c.regs
  · have hne := and_page_eq_iff (c.regs.pc + 1)
      (c.regs.pc + 1 + UInt16.ofBitVec ((Bus.read c.regs.pc b).1.toBitVec.signExtend 16))
    by_cases hp : (c.regs.pc + 1) >>> 8 =
        (c.regs.pc + 1 + UInt16.ofBitVec ((Bus.read c.regs.pc b).1.toBitVec.signExtend 16)) >>> 8
    · simp [branch, Condition.takenCost, holds_withPc, h, signExtend_eq, hp, hne.2 hp]
    · simp [branch, Condition.takenCost, holds_withPc, h, signExtend_eq, hp, mt hne.1 hp]
  · simp [branch, Condition.takenCost, holds_withPc, h]

/-- An instruction adds exactly its extra cycles to the cost it started from. -/
theorem execute_last (e : Entry) (c : Cpu) (b : β) :
    ((execute e).perform c b).2.1.last = c.last + e.extraCycles c.regs b := by
  rcases e with ⟨instruction, mode, cycles⟩
  cases instruction with
  | control op =>
    cases op with
    | branch cond => exact branch_last cond c b
    | jmp => simpa [execute, control, Entry.extraCycles] using resolve_last mode false c b
    | _ => simp [execute, control, fetchWord, Entry.extraCycles]
  | read op =>
    simpa only [execute, perform_bind, perform_setRegs, Entry.extraCycles] using
      operand_last mode c b
  | store reg => simpa [execute, Entry.extraCycles] using resolve_last mode false c b
  | modify op =>
    simp only [execute, Entry.extraCycles]
    split
    · simp
    · simpa using resolve_last mode false c b

/-- Cycle accounting of one step, on every bus: the entry's cycles plus its extra cycles are
returned, counted and kept as the last cost; at an opcode without an entry the step fails naming
the opcode and its address and the processor stays as it was. -/
theorem step_cycle_accounting (c : Cpu) (b : β) :
    let fetched := Bus.read c.regs.pc b
    let s := step.perform c b
    (∀ e, Opcode.decode fetched.1 = some e →
      let n := e.cycles + e.extraCycles { c.regs with pc := c.regs.pc + 1 } fetched.2
      s.1 = .ok n ∧ s.2.1.regs.cycles = c.regs.cycles + n ∧ s.2.1.last = n) ∧
    (Opcode.decode fetched.1 = none →
      s.1 = .error (.unknownOpcode fetched.1 c.regs.pc) ∧ s.2.1 = c) := by
  intro fetched s
  refine ⟨fun e hd => ?_, fun hd => ?_⟩
  · -- the body starts from the entry's cycles, PC past the opcode, and keeps the running count
    let c1 : Cpu := { c with regs := { c.regs with pc := c.regs.pc + 1 }, last := e.cycles }
    have hlast := execute_last e c1 fetched.2
    have hcyc := (execute_charges (β := β) e c1 fetched.2).1
    simp only [s, step_of_decode_some hd]
    exact ⟨by rw [hlast], by rw [hlast, hcyc], hlast⟩
  · simp [s, fetched, step_of_decode_none hd]

end Exec

end Breadbox
