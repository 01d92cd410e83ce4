import Mathlib
import Breadbox.Cpu.Step

/-!
# Running processor computations symbolically

One `@[simp]` equation for each primitive and combinator of the processor monad, so that `simp`
runs a do-block down to its result. Apart from BRK no instruction touches the interrupt latch
(`KeepsLatch`), so a step's effect on it is decided by the opcode byte (`step_latch`).
-/

namespace Breadbox

namespace Cpu

variable (i : Interrupt) (c : Cpu)

@[simp] theorem latch_regs : (c.latch i).regs = c.regs := by
  rcases c with ⟨r, l, _ | p, s⟩ <;> by_cases h : i = .brk <;> simp [latch, h] <;> split <;> rfl

@[simp] theorem latch_last : (c.latch i).last = c.last := by
  rcases c with ⟨r, l, _ | p, s⟩ <;> by_cases h : i = .brk <;> simp [latch, h] <;> split <;> rfl

@[simp] theorem latch_software : (c.latch i).software = (c.software || decide (i = .brk)) := by
  rcases c with ⟨r, l, _ | p, s⟩ <;> by_cases h : i = .brk <;> simp [latch, h] <;> split <;> rfl

/-- A latch keeps a pending request of at least the new one's priority. -/
@[simp] theorem latch_pending :
    (c.latch i).pending = some (c.pending.elim i fun p => if i.priority ≤ p.priority then p else i) := by
  rcases c with ⟨r, l, _ | p, s⟩ <;> by_cases h : i = .brk <;> simp [latch, h] <;> split <;> simp_all

end Cpu

/-! ## Words and stack addresses -/

theorem toNat_word (lo hi : UInt8) : (word lo hi).toNat = hi.toNat * 256 + lo.toNat := by
  have hlo := lo.toNat_lt
  have hhi := hi.toNat_lt
  have hshift : (hi.toNat <<< (UInt16.toNat 8 % 16)) % 2 ^ 16 = 2 ^ 8 * hi.toNat := by
    rw [show UInt16.toNat 8 % 16 = 8 from rfl, Nat.shiftLeft_eq, Nat.mod_eq_of_lt (by omega),
      Nat.mul_comm]
  unfold word
  rw [UInt16.toNat_or, UInt16.toNat_shiftLeft, UInt8.toNat_toUInt16, UInt8.toNat_toUInt16, hshift,
    ← Nat.two_pow_add_eq_or_of_lt hlo]
  omega

@[simp] theorem word_toUInt8 (w : UInt16) : word w.toUInt8 (w >>> 8).toUInt8 = w := by
  have hw := w.toNat_lt
  apply UInt16.toNat_inj.mp
  rw [toNat_word]
  simp [Nat.shiftRight_eq_div_pow]
  omega

theorem toNat_stack (x : UInt8) : (0x0100 ||| x.toUInt16 : UInt16).toNat = 256 + x.toNat := by
  have hx := x.toNat_lt
  rw [UInt16.toNat_or, UInt8.toNat_toUInt16]
  have := Nat.two_pow_add_eq_or_of_lt (i := 8) (by simpa using hx) 1
  simp at this ⊢
  omega

@[simp] theorem stack_inj (x y : UInt8) :
    (0x0100 ||| x.toUInt16 : UInt16) = 0x0100 ||| y.toUInt16 ↔ x = y := by
  constructor
  · intro h
    have := congrArg UInt16.toNat h
    rw [toNat_stack, toNat_stack] at this
    exact UInt8.toNat_inj.mp (by omega)
  · rintro rfl
    rfl

theorem sub_one_ne (x : UInt8) : x - 1 ≠ x := by
  intro h
  have := congrArg UInt8.toNat h
  simp [UInt8.toNat_sub] at this
  omega

theorem sub_two_ne (x : UInt8) : x - 1 - 1 ≠ x := by
  intro h
  have := congrArg UInt8.toNat h
  simp [UInt8.toNat_sub] at this
  omega

theorem sub_two_ne_sub_one (x : UInt8) : x - 1 - 1 ≠ x - 1 := sub_one_ne (x - 1)

theorem sub_two_eq (x : UInt8) : x - 1 - 1 = x - 2 := by
  apply UInt8.toNat_inj.mp
  simp [UInt8.toNat_sub]
  omega

theorem sub_three_eq (x : UInt8) : x - 1 - 1 - 1 = x - 3 := by
  apply UInt8.toNat_inj.mp
  simp [UInt8.toNat_sub]
  omega

namespace Exec

section Monad

variable {β α γ : Type}

@[simp] theorem perform_pure (a : α) (c : Cpu) (b : β) :
    (pure a : Exec β α).perform c b = (a, c, b) := rfl

@[simp] theorem perform_bind (x : Exec β α) (f : α → Exec β γ) (c : Cpu) (b : β) :
    (x >>= f).perform c b =
      (f (x.perform c b).1).perform (x.perform c b).2.1 (x.perform c b).2.2 := rfl

@[simp] theorem perform_map (f : α → γ) (x : Exec β α) (c : Cpu) (b : β) :
    (f <$> x).perform c b = (f (x.perform c b).1, (x.perform c b).2.1, (x.perform c b).2.2) :=
  rfl

@[simp] theorem perform_discard (x : Exec β α) (c : Cpu) (b : β) :
    (discard x).perform c b = ((), (x.perform c b).2.1, (x.perform c b).2.2) :=
  rfl

/-- The instance is unified, not synthesized, so the equation survives `simp` on the condition. -/
@[simp] theorem perform_ite (p : Prop) {_ : Decidable p} (x y : Exec β α) (c : Cpu) (b : β) :
    (if p then x else y).perform c b = if p then x.perform c b else y.perform c b := by
  split <;> rfl

@[simp] theorem perform_getThe (c : Cpu) (b : β) :
    (getThe Cpu : Exec β Cpu).perform c b = (c, c, b) := rfl

@[simp] theorem perform_get (c : Cpu) (b : β) :
    (get : Exec β Cpu).perform c b = (c, c, b) := rfl

@[simp] theorem perform_modifyThe (f : Cpu → Cpu) (c : Cpu) (b : β) :
    (modifyThe Cpu f : Exec β Unit).perform c b = ((), f c, b) := rfl

@[simp] theorem perform_modifyGet (f : Cpu → α × Cpu) (c : Cpu) (b : β) :
    (modifyGet f : Exec β α).perform c b = ((f c).1, (f c).2, b) := rfl

@[simp] theorem perform_regs (c : Cpu) (b : β) :
    (regs : Exec β Registers).perform c b = (c.regs, c, b) := rfl

@[simp] theorem perform_setRegs (f : Registers → Registers) (c : Cpu) (b : β) :
    (setRegs f : Exec β Unit).perform c b = ((), { c with regs := f c.regs }, b) := rfl

@[simp] theorem perform_charge (n : Nat) (c : Cpu) (b : β) :
    (charge n : Exec β Unit).perform c b = ((), { c with last := c.last + n }, b) := rfl

/-- A computation that changes neither the latched request nor the BRK mark. -/
def KeepsLatch (x : Exec β α) : Prop :=
  ∀ c b, (x.perform c b).2.1.pending = c.pending ∧ (x.perform c b).2.1.software = c.software

theorem KeepsLatch.bind {x : Exec β α} {f : α → Exec β γ} (hx : KeepsLatch x)
    (hf : ∀ a, KeepsLatch (f a)) : KeepsLatch (x >>= f) := by
  intro c b
  obtain ⟨h1, h2⟩ := hx c b
  obtain ⟨h3, h4⟩ := hf (x.perform c b).1 (x.perform c b).2.1 (x.perform c b).2.2
  simp only [perform_bind]
  exact ⟨h3.trans h1, h4.trans h2⟩

theorem KeepsLatch.ite {p : Prop} [Decidable p] {x y : Exec β α} (hx : KeepsLatch x)
    (hy : KeepsLatch y) : KeepsLatch (if p then x else y) := by
  split
  · exact hx
  · exact hy

end Monad

variable {β α : Type} [Bus β]

@[simp] theorem perform_read (a : UInt16) (c : Cpu) (b : β) :
    (read a : Exec β UInt8).perform c b = ((Bus.read a b).1, c, (Bus.read a b).2) := rfl

@[simp] theorem perform_write (a : UInt16) (v : UInt8) (c : Cpu) (b : β) :
    (write a v : Exec β Unit).perform c b = ((), c, Bus.write a v b) := rfl

/-! ## Closed forms of the helpers -/

@[simp] theorem perform_fetch (c : Cpu) (b : β) :
    (fetch : Exec β UInt8).perform c b =
      ((Bus.read c.regs.pc b).1, { c with regs := { c.regs with pc := c.regs.pc + 1 } },
        (Bus.read c.regs.pc b).2) := by
  simp [fetch]

@[simp] theorem perform_readWord (a : UInt16) (c : Cpu) (b : β) :
    (readWord a : Exec β UInt16).perform c b =
      (word (Bus.read a b).1 (Bus.read (a + 1) (Bus.read a b).2).1, c,
        (Bus.read (a + 1) (Bus.read a b).2).2) := by
  simp [readWord]

@[simp] theorem perform_push (v : UInt8) (c : Cpu) (b : β) :
    (push v : Exec β Unit).perform c b =
      ((), { c with regs := { c.regs with sp := c.regs.sp - 1 } },
        Bus.write (0x0100 ||| c.regs.sp.toUInt16) v b) := by
  simp [push]

@[simp] theorem perform_pop (c : Cpu) (b : β) :
    (pop : Exec β UInt8).perform c b =
      ((Bus.read (0x0100 ||| (c.regs.sp + 1).toUInt16) b).1,
        { c with regs := { c.regs with sp := c.regs.sp + 1 } },
        (Bus.read (0x0100 ||| (c.regs.sp + 1).toUInt16) b).2) := by
  simp [pop]

@[simp] theorem perform_pushWord (w : UInt16) (c : Cpu) (b : β) :
    (pushWord w : Exec β Unit).perform c b =
      ((), { c with regs := { c.regs with sp := c.regs.sp - 1 - 1 } },
        Bus.write (0x0100 ||| (c.regs.sp - 1).toUInt16) w.toUInt8
          (Bus.write (0x0100 ||| c.regs.sp.toUInt16) (w >>> 8).toUInt8 b)) := by
  simp [pushWord]

@[simp] theorem perform_popWord (c : Cpu) (b : β) :
    (popWord : Exec β UInt16).perform c b =
      let lo := Bus.read (0x0100 ||| (c.regs.sp + 1).toUInt16) b
      let hi := Bus.read (0x0100 ||| (c.regs.sp + 1 + 1).toUInt16) lo.2
      (word lo.1 hi.1, { c with regs := { c.regs with sp := c.regs.sp + 1 + 1 } }, hi.2) := by
  simp [popWord]

/-! ## Instructions leave the latch alone -/

theorem resolve_keepsLatch (mode : AddressMode) (penalty : Bool) :
    KeepsLatch (resolve mode penalty : Exec β UInt16) := by
  intro c b
  cases mode <;> cases penalty <;>
    simp [resolve, fetchWord, indexed, indirectTarget, readZeroPageWord]

theorem operand_keepsLatch (mode : AddressMode) : KeepsLatch (operand mode : Exec β UInt8) := by
  intro c b
  cases mode with
  | accumulator => simp [operand]
  | _ => simpa only [operand, perform_bind, perform_read] using resolve_keepsLatch _ true c b

/-- Shown through the combinators, since `simp` on the condition blocks the split. -/
theorem branch_keepsLatch (cond : Condition) : KeepsLatch (branch cond : Exec β Unit) := by
  refine KeepsLatch.bind (fun c b => by simp) fun offset =>
    KeepsLatch.bind (fun c b => by simp) fun r => KeepsLatch.ite ?_ (fun c b => by simp)
  exact KeepsLatch.bind (fun c b => by simp) fun _ => fun c b => by simp

theorem control_keepsLatch (op : Control) (mode : AddressMode) (h : op ≠ .brk) :
    KeepsLatch (control op mode : Exec β Unit) := by
  intro c b
  cases op with
  | branch cond => exact branch_keepsLatch cond c b
  | jmp => simpa [control] using resolve_keepsLatch mode false c b
  | brk => exact absurd rfl h
  | _ => simp [control, fetchWord]

theorem execute_keepsLatch (e : Entry) (h : e.instruction ≠ .control .brk) :
    KeepsLatch (execute e : Exec β Unit) := by
  intro c b
  rcases e with ⟨instruction, mode, cycles⟩
  cases instruction with
  | control op => exact control_keepsLatch op mode (fun hop => h (hop ▸ rfl)) c b
  | read op =>
    have hm := operand_keepsLatch (β := β) mode c b
    simp only [execute, perform_bind, perform_setRegs]
    exact hm
  | store reg =>
    have hr := resolve_keepsLatch (β := β) mode false c b
    simp only [execute, perform_bind, perform_regs, perform_write]
    exact hr
  | modify op =>
    have hr := resolve_keepsLatch (β := β) mode false c b
    simp only [execute]
    split
    · simp
    · simpa using hr

/-! ## What a step does to the latch -/

/-- BRK is the only instruction of opcode `$00`, and the only one with that opcode. -/
theorem find?_brk_iff : ∀ i : Fin 256, ∀ e ∈ Opcode.find? (UInt8.ofNat i.val),
    (e.instruction = .control .brk ↔ i.val = 0) := by
  decide +kernel

theorem decode_brk_iff {op : UInt8} {e : Entry} (h : Opcode.decode op = some e) :
    e.instruction = .control .brk ↔ op = 0 := by
  have hi := find?_brk_iff ⟨op.toNat, op.toNat_lt⟩ e
  rw [UInt8.ofNat_toNat, ← Opcode.decode_eq_find?] at hi
  rw [hi h, ← UInt8.toNat_inj]
  rfl

theorem decode_zero : Opcode.decode 0 = some ⟨.control .brk, .implied, 7⟩ := by
  rw [Opcode.decode_eq_find?]
  rfl

/-- A step latches a BRK request at opcode `$00` and otherwise leaves the latch as it was. -/
theorem step_latch (c : Cpu) (b : β) :
    let c' := (step.perform c b).2.1
    let l := if (Bus.read c.regs.pc b).1 = 0 then c.latch .brk else c
    c'.pending = l.pending ∧ c'.software = l.software := by
  intro c' l
  simp only [c', l, step, perform_bind, perform_fetch]
  cases hd : Opcode.decode (Bus.read c.regs.pc b).1 with
  | none =>
    have h0 : (Bus.read c.regs.pc b).1 ≠ 0 := fun h => by rw [h, decode_zero] at hd; cases hd
    simp [h0]
  | some e =>
    simp only [perform_modifyThe, perform_bind, perform_getThe, perform_setRegs, perform_pure]
    by_cases hb : e.instruction = .control .brk
    · have h0 := (decode_brk_iff hd).1 hb
      rcases e with ⟨instruction, mode, cycles⟩
      subst hb
      simp [h0, execute, control]
    · have h0 : (Bus.read c.regs.pc b).1 ≠ 0 := fun h => hb ((decode_brk_iff hd).2 h)
      simpa [h0] using execute_keepsLatch e hb _ _

/-- A step at an opcode without an entry fails and leaves the processor as it was. -/
theorem step_of_decode_none {c : Cpu} {b : β} (h : Opcode.decode (Bus.read c.regs.pc b).1 = none) :
    step.perform c b =
      (.error (.unknownOpcode (Bus.read c.regs.pc b).1 c.regs.pc), c, (Bus.read c.regs.pc b).2) := by
  simp [step, h]

/-- A step whose opcode has an entry succeeds, with the cycles it leaves in `last`. -/
theorem step_ok_of_decode {c : Cpu} {b : β} {e : Entry}
    (h : Opcode.decode (Bus.read c.regs.pc b).1 = some e) :
    (step.perform c b).1 = .ok (step.perform c b).2.1.last := by
  simp [step, h]

/-- A step that fails did so at an opcode with no entry. -/
theorem decode_none_of_error {c : Cpu} {b : β} {f : Fault} (h : (step.perform c b).1 = .error f) :
    Opcode.decode (Bus.read c.regs.pc b).1 = none := by
  cases hd : Opcode.decode (Bus.read c.regs.pc b).1 with
  | none => rfl
  | some e => rw [step_ok_of_decode hd] at h; cases h

/-- A step whose instruction only rewrites the registers costs the entry's cycles. -/
theorem step_of_registers {c : Cpu} {b : β} {e : Entry}
    (h : Opcode.decode (Bus.read c.regs.pc b).1 = some e) (f : Registers → Registers)
    (he : ∀ (c : Cpu) (b : β), (execute e).perform c b = ((), { c with regs := f c.regs }, b)) :
    let r := f { c.regs with pc := c.regs.pc + 1 }
    step.perform c b = (.ok e.cycles,
      { c with regs := { r with cycles := r.cycles + e.cycles }, last := e.cycles },
      (Bus.read c.regs.pc b).2) := by
  simp [step, h, he]

end Exec

end Breadbox
