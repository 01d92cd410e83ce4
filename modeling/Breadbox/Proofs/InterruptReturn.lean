import Breadbox.Proofs.Interrupts

/-!
# Taking an interrupt and returning from it

On a flat RAM, an interrupt followed by an RTI in its handler puts the processor back where it
was, at any stack pointer, and changes only the three bytes the service pushed. Two ways in:
a signal (`signal_rti_round_trip`) and a BRK (`brk_rti_round_trip`).
-/

namespace Breadbox

@[simp] theorem Ram.get_zero (a : UInt16) : Ram.zero.get a = 0 := by
  simp [Ram.zero, Ram.get]

namespace FlatRam

@[simp] theorem read_eq (a : UInt16) (m : FlatRam) : Bus.read a m = (m.bytes.get a, m) := rfl

@[simp] theorem write_bytes (a : UInt16) (v : UInt8) (m : FlatRam) :
    (Bus.write a v m).bytes = m.bytes.set a v := rfl

/-- The address a vector at `v` points to. -/
def target (m : FlatRam) (v : UInt16) : UInt16 := word (m.bytes.get v) (m.bytes.get (v + 1))

end FlatRam

/-- The three bytes an interrupt pushes from stack pointer `sp`. -/
def stackFrame (sp : UInt8) : List UInt16 :=
  [0x0100 ||| sp.toUInt16, 0x0100 ||| (sp - 1).toUInt16, 0x0100 ||| (sp - 2).toUInt16]

/-- The vector at `v` points to an RTI opcode outside the three bytes pushed from `sp`. -/
def FlatRam.RtiHandler (m : FlatRam) (v : UInt16) (sp : UInt8) : Prop :=
  m.bytes.get (m.target v) = 0x40 ∧ m.target v ∉ stackFrame sp

/-- An address at or above `$0200` is never in the stack page. -/
theorem not_mem_stackFrame {a : UInt16} (h : 0x0200 ≤ a.toNat) (sp : UInt8) : a ∉ stackFrame sp := by
  have h0 := toNat_stack sp
  have h1 := toNat_stack (sp - 1)
  have h2 := toNat_stack (sp - 2)
  have := (sp - 2).toNat_lt
  have := (sp - 1).toNat_lt
  have := sp.toNat_lt
  simp only [stackFrame, List.mem_cons, List.not_mem_nil, or_false, not_or]
  refine ⟨?_, ?_, ?_⟩ <;> intro he <;> rw [he] at h <;> omega

namespace Registers

/-- Unpacking a packed status gives back the flags, with B set. -/
theorem setStatus_pushed (r r' : Registers) (brk : Bool) :
    r.setStatus (r'.status &&& ~~~breakBit ||| bitIf brk breakBit) =
      { r with n := r'.n, v := r'.v, b := true, d := r'.d, i := r'.i, z := r'.z, c := r'.c } := by
  unfold setStatus status bitIf unusedBit breakBit negativeBit overflowBit decimalBit irqDisableBit
    zeroBit carryBit
  cases r'.n <;> cases r'.v <;> cases r'.d <;> cases r'.i <;> cases r'.z <;> cases r'.c <;>
    cases brk <;> simp <;> decide

/-- `r'` resumes `r`: SP, A, X, Y and the flags but B are those of `r`. -/
def Resumes (r r' : Registers) : Prop :=
  r'.sp = r.sp ∧ r'.a = r.a ∧ r'.x = r.x ∧ r'.y = r.y ∧
    r'.n = r.n ∧ r'.v = r.v ∧ r'.d = r.d ∧ r'.i = r.i ∧ r'.z = r.z ∧ r'.c = r.c

end Registers

namespace Cpu

/-- The frame holds the address high byte at `sp`, its low byte below, then the status. -/
theorem pushFrame_bytes (sp : UInt8) (pc : UInt16) (st : UInt8) (m : FlatRam) :
    (pushFrame sp pc st m).bytes =
      ((m.bytes.set (0x0100 ||| sp.toUInt16) (pc >>> 8).toUInt8).set
        (0x0100 ||| (sp - 1).toUInt16) pc.toUInt8).set (0x0100 ||| (sp - 1 - 1).toUInt16) st :=
  rfl

/-- RTI pops the status, then the return address, low byte first. -/
theorem step_rti (c : Cpu) (m : FlatRam) (h : m.bytes.get c.regs.pc = 0x40) :
    Exec.step.perform c m =
      (.ok 6, { c with
        regs := { c.regs.setStatus (m.bytes.get (0x0100 ||| (c.regs.sp + 1).toUInt16)) with
          sp := c.regs.sp + 1 + 1 + 1,
          pc := word (m.bytes.get (0x0100 ||| (c.regs.sp + 1 + 1).toUInt16))
            (m.bytes.get (0x0100 ||| (c.regs.sp + 1 + 1 + 1).toUInt16)),
          cycles := c.regs.cycles + 6 },
        last := 6 }, m) := by
  have hd : Opcode.decode 0x40 = some ⟨.control .rti, .implied, 6⟩ := by
    rw [Opcode.decode_eq_find?]
    rfl
  simp [Exec.step, h, hd, Exec.execute, Exec.control, Registers.setStatus]

/-- BRK skips its signature byte, latches its request and costs 7 cycles. -/
theorem step_brk {β : Type} [Bus β] (c : Cpu) (b : β) (h : (Bus.read c.regs.pc b).1 = 0) :
    Exec.step.perform c b =
      (.ok 7, { c.latch .brk with
        regs := { c.regs with pc := c.regs.pc + 1 + 1, cycles := c.regs.cycles + 7 },
        last := 7 }, (Bus.read c.regs.pc b).2) := by
  simp only [Exec.step, Exec.perform_bind, Exec.perform_fetch, h, Exec.decode_zero]
  simp [Exec.execute, Exec.control]

/-- RTI pops what the frame pushed from `sp`. -/
theorem pop_pushFrame (sp : UInt8) (pc : UInt16) (st : UInt8) (m : FlatRam) :
    let bytes := (pushFrame sp pc st m).bytes
    bytes.get (0x0100 ||| (sp - 1 - 1).toUInt16) = st ∧
      word (bytes.get (0x0100 ||| (sp - 1).toUInt16)) (bytes.get (0x0100 ||| sp.toUInt16)) = pc := by
  simp only [pushFrame_bytes, Ram.get_set, stack_inj, sub_one_ne, sub_two_ne, ↓reduceIte,
    word_toUInt8, and_self]

/-- Outside the three pushed bytes, the pushed frame leaves RAM as it was. -/
theorem pushFrame_get_of_not_mem (sp : UInt8) (pc : UInt16) (st : UInt8) (m : FlatRam)
    {a : UInt16} (h : a ∉ stackFrame sp) : (pushFrame sp pc st m).bytes.get a = m.bytes.get a := by
  simp only [stackFrame, List.mem_cons, List.not_mem_nil, or_false, not_or, ← sub_two_eq] at h
  obtain ⟨h0, h1, h2⟩ := h
  simp only [pushFrame_bytes, Ram.get_set, Ne.symm h0, Ne.symm h1, Ne.symm h2, ↓reduceIte]

/-- Pushing the frame leaves the vectors at the top of memory where they were. -/
theorem pushFrame_target (sp : UInt8) (pc : UInt16) (st : UInt8) (m : FlatRam) {v : UInt16}
    (hv : 0x0200 ≤ v.toNat) (hv1 : 0x0200 ≤ (v + 1).toNat) :
    (pushFrame sp pc st m).target v = m.target v := by
  unfold FlatRam.target
  rw [pushFrame_get_of_not_mem _ _ _ _ (not_mem_stackFrame hv sp),
    pushFrame_get_of_not_mem _ _ _ _ (not_mem_stackFrame hv1 sp)]

@[simp] theorem readVector_flat (v : UInt16) (m : FlatRam) : readVector v m = (m.target v, m) :=
  rfl

theorem vector_high (w : Interrupt) : 0x0200 ≤ w.vector.toNat ∧ 0x0200 ≤ (w.vector + 1).toNat := by
  cases w <;> decide

/-- `res`, the outcome of an RTI step, returns to `pc` from an interrupt taken with registers
`r` on `m`, `cost` cycles later, with RAM changed only in the frame pushed. -/
def ReturnsTo (r : Registers) (m : FlatRam) (pc : UInt16) (cost : Nat)
    (res : Except Fault Nat × Cpu × FlatRam) : Prop :=
  res.1 = .ok 6 ∧ res.2.1.regs.pc = pc ∧ r.Resumes res.2.1.regs ∧
    res.2.1.regs.cycles = r.cycles + cost ∧
    ∀ a ∉ stackFrame r.sp, res.2.2.bytes.get a = m.bytes.get a

/-- Returning past an instruction that only moved PC is returning to before it. -/
theorem ReturnsTo.of_advance {r : Registers} {m : FlatRam} {pc : UInt16} {cost : Nat}
    {res : Except Fault Nat × Cpu × FlatRam} (p : UInt16) (k : Nat)
    (h : ReturnsTo { r with pc := p, cycles := r.cycles + k } m pc cost res) :
    ReturnsTo r m pc (k + cost) res := by
  obtain ⟨h1, h2, h3, h4, h5⟩ := h
  dsimp only at h4
  exact ⟨h1, h2, h3, by omega, h5⟩

/-- A service of any request but reset, then RTI at the handler, undoes all but B and the frame. -/
theorem service_then_rti (c : Cpu) (m : FlatRam) {w : Interrupt} (hw : w ≠ .reset)
    (hp : c.pending = some w) (hh : m.RtiHandler w.vector c.regs.sp) :
    let sv := Exec.service.perform c m
    sv.1 = (if c.software then 0 else 7) ∧
      ReturnsTo c.regs m c.regs.pc (sv.1 + 6) (Exec.step.perform sv.2.1 sv.2.2) := by
  intro sv
  let st := c.regs.status &&& ~~~Registers.breakBit ||| Registers.bitIf c.software Registers.breakBit
  let m' := pushFrame c.regs.sp c.regs.pc st m
  have hv := vector_high w
  have hsv : sv = (if c.software then 0 else 7, { c with
      regs := { c.regs with sp := c.regs.sp - 1 - 1 - 1, i := true, pc := m.target w.vector,
                            cycles := c.regs.cycles + if c.software then 0 else 7 },
      pending := none, software := false }, m') := by
    simp only [sv, service_perform, hp, serviceEffect_of_ne_reset hw, readVector_flat, m', st,
      pushFrame_target _ _ _ _ hv.1 hv.2]
  have hop : m'.bytes.get (m.target w.vector) = 0x40 := by
    rw [pushFrame_get_of_not_mem _ _ _ _ hh.2, hh.1]
  obtain ⟨hst, hpc⟩ : m'.bytes.get (0x0100 ||| (c.regs.sp - 1 - 1).toUInt16) = st ∧
      word (m'.bytes.get (0x0100 ||| (c.regs.sp - 1).toUInt16))
        (m'.bytes.get (0x0100 ||| c.regs.sp.toUInt16)) = c.regs.pc :=
    pop_pushFrame c.regs.sp c.regs.pc st m
  have hr : Exec.step.perform sv.2.1 sv.2.2 = (.ok 6, { c with
      regs := { c.regs with b := true, pc := c.regs.pc,
                            cycles := c.regs.cycles + (if c.software then 0 else 7) + 6 },
      pending := none, software := false, last := 6 }, m') := by
    rw [hsv, step_rti _ _ hop]
    simp only [UInt8.sub_add_cancel, hst, hpc, st, Registers.setStatus_pushed]
  rw [hr, hsv]
  refine ⟨rfl, rfl, rfl, ?_, rfl, fun a ha => pushFrame_get_of_not_mem _ _ _ _ ha⟩
  simp [Registers.Resumes]

/-- An IRQ signal while I is clear, or an NMI signal, then the service and the RTI. -/
theorem signal_rti_round_trip (e : Event) (c : Cpu) (m : FlatRam)
    (he : e = .irq ∧ c.regs.i = false ∨ e = .nmi) (hp : c.pending = none)
    (hs : c.software = false) (hh : m.RtiHandler (if e = .nmi then 0xFFFA else 0xFFFE) c.regs.sp) :
    let s := e.apply (c, m)
    let sv := Exec.service.perform s.1 s.2
    sv.1 = 7 ∧ ReturnsTo c.regs m c.regs.pc (7 + 6) (Exec.step.perform sv.2.1 sv.2.2) := by
  intro s sv
  obtain ⟨w, hw, hsw, hls, hv⟩ : ∃ w : Interrupt, w ≠ .reset ∧ s = (c.latch w, m) ∧
      (c.latch w).software = false ∧ w.vector = if e = .nmi then 0xFFFA else 0xFFFE := by
    rcases he with ⟨rfl, hi⟩ | rfl
    · exact ⟨.irq, by decide, by simp [s, Event.apply, signalIrq, hi], by simp [hs], rfl⟩
    · exact ⟨.nmi, by decide, rfl, by simp [hs], rfl⟩
  rw [← hv] at hh
  have hl : (c.latch w).pending = some w := by simp [hp]
  obtain ⟨h1, h2⟩ := service_then_rti (c.latch w) m hw hl (by rwa [latch_regs])
  rw [hls, if_neg Bool.false_ne_true] at h1
  rw [h1] at h2
  simp only [latch_regs] at h2
  simp only [sv, hsw]
  exact ⟨h1, h2⟩

/-- BRK, an optional NMI, the service and RTI resume two bytes past the BRK. -/
theorem brk_rti_round_trip (c : Cpu) (m : FlatRam) (nmi : Bool) (hp : c.pending = none)
    (hbrk : m.bytes.get c.regs.pc = 0x00)
    (hh : m.RtiHandler (if nmi then 0xFFFA else 0xFFFE) c.regs.sp) :
    let s := Exec.step.perform c m
    let sv := Exec.service.perform (if nmi then s.2.1.signalNmi else s.2.1) s.2.2
    s.1 = .ok 7 ∧ sv.1 = 0 ∧
      ReturnsTo c.regs m (c.regs.pc + 2) (7 + 0 + 6) (Exec.step.perform sv.2.1 sv.2.2) := by
  intro s sv
  have hs1 : s = _ := step_brk c m (by simpa using hbrk)
  simp only [FlatRam.read_eq] at hs1
  obtain ⟨w, hw, hpw, hsw, hv, hregs⟩ : ∃ w : Interrupt, w ≠ .reset ∧
      (if nmi then s.2.1.signalNmi else s.2.1).pending = some w ∧
      (if nmi then s.2.1.signalNmi else s.2.1).software = true ∧
      w.vector = (if nmi then 0xFFFA else 0xFFFE) ∧
      (if nmi then s.2.1.signalNmi else s.2.1).regs =
        { c.regs with pc := c.regs.pc + 2, cycles := c.regs.cycles + 7 } := by
    have hpc : c.regs.pc + 1 + 1 = c.regs.pc + 2 := by rw [UInt16.add_assoc]; rfl
    cases nmi
    · exact ⟨.brk, by decide, by simp [hs1, hp], by simp [hs1], rfl, by simp [hs1, hpc]⟩
    · refine ⟨.nmi, by decide, ?_, by simp [hs1, signalNmi], rfl, by simp [hs1, hpc, signalNmi]⟩
      simp [hs1, hp, signalNmi, Interrupt.priority]
  rw [← hv] at hh
  have hm : s.2.2 = m := by rw [hs1]
  obtain ⟨h1, h2⟩ := service_then_rti _ m hw hpw (by rw [hregs]; exact hh)
  rw [hsw, if_pos rfl] at h1
  rw [h1, hregs] at h2
  simp only [sv, hm]
  exact ⟨by rw [hs1], h1, h2.of_advance _ 7⟩

/-- Taking an interrupt and returning from it, from an empty latch, on a flat RAM whose handler
is an RTI: after a signal, and after a BRK with or without an NMI, RTI resumes the registers and
only the frame has changed. -/
theorem interrupt_rti_round_trip :
    (∀ (e : Event) (c : Cpu) (m : FlatRam), e = .irq ∧ c.regs.i = false ∨ e = .nmi →
      c.pending = none → c.software = false →
      m.RtiHandler (if e = .nmi then 0xFFFA else 0xFFFE) c.regs.sp →
      let s := e.apply (c, m)
      let sv := Exec.service.perform s.1 s.2
      sv.1 = 7 ∧ ReturnsTo c.regs m c.regs.pc (7 + 6) (Exec.step.perform sv.2.1 sv.2.2)) ∧
    (∀ (c : Cpu) (m : FlatRam) (nmi : Bool), c.pending = none → m.bytes.get c.regs.pc = 0x00 →
      m.RtiHandler (if nmi then 0xFFFA else 0xFFFE) c.regs.sp →
      let s := Exec.step.perform c m
      let sv := Exec.service.perform (if nmi then s.2.1.signalNmi else s.2.1) s.2.2
      s.1 = .ok 7 ∧ sv.1 = 0 ∧
        ReturnsTo c.regs m (c.regs.pc + 2) (7 + 0 + 6) (Exec.step.perform sv.2.1 sv.2.2)) :=
  ⟨signal_rti_round_trip, brk_rti_round_trip⟩

/-- The round trip from power-on registers: an NMI alone, and a BRK overridden by an NMI. -/
theorem rti_round_trip_from_power_on :
    let m : FlatRam := { bytes := ((Ram.zero.set 0xFFFB 0x40).set 0xFFFF 0x40).set 0x4000 0x40 }
    let c : Cpu := {}
    (let s := Event.nmi.apply (c, m)
     let sv := Exec.service.perform s.1 s.2
     sv.1 = 7 ∧ ReturnsTo c.regs m c.regs.pc (7 + 6) (Exec.step.perform sv.2.1 sv.2.2)) ∧
    (let s := Exec.step.perform c m
     let sv := Exec.service.perform s.2.1.signalNmi s.2.2
     s.1 = .ok 7 ∧ sv.1 = 0 ∧
       ReturnsTo c.regs m (c.regs.pc + 2) (7 + 0 + 6) (Exec.step.perform sv.2.1 sv.2.2)) := by
  intro m c
  have ht : m.target 0xFFFA = 0x4000 := by
    simp [m, FlatRam.target]
    decide
  have hh : m.RtiHandler 0xFFFA c.regs.sp :=
    ⟨by simp [ht, m], by rw [ht]; exact not_mem_stackFrame (by decide) _⟩
  have h0 : m.bytes.get c.regs.pc = 0x00 := by simp [m, c]
  have ha := interrupt_rti_round_trip.1 .nmi c m (.inr rfl) rfl rfl hh
  have hb := interrupt_rti_round_trip.2 c m true rfl h0 (by rw [if_pos rfl]; exact hh)
  simp only [↓reduceIte] at hb
  exact ⟨ha, hb⟩

end Cpu

end Breadbox
