import Breadbox.Proofs.MachineStep
import Breadbox.Proofs.IcrInvariant

/-!
# What a step costs

An instruction costs 2 to 7 cycles (`Exec.step_cost`) and a service 0 or 7, so a machine step
costs 2 to 14 and clocks the CIA once per cycle (`Machine.step_clocks`). Along a run the CIA
trails the processor by the 7 cycles of each reset (`Machine.ClockedRun`), and a run for a
budget ends within 13 cycles past it (`Machine.runUntil_spec`).
-/

namespace Breadbox

/-- The most cycles an instruction adds to its entry's. -/
def Instruction.penalty : Instruction → Nat
  | .control (.branch _) => 2
  | .read _ => 1
  | _ => 0

@[simp] theorem ReadOp.apply_cycles (op : ReadOp) (r : Registers) (m : UInt8) :
    (op.apply r m).cycles = r.cycles := by
  cases op <;> simp [ReadOp.apply, Registers.adc, Registers.sbc, Registers.compare,
    Registers.bitTest]

@[simp] theorem ModifyOp.apply_cycles (op : ModifyOp) (r : Registers) (m : UInt8) :
    (op.apply r m).2.cycles = r.cycles := by
  cases op <;> simp [ModifyOp.apply]

namespace Exec

section Charges

variable {β α γ : Type}

/-- A part of an instruction that adds at most `k` cycles to its cost and no others. -/
def ChargesAtMost (k : Nat) (x : Exec β α) : Prop :=
  ∀ c b, (x.perform c b).2.1.regs.cycles = c.regs.cycles ∧
    c.last ≤ (x.perform c b).2.1.last ∧ (x.perform c b).2.1.last ≤ c.last + k

theorem ChargesAtMost.mono {k l : Nat} {x : Exec β α} (h : ChargesAtMost k x) (hkl : k ≤ l) :
    ChargesAtMost l x := fun c b => by
  have := h c b
  omega

theorem chargesAtMost_zero {x : Exec β α}
    (h : ∀ c b, (x.perform c b).2.1.regs.cycles = c.regs.cycles ∧
      (x.perform c b).2.1.last = c.last) :
    ChargesAtMost 0 x := fun c b => by
  have := h c b
  omega

theorem ChargesAtMost.bind {k l : Nat} {x : Exec β α} {f : α → Exec β γ}
    (hx : ChargesAtMost k x) (hf : ∀ a, ChargesAtMost l (f a)) :
    ChargesAtMost (k + l) (x >>= f) := fun c b => by
  have h1 := hx c b
  have h2 := hf (x.perform c b).1 (x.perform c b).2.1 (x.perform c b).2.2
  simp only [perform_bind]
  omega

theorem ChargesAtMost.ite {k : Nat} {p : Prop} [Decidable p] {x y : Exec β α}
    (hx : ChargesAtMost k x) (hy : ChargesAtMost k y) : ChargesAtMost k (if p then x else y) := by
  split
  · exact hx
  · exact hy

end Charges

variable {β : Type} [Bus β]

theorem pageCross_le (a : UInt16) (i : UInt8) : pageCross a i ≤ 1 := by
  unfold pageCross
  split <;> omega

/-- Only an indexed address with the penalty on can cost a cycle, for the page it crosses. -/
theorem resolve_charges (mode : AddressMode) (penalty : Bool) :
    ChargesAtMost (if penalty then 1 else 0) (resolve mode penalty : Exec β UInt16) := by
  intro c b
  cases mode <;> cases penalty <;>
    simp [resolve, fetchWord, indexed, indirectTarget, readZeroPageWord, pageCross_le]

theorem operand_charges (mode : AddressMode) : ChargesAtMost 1 (operand mode : Exec β UInt8) := by
  intro c b
  cases mode with
  | accumulator => simp [operand]
  | _ =>
    simpa only [operand, perform_bind, perform_read, ↓reduceIte] using resolve_charges _ true c b

/-- A taken branch costs one cycle more, or two when it lands in another page. -/
theorem branch_charges (cond : Condition) : ChargesAtMost 2 (branch cond : Exec β Unit) := by
  refine ((chargesAtMost_zero fun c b => by simp).bind fun offset =>
    (chargesAtMost_zero fun c b => by simp).bind fun r =>
      (?_ : ChargesAtMost 2 _)).mono (by omega)
  refine ChargesAtMost.ite ?_ ((chargesAtMost_zero fun c b => by simp).mono (by omega))
  refine ((chargesAtMost_zero fun c b => by simp).bind fun _ => fun c b => ?_).mono
    (show 0 + 2 ≤ 2 by omega)
  simp only [perform_charge, true_and]
  split <;> omega

theorem control_charges (op : Control) (mode : AddressMode) :
    ChargesAtMost (Instruction.control op).penalty (control op mode : Exec β Unit) := by
  cases op with
  | branch cond => exact branch_charges cond
  | jmp =>
    intro c b
    simpa [control, Instruction.penalty] using resolve_charges (β := β) mode false c b
  | _ => exact chargesAtMost_zero fun c b => by simp [control, fetchWord]

theorem execute_charges (e : Entry) :
    ChargesAtMost e.instruction.penalty (execute e : Exec β Unit) := by
  rcases e with ⟨instruction, mode, cycles⟩
  cases instruction with
  | control op => exact control_charges op mode
  | read op =>
    intro c b
    have hm := operand_charges (β := β) mode c b
    simpa only [execute, perform_bind, perform_setRegs, Instruction.penalty,
      ReadOp.apply_cycles] using hm
  | store reg =>
    intro c b
    have hr := resolve_charges (β := β) mode false c b
    simpa [execute, Instruction.penalty] using hr
  | modify op =>
    intro c b
    have hr := resolve_charges (β := β) mode false c b
    simp only [execute]
    split
    · simp [Instruction.penalty]
    · simpa [Instruction.penalty] using hr

/-- Every table entry costs between 2 and 7 cycles, penalties included. -/
theorem find?_cost : ∀ i : Fin 256, ∀ e ∈ Opcode.find? (UInt8.ofNat i.val),
    2 ≤ e.cycles ∧ e.cycles + e.instruction.penalty ≤ 7 := by
  decide +kernel

theorem decode_cost {op : UInt8} {e : Entry} (h : Opcode.decode op = some e) :
    2 ≤ e.cycles ∧ e.cycles + e.instruction.penalty ≤ 7 := by
  have hi := find?_cost ⟨op.toNat, op.toNat_lt⟩ e
  rw [UInt8.ofNat_toNat, ← Opcode.decode_eq_find?] at hi
  exact hi h

/-- A step at an opcode with an entry runs its body and then counts its cost. -/
theorem step_of_decode_some {c : Cpu} {b : β} {e : Entry}
    (hd : Opcode.decode (Bus.read c.regs.pc b).1 = some e) :
    let s := (execute e).perform
      { c with regs := { c.regs with pc := c.regs.pc + 1 }, last := e.cycles }
      (Bus.read c.regs.pc b).2
    step.perform c b = (.ok s.2.1.last,
      { s.2.1 with regs := { s.2.1.regs with cycles := s.2.1.regs.cycles + s.2.1.last } },
      s.2.2) := by
  simp [step, hd]

/-- A successful instruction costs between 2 and 7 cycles. -/
theorem step_cost {c : Cpu} {b : β} {n : Nat} (h : (step.perform c b).1 = .ok n) :
    2 ≤ n ∧ n ≤ 7 ∧ (step.perform c b).2.1.regs.cycles = c.regs.cycles + n := by
  cases hd : Opcode.decode (Bus.read c.regs.pc b).1 with
  | none => rw [step_of_decode_none hd] at h; cases h
  | some e =>
    have he := decode_cost hd
    obtain ⟨hcyc, hlo, hhi⟩ := execute_charges (β := β) e
      { c with regs := { c.regs with pc := c.regs.pc + 1 }, last := e.cycles }
      (Bus.read c.regs.pc b).2
    rw [step_of_decode_some hd] at h ⊢
    cases h
    dsimp only at hcyc hlo hhi ⊢
    exact ⟨by omega, by omega, by rw [hcyc]⟩

end Exec

/-- A service costs nothing or 7 cycles, and adds its cost to the running count. -/
theorem Cpu.service_cost {β : Type} [Bus β] (c : Cpu) (b : β) :
    (Exec.service.perform c b).1 ≤ 7 ∧
      (Exec.service.perform c b).2.1.regs.cycles =
        c.regs.cycles + (Exec.service.perform c b).1 := by
  rw [Cpu.service_perform]
  rcases c.pending with _ | w
  · simp [Cpu.serviceEffect]
  · cases w <;> cases c.software <;> simp [Cpu.serviceEffect]

namespace Cia

/-- An idle chip stays as it is. -/
theorem cycle_of_idle {c : Cia} (h : c.idle = true) : c.cycle = c := by
  simp only [idle, Bool.and_eq_true, Bool.not_eq_true'] at h
  obtain ⟨⟨hk, ha⟩, hb⟩ := h
  have ht : c.clock.tick = (false, c.clock) := by simp [Clock.tick, hk]
  unfold cycle
  rw [ht]
  simp [ha, hb]

/-- `cycles n` clocks the chip `n` times; the idle shortcut changes nothing. -/
theorem cycles_eq_iterate (n : Nat) (c : Cia) : Cia.cycles n c = Cia.cycle^[n] c := by
  induction n generalizing c with
  | zero => rfl
  | succ n ih =>
    unfold Cia.cycles
    split
    · next h => rw [Function.iterate_fixed (cycle_of_idle h)]
    · rw [ih, Function.iterate_succ_apply]

end Cia

namespace Machine

variable {m : Machine}

@[simp] theorem sampled_regs : m.sampled.regs = m.cpu.regs := by
  unfold sampled Cpu.signalIrq
  split_ifs <;> simp

/-- A successful step costs 2 to 14 cycles, refreshes once and clocks the CIA once per cycle. -/
theorem step_clocks {n : Nat} {c : Cpu} {b : Board}
    (h : Exec.step.perform m.sampled m.board = (.ok n, c, b)) :
    let sv := Exec.service.perform c b
    let rf := m.vic.refresh sv.2.1.regs.cycles sv.2.2
    2 ≤ n + sv.1 ∧ n + sv.1 ≤ 14 ∧ sv.2.1.regs.cycles = m.cpu.regs.cycles + (n + sv.1) ∧
      m.step = (.ok (n + sv.1),
        ⟨sv.2.1, { rf.2.2 with cia := Cia.cycle^[n + sv.1] rf.2.2.cia }, rf.2.1, m.cps⟩) := by
  dsimp only
  obtain ⟨h2, h7, hc⟩ := Exec.step_cost (congrArg Prod.fst h)
  obtain ⟨hs7, hsc⟩ := Cpu.service_cost c b
  rw [h, sampled_regs] at hc
  dsimp only at hc
  refine ⟨by omega, by omega, by rw [hsc, hc]; omega, ?_⟩
  rw [step_of_ok h, Cia.cycles_eq_iterate]

/-- A step succeeds only when its instruction does. -/
theorem exec_ok_of_step_ok {r : Nat} (h : m.step.1 = .ok r) :
    ∃ n c b, Exec.step.perform m.sampled m.board = (.ok n, c, b) := by
  rcases hs : Exec.step.perform m.sampled m.board with ⟨res, c, b⟩
  cases res with
  | error f => rw [step_of_error hs] at h; cases h
  | ok n => exact ⟨n, c, b, rfl⟩

/-- A successful step costs between 2 and 14 cycles, and the cycle count grows by its cost. -/
theorem step_cost {r : Nat} (h : m.step.1 = .ok r) :
    2 ≤ r ∧ r ≤ 14 ∧ m.step.2.cpu.regs.cycles = m.cpu.regs.cycles + r := by
  obtain ⟨n, c, b, hs⟩ := exec_ok_of_step_ok h
  obtain ⟨h2, h14, hc, heq⟩ := step_clocks hs
  rw [heq] at h ⊢
  cases h
  exact ⟨h2, h14, hc⟩

/-- A successful step of `r` cycles, taken apart. -/
theorem step_ok_eq {r : Nat} (h : m.step.1 = .ok r) :
    ∃ c b, let sv := Exec.service.perform c b
      let rf := m.vic.refresh sv.2.1.regs.cycles sv.2.2
      Exec.step.perform m.sampled m.board = (.ok (r - sv.1), c, b) ∧
        sv.2.1.regs.cycles = m.cpu.regs.cycles + r ∧
        m.step.2 =
          ⟨sv.2.1, { rf.2.2 with cia := Cia.cycle^[r] rf.2.2.cia }, rf.2.1, m.cps⟩ := by
  obtain ⟨n, c, b, hs⟩ := exec_ok_of_step_ok h
  obtain ⟨-, -, hc, heq⟩ := step_clocks hs
  rw [heq] at h ⊢
  cases h
  exact ⟨c, b, by simp [hs], hc, rfl⟩

/-- A failed step adds no cycle, refreshes nothing and clocks nothing. -/
theorem step_of_error_eq {f : Fault} (h : m.step.1 = .error f) :
    m.step.2 = { m with cpu := m.sampled, board := (Bus.read m.cpu.regs.pc m.board).2 } ∧
      ∃ op, f = .unknownOpcode op m.cpu.regs.pc ∧ Opcode.decode op = none := by
  rcases hs : Exec.step.perform m.sampled m.board with ⟨res, c, b⟩
  cases res with
  | ok n => rw [step_of_ok hs] at h; cases h
  | error f' =>
    have hd := Exec.decode_none_of_error (congrArg Prod.fst hs)
    rw [step_of_decode_none hd] at h ⊢
    cases h
    rw [sampled_regs] at hd ⊢
    exact ⟨rfl, _, rfl, hd⟩

theorem signalReset_pending (c : Cpu) : c.signalReset.pending = some .reset := by
  rw [Cpu.signalReset, Cpu.latch_pending]
  rcases c.pending with _ | p
  · rfl
  · cases p <;> rfl

/-- A reset costs 7 cycles. -/
theorem cycles_reset (m : Machine) : m.reset.cpu.regs.cycles = m.cpu.regs.cycles + 7 := by
  show (Exec.service.perform m.cpu.signalReset m.board).2.1.regs.cycles = _
  rw [Cpu.service_perform, signalReset_pending]
  simp [Cpu.serviceEffect, Cpu.signalReset]

theorem cycles_new (roms : RomSet) (cps : Nat) : (Machine.new roms cps).cpu.regs.cycles = 7 := by
  rw [new_eq]

theorem loadPrg_cpu (data : List UInt8) : (m.loadPrg data).2.cpu = m.cpu := by
  unfold loadPrg
  split <;> rfl

/-! ## Runs -/

section Runs

variable {P : Machine → Prop}

/-- What every step keeps holds after every run for a cycle budget. -/
theorem runUntil_induction (hP : ∀ m, P m → P m.step.2) (h : P m) (start budget fuel : Nat) :
    P (m.runUntil start budget fuel).2 := by
  induction fuel generalizing m with
  | zero => exact h
  | succ fuel ih =>
    unfold Machine.runUntil
    have hs := hP m h
    split
    · split
      · next n m' hst => rw [hst] at hs; exact ih hs
      · next f m' hst => rw [hst] at hs; exact hs
    · exact h

/-- What every step keeps holds after every run to the end of a frame. -/
theorem runFrameFrom_induction (hP : ∀ m, P m → P m.step.2) (h : P m) (frame fuel : Nat) :
    P (m.runFrameFrom frame fuel).2 := by
  induction fuel generalizing m with
  | zero => exact h
  | succ fuel ih =>
    unfold Machine.runFrameFrom
    have hs := hP m h
    split
    · split
      · next n m' hst => rw [hst] at hs; exact ih hs
      · next f m' hst => rw [hst] at hs; exact hs
    · exact h

/-- What every step keeps holds where a run until a fault stops. -/
theorem runToFault_induction (hP : ∀ m, P m → P m.step.2) (h : P m) {fuel : Nat} {f : Fault}
    {m' : Machine} (hr : m.runToFault fuel = .error (f, m')) : P m' := by
  induction fuel generalizing m with
  | zero => cases hr
  | succ fuel ih =>
    unfold Machine.runToFault at hr
    have hs := hP m h
    split at hr
    · next n m'' hst => rw [hst] at hs; exact ih hs hr
    · next f' m'' hst =>
      cases hr
      rw [hst] at hs
      exact hs

/-- What every step keeps holds after every paced run that returns. -/
theorem runRealtime_induction (hP : ∀ m, P m → P m.step.2) (h : P m) {budget speed fuel : Nat}
    {r : Except Fault Unit} {m' : Machine} (hr : m.runRealtime budget speed fuel = some (r, m')) :
    P m' := by
  unfold Machine.runRealtime at hr
  split at hr
  · split at hr
    · next f m'' hf =>
      cases hr
      exact runToFault_induction hP h hf
    · cases hr
  · have hc := runUntil_induction hP h m.cpu.regs.cycles budget budget
    rw [show m.runUntil m.cpu.regs.cycles budget budget = (r, m') from Option.some.inj hr] at hc
    exact hc

end Runs

theorem Reachable.runRealtime (h : Reachable m) {budget speed fuel : Nat} {r : Except Fault Unit}
    {m' : Machine} (hr : m.runRealtime budget speed fuel = some (r, m')) : Reachable m' :=
  runRealtime_induction (fun _ h => h.step) h hr

/-- Runs from power-on, with `clocks` the CIA's clocks and `resets` the resets so far. -/
inductive ClockedRun : Nat → Nat → Machine → Prop
  | new (roms : RomSet) (cps : Nat) : ClockedRun 0 0 (Machine.new roms cps)
  | step {clocks resets r : Nat} {m : Machine} (h : m.step.1 = .ok r) :
      ClockedRun clocks resets m → ClockedRun (clocks + r) resets m.step.2
  | fail {clocks resets : Nat} {m : Machine} {f : Fault} (h : m.step.1 = .error f) :
      ClockedRun clocks resets m → ClockedRun clocks resets m.step.2
  | nmi {clocks resets : Nat} {m : Machine} :
      ClockedRun clocks resets m → ClockedRun clocks resets m.nmi
  | loadPrg {clocks resets : Nat} {m : Machine} (data : List UInt8) :
      ClockedRun clocks resets m → ClockedRun clocks resets (m.loadPrg data).2
  | reset {clocks resets : Nat} {m : Machine} :
      ClockedRun clocks resets m → ClockedRun clocks (resets + 1) m.reset

namespace ClockedRun

variable {clocks resets : Nat}

theorem of_step (h : ClockedRun clocks resets m) : ∃ t, ClockedRun t resets m.step.2 := by
  rcases hs : m.step.1 with f | r
  · exact ⟨clocks, .fail hs h⟩
  · exact ⟨clocks + r, .step hs h⟩

theorem runCycles (h : ClockedRun clocks resets m) (budget : Nat) :
    ∃ t, ClockedRun t resets (m.runCycles budget).2 :=
  runUntil_induction (P := fun m => ∃ t, ClockedRun t resets m) (fun _ ⟨_, h⟩ => h.of_step)
    ⟨clocks, h⟩ _ _ _

theorem runFrame (h : ClockedRun clocks resets m) : ∃ t, ClockedRun t resets m.runFrame.2 :=
  runFrameFrom_induction (P := fun m => ∃ t, ClockedRun t resets m)
    (fun _ ⟨_, h⟩ => h.of_step) ⟨clocks, h⟩ _ _

theorem runRealtime (h : ClockedRun clocks resets m) {budget speed fuel : Nat}
    {r : Except Fault Unit} {m' : Machine} (hr : m.runRealtime budget speed fuel = some (r, m')) :
    ∃ t, ClockedRun t resets m' :=
  runRealtime_induction (P := fun m => ∃ t, ClockedRun t resets m) (fun _ ⟨_, h⟩ => h.of_step)
    ⟨clocks, h⟩ hr

/-- The CIA has been clocked once for every cycle but the 7 of each reset. -/
theorem cycles_eq (h : ClockedRun clocks resets m) :
    m.cpu.regs.cycles = clocks + 7 * (1 + resets) := by
  induction h with
  | new roms cps => rw [cycles_new]
  | step hs _ ih =>
    rw [(step_cost hs).2.2, ih]
    omega
  | fail hs _ ih =>
    rw [(step_of_error_eq hs).1, ← ih]
    exact congrArg Registers.cycles sampled_regs
  | nmi _ ih => rw [nmi_cpu, Cpu.signalNmi, Cpu.latch_regs, ih]
  | loadPrg data _ ih => rw [loadPrg_cpu, ih]
  | reset _ ih =>
    rw [cycles_reset, ih]
    omega

end ClockedRun

/-- A run for a budget ends within 13 cycles past it, or at the first failed step; fuel of one
step per two cycles is enough. -/
theorem runUntil_spec (m : Machine) (start budget fuel : Nat) (hs : start ≤ m.cpu.regs.cycles)
    (hle : m.cpu.regs.cycles - start ≤ budget + 13)
    (hf : budget ≤ m.cpu.regs.cycles - start + 2 * fuel) :
    let r := m.runUntil start budget fuel
    (r.1 = .ok () ∧ budget ≤ r.2.cpu.regs.cycles - start ∧
        r.2.cpu.regs.cycles - start ≤ budget + 13) ∨
      (∃ op, r.1 = .error (.unknownOpcode op r.2.cpu.regs.pc) ∧ Opcode.decode op = none ∧
        r.2.cpu.regs.cycles - start < budget) := by
  induction fuel generalizing m with
  | zero =>
    have h0 : m.runUntil start budget 0 = (.ok (), m) := rfl
    rw [h0]
    exact .inl ⟨rfl, by omega, hle⟩
  | succ fuel ih =>
    unfold Machine.runUntil
    split
    · next hlt =>
      split
      · next n m' hst =>
        have hc := step_cost (congrArg Prod.fst hst)
        rw [hst] at hc
        dsimp only at hc
        exact ih m' (by omega) (by omega) (by omega)
      · next f m' hst =>
        obtain ⟨heq, op, hf, hd⟩ := step_of_error_eq (congrArg Prod.fst hst)
        rw [hst] at heq
        subst heq hf
        exact .inr ⟨op, by simp, hd, by simpa using hlt⟩
    · dsimp only
      exact .inl ⟨rfl, by omega, hle⟩

/-- A run for `budget` cycles ends within 13 cycles past it or at an unknown opcode. -/
theorem runCycles_spec (m : Machine) (budget : Nat) :
    let r := m.runCycles budget
    (r.1 = .ok () ∧ budget ≤ r.2.cpu.regs.cycles - m.cpu.regs.cycles ∧
        r.2.cpu.regs.cycles - m.cpu.regs.cycles ≤ budget + 13) ∨
      (∃ op, r.1 = .error (.unknownOpcode op r.2.cpu.regs.pc) ∧ Opcode.decode op = none ∧
        r.2.cpu.regs.cycles - m.cpu.regs.cycles < budget) :=
  runUntil_spec m _ budget budget (le_refl _) (by omega) (by omega)

/-- The machine's clocks agree: a successful step costs 2 to 14 cycles and clocks the CIA once
for each; over a run the CIA trails by the 7 cycles of each reset; a failed step adds and clocks
nothing; a run for a budget ends within 13 cycles past it or at an unknown opcode. -/
theorem step_clock_accounting (m : Machine) :
    (∀ r, m.step.1 = .ok r → 2 ≤ r ∧ r ≤ 14 ∧ ∃ c b,
      let sv := Exec.service.perform c b
      let rf := m.vic.refresh sv.2.1.regs.cycles sv.2.2
      Exec.step.perform m.sampled m.board = (.ok (r - sv.1), c, b) ∧
        sv.2.1.regs.cycles = m.cpu.regs.cycles + r ∧
        m.step.2 = ⟨sv.2.1, { rf.2.2 with cia := Cia.cycle^[r] rf.2.2.cia }, rf.2.1, m.cps⟩) ∧
    (∀ clocks resets, ClockedRun clocks resets m →
      m.cpu.regs.cycles = clocks + 7 * (1 + resets)) ∧
    (∀ f, m.step.1 = .error f →
      m.step.2.cpu.regs = m.cpu.regs ∧ m.step.2.vic = m.vic ∧
        m.step.2.board = (Bus.read m.cpu.regs.pc m.board).2 ∧
        ∃ op, f = .unknownOpcode op m.cpu.regs.pc ∧ Opcode.decode op = none) ∧
    ∀ budget, let r := m.runCycles budget
      (r.1 = .ok () ∧ budget ≤ r.2.cpu.regs.cycles - m.cpu.regs.cycles ∧
          r.2.cpu.regs.cycles - m.cpu.regs.cycles ≤ budget + 13) ∨
        (∃ op, r.1 = .error (.unknownOpcode op r.2.cpu.regs.pc) ∧ Opcode.decode op = none ∧
          r.2.cpu.regs.cycles - m.cpu.regs.cycles < budget) := by
  refine ⟨fun r h => ?_, fun _ _ h => h.cycles_eq, fun f h => ?_, runCycles_spec m⟩
  · obtain ⟨h2, h14, -⟩ := step_cost h
    exact ⟨h2, h14, step_ok_eq h⟩
  · obtain ⟨heq, hf⟩ := step_of_error_eq h
    rw [heq]
    exact ⟨sampled_regs, rfl, rfl, hf⟩

/-- A failed step whose opcode fetch reads the ICR still clears its flags and line. -/
theorem failed_step_reads_icr :
    let kernal : Vector UInt8 8192 := Vector.ofFn fun i =>
      if i.val = 0x1FFC then 0x0D else if i.val = 0x1FFD then 0xDC else 0xEE
    let m0 := Machine.new ⟨Vector.replicate 8192 0xBA, kernal, Vector.replicate 4096 0xC4⟩
      Cia.palCps
    let cia := ((((m0.board.cia.store 0x06 0x01).store 0x07 0x00).store 0x0D 0x82).store
      0x0F 0x01).cycle
    let m := { m0 with board := { m0.board with cia := cia } }
    Reachable m ∧ m.board.cia.status = 0x82 ∧ m.board.cia.irq = true ∧
      m.step.1 = .error (.unknownOpcode 0x82 0xDC0D) ∧
      m.step.2.cpu.regs.cycles = m.cpu.regs.cycles ∧
      m.step.2.board.cia.status = 0 ∧ m.step.2.board.cia.irq = false := by
  intro kernal m0 cia m
  have hreach : Reachable m := (Reachable.new _ _).board fun b => { b with cia := cia }
  have e0 : m0 = _ := new_eq _ _
  have ec : cia = ((((m0.board.cia.store 0x06 0x01).store 0x07 0x00).store 0x0D 0x82).store
      0x0F 0x01).cycle := rfl
  have em : m = { m0 with board := { m0.board with cia := cia } } := rfl
  -- keep the machine opaque: the kernel should see the equations, not unfold power-on
  clear_value m cia m0
  have hpc : word (kernal.get 0x1FFC) (kernal.get 0x1FFD) = 0xDC0D := by
    simp only [kernal, Vector.get, Vector.toArray_ofFn, Array.getElem_ofFn]
    decide
  rw [hpc] at e0
  rw [e0] at ec em
  have hs : cia.status = 0x82 := by rw [ec]; decide
  have hi : cia.irq = true := by rw [ec]; decide
  have hboard :
      m.board = ⟨Memory.new ⟨Vector.replicate 8192 0xBA, kernal, Vector.replicate 4096 0xC4⟩,
        cia⟩ := by
    rw [em]
  have hcpu : m.cpu = { regs := { pc := 0xDC0D, cycles := 7 } } := by rw [em]
  have hres : m.board.memory.resolve 0xDC0D = .cia 13 := by
    rw [hboard]
    unfold Memory.resolve
    rw [new_bankMode, Region.ofRead_io (by decide) (by decide), Region.ofIo_cia _ (by decide)]
    rfl
  have hread : Bus.read m.sampled.regs.pc m.board =
      (0x82, { m.board with cia := { cia with status := 0, irq := false } }) := by
    have hmcia : m.board.cia = cia := by rw [hboard]
    rw [sampled_regs, hcpu, Board.bus_read_eq, (Board.read_of_resolve_cia hres).2,
      Cia.fetch_of_icr _ (by decide), hmcia, hs]
  have d82 : Opcode.decode 0x82 = none := by
    rw [Opcode.decode_eq_find?]
    rfl
  have hf : m.step = _ := step_of_decode_none (by rw [hread]; exact d82)
  rw [hread, sampled_regs, hcpu] at hf
  refine ⟨hreach, by rw [hboard]; exact hs, by rw [hboard]; exact hi, by rw [hf], ?_,
    by rw [hf], by rw [hf]⟩
  rw [hf, hcpu]
  simp [sampled_regs, hcpu]

end Machine

end Breadbox
