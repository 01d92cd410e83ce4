import Breadbox.Proofs.Exec
import Breadbox.Memory.Flat

/-!
# The interrupt latch and its service

The latch keeps the request of highest priority made since the last service, and the BRK mark
whether a BRK ran (`latch_records_requests`); the next service is decided by those two facts
(`service_perform`).
-/

namespace Breadbox

namespace Registers

@[simp] theorem status_withSp (r : Registers) (s : UInt8) : ({ r with sp := s }).status = r.status :=
  rfl

/-- Clearing B and setting it again gives the status back: it always reads as one. -/
theorem status_setBreak (r : Registers) : r.status &&& ~~~breakBit ||| breakBit = r.status := by
  unfold status bitIf
  cases r.n <;> cases r.v <;> cases r.d <;> cases r.i <;> cases r.z <;> cases r.c <;> decide

/-- The status with B cleared unless `brk` holds is the status with bit 4 set to `brk`. -/
theorem status_withBreak (r : Registers) (brk : Bool) :
    (if brk = true then r.status else r.status &&& ~~~breakBit) =
      r.status &&& ~~~breakBit ||| bitIf brk breakBit := by
  cases brk
  · simp [bitIf]
  · simp [bitIf, status_setBreak]

end Registers

namespace Interrupt

/-- `w` is the request of highest priority among `reqs`; `none` when nothing was requested. -/
def Highest (reqs : List Interrupt) : Option Interrupt → Prop
  | none => reqs = []
  | some w => w ∈ reqs ∧ ∀ r ∈ reqs, r.priority ≤ w.priority

@[simp] theorem highest_nil_iff (w : Option Interrupt) : Highest [] w ↔ w = none := by
  cases w <;> simp [Highest]

/-- Latching a request keeps the latch on the highest one. -/
theorem Highest.latch {reqs : List Interrupt} {c : Cpu} (h : Highest reqs c.pending)
    (i : Interrupt) : Highest (reqs ++ [i]) (c.latch i).pending := by
  rw [Cpu.latch_pending]
  cases hp : c.pending with
  | none =>
    rw [hp, Highest] at h
    subst h
    simp [Highest]
  | some p =>
    rw [hp] at h
    obtain ⟨hmem, hmax⟩ := h
    simp only [Option.elim, Highest, List.mem_append, List.mem_singleton]
    split
    · -- the latched request stays: it is at least as high as the new one
      refine ⟨.inl hmem, fun r hr => ?_⟩
      rcases hr with hr | rfl
      · exact hmax r hr
      · assumption
    · -- the new request is strictly higher than everything before it
      refine ⟨.inr rfl, fun r hr => ?_⟩
      rcases hr with hr | rfl
      · have := hmax r hr
        omega
      · exact Nat.le_refl _

end Interrupt

namespace Cpu

/-- What the processor can be asked to do between two services. -/
inductive Event where
  /-- `Cpu.signalIrq`. -/
  | irq
  /-- `Cpu.signalNmi`. -/
  | nmi
  /-- `Cpu.signalReset`. -/
  | reset
  /-- One instruction, by `Exec.step`. -/
  | step
deriving Repr, DecidableEq

variable {β : Type} [Bus β]

namespace Event

/-- The processor and the bus after an event. -/
def apply : Event → Cpu × β → Cpu × β
  | .irq, s => (s.1.signalIrq, s.2)
  | .nmi, s => (s.1.signalNmi, s.2)
  | .reset, s => (s.1.signalReset, s.2)
  | .step, s => (Exec.step.perform s.1 s.2).2

/-- The request an event makes: an IRQ only while I is clear, a step only at BRK. -/
def request : Event → Cpu × β → Option Interrupt
  | .irq, s => if s.1.regs.i then none else some .irq
  | .nmi, _ => some .nmi
  | .reset, _ => some .reset
  | .step, s => if (Bus.read s.1.regs.pc s.2).1 = 0 then some .brk else none

end Event

/-- Runs events in order. -/
def runEvents : List Event → Cpu × β → Cpu × β
  | [], s => s
  | e :: es, s => runEvents es (e.apply s)

/-- The requests the events make, in order. -/
def requests : List Event → Cpu × β → List Interrupt
  | [], _ => []
  | e :: es, s => (e.request s).toList ++ requests es (e.apply s)

/-- The latch holds the highest of `reqs`, and the BRK mark whether a BRK is among them. -/
def Records (reqs : List Interrupt) (c : Cpu) : Prop :=
  Interrupt.Highest reqs c.pending ∧ (c.software = true ↔ .brk ∈ reqs)

theorem records_nil_iff (c : Cpu) : Records [] c ↔ c.pending = none ∧ c.software = false := by
  simp [Records]

theorem Records.latch {reqs : List Interrupt} {c : Cpu} (h : Records reqs c) (i : Interrupt) :
    Records (reqs ++ [i]) (c.latch i) := by
  refine ⟨h.1.latch i, ?_⟩
  rw [latch_software, Bool.or_eq_true, h.2]
  simp [eq_comm]

/-- The step lemma: one event adds its request to the record. -/
theorem Records.event {reqs : List Interrupt} {s : Cpu × β} (h : Records reqs s.1)
    (e : Event) : Records (reqs ++ (e.request s).toList) (e.apply s).1 := by
  cases e with
  | irq =>
    by_cases hi : s.1.regs.i
    · simpa [Event.apply, Event.request, signalIrq, hi] using h
    · simpa [Event.apply, Event.request, signalIrq, hi] using h.latch .irq
  | nmi => exact h.latch .nmi
  | reset => exact h.latch .reset
  | step =>
    obtain ⟨hp, hs⟩ := Exec.step_latch s.1 s.2
    simp only [Event.apply, Event.request]
    by_cases h0 : (Bus.read s.1.regs.pc s.2).1 = 0
    · rw [if_pos h0] at hp hs ⊢
      unfold Records
      rw [hp, hs]
      exact h.latch .brk
    · rw [if_neg h0] at hp hs ⊢
      simpa [Records, hp, hs] using h

/-- The run lemma: a run of events adds all their requests to the record. -/
theorem Records.run {reqs : List Interrupt} {s : Cpu × β} (h : Records reqs s.1)
    (es : List Event) : Records (reqs ++ requests es s) (runEvents es s).1 := by
  induction es generalizing reqs s with
  | nil => simpa [requests, runEvents] using h
  | cons e es ih =>
    have := ih (h.event e)
    simpa [requests, runEvents, List.append_assoc] using this

/-! ## The service -/

/-- The bus after pushing a return address, high byte first, and a status from `sp` down. -/
def pushFrame (sp : UInt8) (pc : UInt16) (st : UInt8) (b : β) : β :=
  Bus.write (0x0100 ||| (sp - 1 - 1).toUInt16) st
    (Bus.write (0x0100 ||| (sp - 1).toUInt16) pc.toUInt8
      (Bus.write (0x0100 ||| sp.toUInt16) (pc >>> 8).toUInt8 b))

/-- The little-endian word at a vector, and the bus after reading it. -/
def readVector (v : UInt16) (b : β) : UInt16 × β :=
  let lo := Bus.read v b
  let hi := Bus.read (v + 1) lo.2
  (word lo.1 hi.1, hi.2)

/-- A service, given the latched request `winner` and whether a BRK ran since the last one: a
reset clears the registers, any other request pushes PC and the status, B set after a BRK, sets
I and loads PC from its vector. -/
def serviceEffect (winner : Option Interrupt) (brk : Bool) (c : Cpu) (b : β) : Nat × Cpu × β :=
  match winner with
  | none => (0, c, b)
  | some .reset =>
    let v := readVector 0xFFFC b
    (7, { c with regs := { c.regs.reset with pc := v.1, cycles := c.regs.cycles + 7 },
                 pending := none, software := false }, v.2)
  | some w =>
    let n := if brk then 0 else 7
    let st := c.regs.status &&& ~~~Registers.breakBit ||| Registers.bitIf brk Registers.breakBit
    let v := readVector w.vector (pushFrame c.regs.sp c.regs.pc st b)
    (n, { c with regs := { c.regs with sp := c.regs.sp - 1 - 1 - 1, i := true, pc := v.1,
                                       cycles := c.regs.cycles + n },
                 pending := none, software := false }, v.2)

/-- The spec lemma of the service: it is decided by the latch and the BRK mark. -/
theorem service_perform (c : Cpu) (b : β) :
    Exec.service.perform c b = serviceEffect c.pending c.software c b := by
  rcases c with ⟨r, last, _ | w, software⟩
  · rfl
  · cases w with
    | reset => simp [Exec.service, serviceEffect, readVector, Interrupt.vector]
    | irq | brk | nmi =>
      simp [Exec.service, serviceEffect, readVector, pushFrame, Registers.status_withBreak]

theorem serviceEffect_of_ne_reset {w : Interrupt} (hw : w ≠ .reset)
    (brk : Bool) (c : Cpu) (b : β) :
    let st := c.regs.status &&& ~~~Registers.breakBit ||| Registers.bitIf brk Registers.breakBit
    let v := readVector w.vector (pushFrame c.regs.sp c.regs.pc st b)
    serviceEffect (some w) brk c b =
      (if brk then 0 else 7, { c with
        regs := { c.regs with sp := c.regs.sp - 1 - 1 - 1, i := true, pc := v.1,
                              cycles := c.regs.cycles + if brk then 0 else 7 },
        pending := none, software := false }, v.2) := by
  cases w with
  | reset => exact absurd rfl hw
  | _ => rfl

/-- A service always leaves the latch empty. -/
theorem service_pending (c : Cpu) (b : β) : (Exec.service.perform c b).2.1.pending = none := by
  rw [service_perform]
  rcases hp : c.pending with _ | w
  · exact hp
  · cases w <;> rfl

/-- A service clears the BRK mark, unless there was nothing to serve. -/
theorem service_software (c : Cpu) (b : β) (h : c.pending = none → c.software = false) :
    (Exec.service.perform c b).2.1.software = false := by
  rw [service_perform]
  rcases hp : c.pending with _ | w
  · exact h hp
  · cases w <;> rfl

/-- With nothing waiting the service does nothing. -/
theorem service_of_none (c : Cpu) (b : β) (hp : c.pending = none) :
    Exec.service.perform c b = (0, c, b) := by
  rw [service_perform, hp]
  rfl

/-- A service costs 7 cycles whenever something is waiting that no BRK has paid for. -/
theorem service_cycles (c : Cpu) (b : β) {w : Interrupt} (hp : c.pending = some w)
    (hs : c.software = false) : (Exec.service.perform c b).1 = 7 := by
  rw [service_perform, hp, hs]
  cases w <;> rfl

/-- The latch protocol: from an empty latch, after any signals and steps, the latch holds the
highest request made and the BRK mark whether a BRK ran, and these decide the next service. -/
theorem latch_records_requests (es : List Event) (c : Cpu) (b : β) (hp : c.pending = none)
    (hs : c.software = false) :
    let s := runEvents es (c, b)
    let reqs := requests es (c, b)
    Interrupt.Highest reqs s.1.pending ∧ (s.1.software = true ↔ .brk ∈ reqs) ∧
      Exec.service.perform s.1 s.2 = serviceEffect s.1.pending (decide (.brk ∈ reqs)) s.1 s.2 := by
  intro s reqs
  have h := ((records_nil_iff c).2 ⟨hp, hs⟩).run (s := (c, b)) es
  rw [List.nil_append] at h
  refine ⟨h.1, h.2, ?_⟩
  rw [service_perform]
  congr 1
  exact Bool.eq_iff_iff.2 (h.2.trans decide_eq_true_iff.symm)

/-- From power-on, on an all-zero RAM, a step runs the BRK at PC 0 and an NMI signal follows. -/
theorem latch_records_brk_then_nmi :
    let s := runEvents [.step, .nmi] (({} : Cpu), ({} : FlatRam))
    let reqs := requests [.step, .nmi] (({} : Cpu), ({} : FlatRam))
    Interrupt.Highest reqs s.1.pending ∧ (s.1.software = true ↔ .brk ∈ reqs) ∧
      Exec.service.perform s.1 s.2 = serviceEffect s.1.pending (decide (.brk ∈ reqs)) s.1 s.2 :=
  latch_records_requests [.step, .nmi] ({} : Cpu) ({} : FlatRam) rfl rfl

end Cpu

end Breadbox
