import Breadbox.Proofs.TodLatch
import Breadbox.Proofs.IcrInvariant

/-!
# Counting laws of the interval timers

A timer fed `n` pulses is `Timer.afterPulses` in closed form (`Timer.pulses_eq_afterPulses`).
Timer A takes a pulse per cycle and timer B those its input gives (`Timer.inputB`).

Main statement (`Cia.timer_counting`): after any quiet accesses, both timers and their ICR bits
are what their pulses make of them.
-/

namespace Breadbox

namespace Timer

/-- A timer fed `k` count pulses: the underflows among them and the timer after them. -/
def pulses : Nat → Timer → Nat × Timer
  | 0, t => (0, t)
  | k + 1, t =>
    let first := if t.running then t.count else (false, t)
    let rest := pulses k first.2
    ((if first.1 then 1 else 0) + rest.1, rest.2)

/-- The underflows from counter `c` and latch `l` after `n` pulses without stopping. -/
def underflowsAfter (c l n : Nat) : Nat :=
  if n < max c 1 then 0 else 1 + (n - max c 1) / max l 1

/-- The counter of that timer after those pulses. -/
def counterAfter (c l n : Nat) : Nat :=
  if n < max c 1 then c - n else l - (n - max c 1) % max l 1

/-- What `n` pulses make of a timer, in closed form; a one-shot timer underflows at most once and
then stops with the latch loaded. -/
def afterPulses (t : Timer) (n : Nat) : Nat × Timer :=
  let c := t.counter.toNat
  let l := t.latch.toNat
  if t.running then
    if t.oneShot then
      if n < max c 1 then (0, { t with counter := UInt16.ofNat (c - n) })
      else (1, { t with counter := t.latch, control := t.control &&& ~~~startBit })
    else (underflowsAfter c l n, { t with counter := UInt16.ofNat (counterAfter c l n) })
  else (0, t)

/-- The pulses timer B counts in `n` cycles with `ua` underflows of timer A, by CRB bits 6 and 5. -/
def inputB (t : Timer) (n ua : Nat) : Nat :=
  let mode := t.control &&& 0x60
  if mode = 0x00 then n else if mode = 0x40 then ua else 0

/-! ## One pulse -/

variable {t : Timer}

theorem count_of_gt (h : 1 < t.counter) :
    t.count = (false, { t with counter := t.counter - 1 }) := by
  simp [count, h]

theorem count_of_le (h : ¬ 1 < t.counter) :
    t.count = (true, if t.oneShot then
      { t with counter := t.latch, control := t.control &&& ~~~startBit }
      else { t with counter := t.latch }) := by
  simp only [count, h, ↓reduceIte]

theorem pulses_of_stopped (h : t.running = false) (n : Nat) : t.pulses n = (0, t) := by
  induction n with
  | zero => rfl
  | succ n ih => simp [pulses, h, ih]

/-- Pulses fed in two runs. -/
theorem pulses_add (j k : Nat) (t : Timer) :
    t.pulses (j + k) = ((t.pulses j).1 + ((t.pulses j).2.pulses k).1,
      ((t.pulses j).2.pulses k).2) := by
  induction j generalizing t with
  | zero => simp [pulses]
  | succ j ih =>
    rw [Nat.add_right_comm]
    simp only [pulses, ih]
    simp [Nat.add_assoc]

/-! ## The closed form -/

theorem underflowsAfter_zero (c l : Nat) : underflowsAfter c l 0 = 0 := by
  simp [underflowsAfter]

theorem counterAfter_zero (c l : Nat) : counterAfter c l 0 = c := by
  simp [counterAfter]

/-- Counting down from above one delays every underflow by one pulse. -/
theorem underflowsAfter_succ_of_lt {c : Nat} (hc : 1 < c) (l n : Nat) :
    underflowsAfter c l (n + 1) = underflowsAfter (c - 1) l n := by
  have h1 : max c 1 = c := by omega
  have h2 : max (c - 1) 1 = c - 1 := by omega
  have h3 : (n + 1 < c) = (n < c - 1) := propext (by omega)
  simp only [underflowsAfter, h1, h2, h3, show n + 1 - c = n - (c - 1) by omega]

theorem counterAfter_succ_of_lt {c : Nat} (hc : 1 < c) (l n : Nat) :
    counterAfter c l (n + 1) = counterAfter (c - 1) l n := by
  have h1 : max c 1 = c := by omega
  have h2 : max (c - 1) 1 = c - 1 := by omega
  have h3 : (n + 1 < c) = (n < c - 1) := propext (by omega)
  simp only [counterAfter, h1, h2, h3, show n + 1 - c = n - (c - 1) by omega,
    show c - (n + 1) = c - 1 - n by omega]

/-- An underflow at the first pulse starts the timer over from its latch. -/
theorem underflowsAfter_succ_of_le {c : Nat} (hc : c ≤ 1) (l n : Nat) :
    underflowsAfter c l (n + 1) = 1 + underflowsAfter l l n := by
  have h1 : max c 1 = 1 := by omega
  have hpos : 0 < max l 1 := by omega
  simp only [underflowsAfter, h1, Nat.add_sub_cancel, show ¬ n + 1 < 1 by omega, ↓reduceIte]
  split_ifs with h
  · rw [Nat.div_eq_of_lt h]
  · rw [Nat.div_eq_sub_div hpos (by omega)]
    omega

theorem counterAfter_succ_of_le {c : Nat} (hc : c ≤ 1) (l n : Nat) :
    counterAfter c l (n + 1) = counterAfter l l n := by
  have h1 : max c 1 = 1 := by omega
  simp only [counterAfter, h1, Nat.add_sub_cancel, show ¬ n + 1 < 1 by omega, ↓reduceIte]
  split_ifs with h
  · rw [Nat.mod_eq_of_lt h]
  · rw [Nat.mod_eq_sub_mod (by omega)]

/-- A one-shot timer that has underflowed no longer runs. -/
theorem running_of_stop {x : UInt8} (h : t.control = x &&& ~~~startBit) : t.running = false := by
  simp only [running, h, UInt8.and_assoc, show ~~~startBit &&& startBit = 0 by decide,
    UInt8.and_zero]
  rfl

/-- The counting law: a timer fed `n` pulses is what `afterPulses` says. -/
theorem pulses_eq_afterPulses (t : Timer) (n : Nat) : t.pulses n = t.afterPulses n := by
  induction n generalizing t with
  | zero =>
    cases hr : t.running <;> cases ho : t.oneShot <;>
      simp [pulses, afterPulses, hr, ho, underflowsAfter_zero, counterAfter_zero]
  | succ n ih =>
    cases hr : t.running
    · simp [afterPulses, hr, pulses_of_stopped hr]
    by_cases hc : 1 < t.counter
    · -- the first pulse counts down, and the law for the rest is the law shifted by one
      let t1 : Timer := { t with counter := t.counter - 1 }
      have hr1 : t1.running = true := hr
      have hp : t.pulses (n + 1) = t1.pulses n := by simp [pulses, hr, count_of_gt hc, t1]
      have hc' : 1 < t.counter.toNat := hc
      have h1 : t1.counter.toNat = t.counter.toNat - 1 :=
        UInt16.toNat_sub_of_le _ _ (UInt16.le_of_lt hc)
      have hcond : (n < max (t.counter.toNat - 1) 1) = (n + 1 < max t.counter.toNat 1) :=
        propext (by omega)
      rw [hp, ih t1]
      simp only [afterPulses, hr, hr1, ↓reduceIte, h1, hcond, underflowsAfter_succ_of_lt hc',
        counterAfter_succ_of_lt hc', show t.counter.toNat - 1 - n = t.counter.toNat - (n + 1) by omega]
      rfl
    · have hc' : t.counter.toNat ≤ 1 := by
        have := UInt16.lt_iff_toNat_lt.not.mp hc
        simpa using this
      cases ho : t.oneShot
      · -- a continuous timer underflows at once and starts over from its latch
        let t1 : Timer := { t with counter := t.latch }
        have hr1 : t1.running = true := hr
        have ho1 : t1.oneShot = false := ho
        have hp : t.pulses (n + 1) = (1 + (t1.pulses n).1, (t1.pulses n).2) := by
          simp [pulses, hr, count_of_le hc, ho, t1]
        rw [hp, ih t1]
        simp [afterPulses, hr, ho, hr1, ho1, t1, underflowsAfter_succ_of_le hc',
          counterAfter_succ_of_le hc']
      · -- a one-shot timer underflows at once and stops there
        let t1 : Timer := { t with counter := t.latch, control := t.control &&& ~~~startBit }
        have hstop : t1.running = false := running_of_stop rfl
        have hp : t.pulses (n + 1) = (1, t1) := by
          simp [pulses, hr, count_of_le hc, ho, t1, pulses_of_stopped hstop]
        rw [hp]
        simp [afterPulses, hr, ho, t1, show ¬ n + 1 < max t.counter.toNat 1 by omega]

/-! ## The input of timer B -/

/-- Stopping a timer leaves its input mode. -/
theorem stop_mode (x : UInt8) : x &&& ~~~startBit &&& 0x60 = x &&& 0x60 := by
  rw [UInt8.and_assoc, show ~~~startBit &&& 0x60 = 0x60 by decide]

/-- Counting leaves the input mode, CRB bits 6 and 5. -/
theorem pulses_mode (t : Timer) (n : Nat) :
    (t.pulses n).2.control &&& 0x60 = t.control &&& 0x60 := by
  rw [pulses_eq_afterPulses]
  dsimp only [afterPulses]
  split_ifs <;> simp [stop_mode]

theorem inputB_pulses (t : Timer) (n m ua : Nat) : (t.pulses n).2.inputB m ua = t.inputB m ua := by
  simp only [inputB, pulses_mode]

/-- The input of two runs of cycles is the sum of theirs. -/
theorem inputB_add (t : Timer) (j k ua ub : Nat) :
    t.inputB (j + k) (ua + ub) = t.inputB j ua + t.inputB k ub := by
  dsimp only [inputB]
  split_ifs <;> rfl

theorem inputB_zero (t : Timer) : t.inputB 0 0 = 0 := by
  dsimp only [inputB]
  split_ifs <;> rfl

end Timer

namespace Cia

/-- Whether the ICR status holds the bit of event `e`. -/
def flag (c : Cia) (e : UInt8) : Bool := c.status &&& e != 0

/-- Whether an access writes no register and does not read the ICR. -/
def Access.quiet : Access → Bool
  | .store _ _ => false
  | .fetch reg => reg &&& 0x0F != CiaReg.icr
  | _ => true

/-- `c'` is `c` after `n` cycles, as the timers and their ICR bits see it. -/
structure TimersAfter (c : Cia) (n : Nat) (c' : Cia) : Prop where
  timerA : c'.timerA = (c.timerA.pulses n).2
  timerB : c'.timerB = (c.timerB.pulses (c.timerB.inputB n (c.timerA.pulses n).1)).2
  flagA : c'.flag CiaEvent.timerA = (c.flag CiaEvent.timerA || (c.timerA.pulses n).1 != 0)
  flagB : c'.flag CiaEvent.timerB =
    (c.flag CiaEvent.timerB || (c.timerB.pulses (c.timerB.inputB n (c.timerA.pulses n).1)).1 != 0)

variable {c : Cia}

/-- Underflows in two runs: some when there are some in either. -/
theorem add_bne_zero (a b : Nat) : (a + b != 0) = (a != 0 || b != 0) := by
  cases a <;> cases b <;> simp

theorem TimersAfter.of_same {c' : Cia} (hA : c'.timerA = c.timerA) (hB : c'.timerB = c.timerB)
    (hs : c'.status = c.status) : TimersAfter c 0 c' := by
  constructor <;> simp [Timer.pulses, Timer.inputB_zero, flag, hA, hB, hs]

/-- Two runs of cycles make one. -/
theorem TimersAfter.trans {j k : Nat} {c1 c2 : Cia} (h1 : TimersAfter c j c1)
    (h2 : TimersAfter c1 k c2) : TimersAfter c (j + k) c2 := by
  have hin : c1.timerB.inputB k (c1.timerA.pulses k).1 =
      c.timerB.inputB k ((c.timerA.pulses j).2.pulses k).1 := by
    rw [h1.timerA, h1.timerB, Timer.inputB_pulses]
  have hB := Timer.pulses_add (c.timerB.inputB j (c.timerA.pulses j).1)
    (c.timerB.inputB k ((c.timerA.pulses j).2.pulses k).1) c.timerB
  rw [← Timer.inputB_add] at hB
  constructor
  · rw [h2.timerA, h1.timerA, Timer.pulses_add]
  · rw [h2.timerB, hin, h1.timerB, Timer.pulses_add, hB]
  · rw [h2.flagA, h1.flagA, h1.timerA, Timer.pulses_add, add_bne_zero, Bool.or_assoc]
  · rw [h2.flagB, hin, h1.flagB, h1.timerB, Timer.pulses_add, hB, add_bne_zero, Bool.or_assoc]

/-! ## One access -/

section Events

variable (c : Cia)

@[simp] theorem raise_timerA (e : UInt8) : (c.raise e).timerA = c.timerA := by
  simp only [raise, apply_ite Cia.timerA]
  exact ite_self _

@[simp] theorem raise_timerB (e : UInt8) : (c.raise e).timerB = c.timerB := by
  simp only [raise, apply_ite Cia.timerB]
  exact ite_self _

/-- Raising an event sets the bits of the event and leaves the other event bits. -/
theorem flag_raise (e f : UInt8) (hf : f ≤ 0x1F) :
    (c.raise e).flag f = (c.flag f || e &&& f != 0) := by
  have hs : (c.raise e).status = c.status ||| e ||| 0x80 := by
    simp only [raise, apply_ite Cia.status]
    exact ite_self _
  rw [flag, flag, hs, raise_and_mask hf, Bool.eq_iff_iff]
  simp only [bne_iff_ne, ne_eq, Bool.or_eq_true, UInt8.or_eq_zero_iff, not_and_or]

/-- Raising an event leaves the bits of the other events. -/
theorem flag_raise_of_and {e f : UInt8} (hf : f ≤ 0x1F) (he : e &&& f = 0) :
    (c.raise e).flag f = c.flag f := by
  rw [flag_raise c e f hf, he]
  exact Bool.or_false _

/-- Raising an event sets its own bit. -/
theorem flag_raise_self {e : UInt8} (he : e ≤ 0x1F) (hne : e ≠ 0) : (c.raise e).flag e = true := by
  rw [flag_raise c e e he, UInt8.and_self]
  simp [hne]

end Events

/-- A cycle feeds timer A one pulse and timer B its input's. -/
theorem cycle_timersAfter (c : Cia) : TimersAfter c 1 c.cycle := by
  unfold Cia.cycle
  split
  next ticked clock _ =>
  extract_lets c0 c1
  have h1 : c1.timerA = c.timerA ∧ c1.timerB = c.timerB ∧
      c1.flag CiaEvent.timerA = c.flag CiaEvent.timerA ∧
      c1.flag CiaEvent.timerB = c.flag CiaEvent.timerB := by
    simp only [c1, c0]
    split
    · exact ⟨raise_timerA _ _, raise_timerB _ _, flag_raise_of_and _ (by decide) (by decide),
        flag_raise_of_and _ (by decide) (by decide)⟩
    · exact ⟨rfl, rfl, rfl, rfl⟩
  obtain ⟨hA1, hB1, hfA1, hfB1⟩ := h1
  split
  next aUnder c2 hA =>
  have h2 : c2.timerA = (c.timerA.pulses 1).2 ∧ c2.timerB = c.timerB ∧
      (c.timerA.pulses 1).1 = (if aUnder then 1 else 0) ∧
      c2.flag CiaEvent.timerA = (c.flag CiaEvent.timerA || aUnder) ∧
      c2.flag CiaEvent.timerB = c.flag CiaEvent.timerB := by
    split at hA
    next hrun =>
      split at hA
      next t hcount =>
      cases hA
      have hp : c.timerA.pulses 1 = (if aUnder then 1 else 0, t) := by
        simp [Timer.pulses, ← hA1, hrun, hcount]
      rw [hp]
      cases aUnder
      · exact ⟨rfl, hB1, rfl, by rw [Bool.or_false]; exact hfA1, hfB1⟩
      · exact ⟨raise_timerA _ _, (raise_timerB _ _).trans hB1, rfl,
          (flag_raise_self _ (by decide) (by decide)).trans (Bool.or_true _).symm,
          (flag_raise_of_and _ (by decide) (by decide)).trans hfB1⟩
    next hrun =>
      cases hA
      have hp : c.timerA.pulses 1 = (0, c.timerA) := by
        simp [Timer.pulses, ← hA1, hrun]
      rw [hp]
      exact ⟨hA1, hB1, rfl, by simpa using hfA1, hfB1⟩
  obtain ⟨hA2, hB2, hua, hfA2, hfB2⟩ := h2
  extract_lets mode bInput
  have hin : c.timerB.inputB 1 (c.timerA.pulses 1).1 = if bInput then 1 else 0 := by
    simp only [Timer.inputB, bInput, mode, hB2, hua]
    split_ifs <;> simp_all
  have hflagA : c2.flag CiaEvent.timerA =
      (c.flag CiaEvent.timerA || (c.timerA.pulses 1).1 != 0) := by
    rw [hfA2, hua]
    cases aUnder <;> rfl
  split
  next hfed =>
    obtain ⟨hb, hrB⟩ := Bool.and_eq_true_iff.mp hfed
    split
    next u t hcount =>
    have hp : c.timerB.pulses (c.timerB.inputB 1 (c.timerA.pulses 1).1) =
        (if u then 1 else 0, t) := by
      rw [hin, hb]
      simp [Timer.pulses, ← hB2, hrB, hcount]
    cases u
    · exact ⟨hA2, by rw [hp]; rfl, hflagA, by rw [hp]; exact hfB2.trans (Bool.or_false _).symm⟩
    · exact ⟨(raise_timerA _ _).trans hA2, by rw [hp]; exact raise_timerB _ _,
        (flag_raise_of_and _ (by decide) (by decide)).trans hflagA,
        by rw [hp]; exact (flag_raise_self _ (by decide) (by decide)).trans (Bool.or_true _).symm⟩
  next hfed =>
    have hp : c.timerB.pulses (c.timerB.inputB 1 (c.timerA.pulses 1).1) = (0, c.timerB) := by
      rw [hin]
      cases hb : bInput
      · rfl
      · have hrB : c.timerB.running = false := by simpa [hb, hB2] using hfed
        exact Timer.pulses_of_stopped hrB 1
    exact ⟨hA2, by rw [hp]; exact hB2, hflagA, by rw [hp, hfB2]; exact (Bool.or_false _).symm⟩

/-- Reads leave both timers. -/
theorem fetch_timers (c : Cia) (reg : UInt8) :
    (c.fetch reg).2.timerA = c.timerA ∧ (c.fetch reg).2.timerB = c.timerB := by
  dsimp only [Cia.fetch]
  split_ifs <;> exact ⟨rfl, rfl⟩

/-- Quiet accesses other than a cycle leave both timers and the ICR status. -/
theorem Access.timersAfter_apply {a : Access} (ha : a.quiet) (hc : a ≠ .cycle) (c : Cia) :
    TimersAfter c 0 (a.apply c) := by
  cases a with
  | store reg v => simp [Access.quiet] at ha
  | fetch reg =>
    have hr : reg &&& 0x0F ≠ CiaReg.icr := by simpa [Access.quiet] using ha
    obtain ⟨hA, hB⟩ := fetch_timers c reg
    exact .of_same hA hB (fetch_icr_of_ne c hr).1
  | peek reg => exact .of_same rfl rfl rfl
  | cycle => exact absurd rfl hc
  | setKey column row pressed =>
    simp only [Access.apply, Cia.setKey]
    split <;> exact .of_same rfl rfl rfl
  | releaseKeys => exact .of_same rfl rfl rfl

/-- The run lemma: along quiet accesses the timers count once for every cycle among them. -/
theorem timersAfter_applyAll (c : Cia) {as : List Access} (has : ∀ a ∈ as, a.quiet) :
    TimersAfter c (as.count .cycle) (applyAll as c) := by
  induction as generalizing c with
  | nil => exact .of_same rfl rfl rfl
  | cons a as ih =>
    have hrest := ih (a.apply c) fun b hb => has b (List.mem_cons_of_mem a hb)
    rw [applyAll_cons, List.count_cons, Nat.add_comm]
    refine TimersAfter.trans ?_ hrest
    by_cases hc : a = .cycle
    · subst hc
      simpa [Access.apply] using cycle_timersAfter c
    · simpa [hc] using Access.timersAfter_apply (has a List.mem_cons_self) hc c

/-- Counting laws of the timers: along quiet accesses with `n` cycles among them, timer A counts
`n` pulses and timer B its input's, each as `Timer.afterPulses` says, and each ICR bit ends set
exactly when it was set or the timer underflowed. -/
theorem timer_counting (c : Cia) (as : List Access) (has : ∀ a ∈ as, a.quiet) :
    let n := as.count .cycle
    let a := c.timerA.afterPulses n
    let b := c.timerB.afterPulses (c.timerB.inputB n a.1)
    let c' := applyAll as c
    c'.timerA = a.2 ∧ c'.timerB = b.2 ∧
      c'.flag CiaEvent.timerA = (c.flag CiaEvent.timerA || a.1 != 0) ∧
      c'.flag CiaEvent.timerB = (c.flag CiaEvent.timerB || b.1 != 0) := by
  intro n a b c'
  have h := timersAfter_applyAll c has
  simp only [a, b, c', ← Timer.pulses_eq_afterPulses]
  exact ⟨h.timerA, h.timerB, h.flagA, h.flagB⟩

/-- Timer A underflows twice in five cycles, and timer B, counting them, once. -/
theorem timer_b_counts_timer_a :
    let c : Cia :=
      { timerA := { counter := 3, latch := 2, control := 0x01 }
        timerB := { counter := 2, latch := 5, control := 0x41 } }
    let as : List Access := [.cycle, .peek 4, .cycle, .fetch 4, .cycle, .cycle, .cycle]
    let c' := applyAll as c
    (∀ a ∈ as, a.quiet) ∧ c'.timerA.counter = 2 ∧ c'.timerB.counter = 5 ∧
      c'.flag CiaEvent.timerA ∧ c'.flag CiaEvent.timerB := by
  intro c as c'
  have has : ∀ a ∈ as, a.quiet := by decide
  obtain ⟨hA, hB, hfA, hfB⟩ := timer_counting c as has
  refine ⟨has, ?_, ?_, ?_, ?_⟩
  · rw [hA]
    decide
  · rw [hB]
    decide
  · rw [hfA]
    decide
  · rw [hfB]
    decide

end Cia

end Breadbox
