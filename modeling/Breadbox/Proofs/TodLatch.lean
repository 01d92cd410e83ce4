import Breadbox.Proofs.TimeKeeping

/-!
# The read latch of the time-of-day clock

Reading the hours freezes the time the other registers show, and reading the tenths releases
it; no other access moves the latch (`Access.latched_apply`). Main statement
(`tod_read_latch`).
-/

namespace Breadbox

namespace Clock

@[simp] theorem tick_latched (k : Clock) : k.tick.2.latched = k.latched := by
  unfold tick
  split
  · rfl
  · dsimp only
    split <;> rfl

@[simp] theorem toggle_latched (k : Clock) : k.toggle.latched = k.latched := by
  unfold toggle start
  split <;> rfl

@[simp] theorem start_latched (k : Clock) : k.start.latched = k.latched := rfl

end Clock

namespace Cia

/-- One access to the chip, by a program or by the machine. -/
inductive Access where
  | store (reg v : UInt8)
  | fetch (reg : UInt8)
  | peek (reg : UInt8)
  | cycle
  | setKey (column row : Nat) (pressed : Bool)
  | releaseKeys
deriving Repr, DecidableEq

namespace Access

/-- The chip after an access. -/
def apply : Access → Cia → Cia
  | .store reg v, c => c.store reg v
  | .fetch reg, c => (c.fetch reg).2
  | .peek _, c => c
  | .cycle, c => c.cycle
  | .setKey column row pressed, c => c.setKey column row pressed
  | .releaseKeys, c => c.releaseKeys

/-- Whether an access reads register `r`, through any mirror, with the read's side effects. -/
def fetches (r : UInt8) : Access → Bool
  | .fetch reg => reg &&& 0x0F == r
  | _ => false

end Access

/-- The chip after a sequence of accesses, first to last. -/
def applyAll (as : List Access) (c : Cia) : Cia := as.foldl (fun c a => a.apply c) c

@[simp] theorem applyAll_nil (c : Cia) : applyAll [] c = c := rfl

@[simp] theorem applyAll_cons (a : Access) (as : List Access) (c : Cia) :
    applyAll (a :: as) c = applyAll as (a.apply c) := rfl

/-! ## What moves the latch -/

variable (c : Cia)

theorem storeClock_latched (r v : UInt8) : (c.storeClock r v).clock.latched = c.clock.latched := by
  unfold storeClock
  dsimp only
  split
  · rfl
  · split_ifs <;> simp

/-- No register write moves the latch, a write to the clock's own registers included. -/
theorem store_latched (reg v : UInt8) : (c.store reg v).clock.latched = c.clock.latched := by
  unfold Cia.store
  simp only [apply_ite (fun c : Cia => c.clock.latched), storeClock_latched, ite_self]

theorem fetch_of_todTen {reg : UInt8} (h : reg &&& 0x0F = CiaReg.todTen) :
    c.fetch reg = (c.clock.visible.tenths, { c with clock := { c.clock with latched := none } }) := by
  simp only [Cia.fetch, h, ↓reduceIte]

theorem fetch_of_todHrs {reg : UInt8} (h : reg &&& 0x0F = CiaReg.todHrs) :
    c.fetch reg =
      (c.clock.time.hours, { c with clock := { c.clock with latched := some c.clock.time } }) := by
  simp only [Cia.fetch, h, CiaReg.todHrs, CiaReg.todTen]
  rfl

/-- Every other read leaves the latch; it may clear the ICR. -/
theorem fetch_latched_of_ne {reg : UInt8} (h1 : reg &&& 0x0F ≠ CiaReg.todTen)
    (h2 : reg &&& 0x0F ≠ CiaReg.todHrs) : (c.fetch reg).2.clock.latched = c.clock.latched := by
  unfold Cia.fetch
  simp only [h1, h2, ↓reduceIte]
  split <;> rfl

/-- A read of the hours freezes the time, one of the tenths releases it, others leave it. -/
theorem Access.latched_apply (a : Access) :
    (a.apply c).clock.latched =
      if a.fetches CiaReg.todHrs then some c.clock.time
      else if a.fetches CiaReg.todTen then none else c.clock.latched := by
  cases a with
  | store reg v => simp [Access.apply, Access.fetches, store_latched]
  | fetch reg =>
    simp only [Access.apply, Access.fetches, beq_iff_eq]
    by_cases hh : reg &&& 0x0F = CiaReg.todHrs
    · simp [fetch_of_todHrs c hh, hh]
    · by_cases ht : reg &&& 0x0F = CiaReg.todTen
      · simp [fetch_of_todTen c ht, ht, CiaReg.todTen, CiaReg.todHrs]
      · simp [fetch_latched_of_ne c ht hh, hh, ht]
  | peek reg => rfl
  | cycle => simp [Access.apply, Access.fetches, cycle_clock]
  | setKey column row pressed => simp [Access.apply, Access.fetches, setKey_clock]
  | releaseKeys => rfl

/-- The run lemma: accesses that read neither the hours nor the tenths leave the latch. -/
theorem latched_applyAll {as : List Access}
    (h : ∀ a ∈ as, a.fetches CiaReg.todHrs = false ∧ a.fetches CiaReg.todTen = false) :
    (applyAll as c).clock.latched = c.clock.latched := by
  induction as generalizing c with
  | nil => rfl
  | cons a as ih =>
    obtain ⟨hh, ht⟩ := h a List.mem_cons_self
    rw [applyAll_cons, ih (a.apply c) fun b hb => h b (List.mem_cons_of_mem a hb),
      Access.latched_apply, hh, ht]
    rfl

/-- An empty latch stays empty until the hours are read. -/
theorem latched_applyAll_of_none {as : List Access}
    (h : ∀ a ∈ as, a.fetches CiaReg.todHrs = false) (hc : c.clock.latched = none) :
    (applyAll as c).clock.latched = none := by
  induction as generalizing c with
  | nil => exact hc
  | cons a as ih =>
    refine ih (a.apply c) (fun b hb => h b (List.mem_cons_of_mem a hb)) ?_
    rw [Access.latched_apply, h a List.mem_cons_self, hc]
    simp

/-! ## What the registers read -/

/-- The tenths, seconds and minutes registers read the fields of `t`. -/
def ShowsTime (t : TimeOfDay) : Prop :=
  ∀ reg : UInt8,
    (reg &&& 0x0F = CiaReg.todTen → c.peek reg = t.tenths ∧ (c.fetch reg).1 = t.tenths) ∧
    (reg &&& 0x0F = CiaReg.todSec → c.peek reg = t.seconds ∧ (c.fetch reg).1 = t.seconds) ∧
    (reg &&& 0x0F = CiaReg.todMin → c.peek reg = t.minutes ∧ (c.fetch reg).1 = t.minutes)

/-- The registers show the visible time. -/
theorem showsTime_visible : c.ShowsTime c.clock.visible := by
  intro reg
  refine ⟨fun h => ?_, fun h => ?_, fun h => ?_⟩ <;>
    simp [Cia.peek, Cia.fetch, h, CiaReg.pra, CiaReg.prb, CiaReg.ddra, CiaReg.ddrb, CiaReg.taLo,
      CiaReg.taHi, CiaReg.tbLo, CiaReg.tbHi, CiaReg.todTen, CiaReg.todSec, CiaReg.todMin,
      CiaReg.todHrs, CiaReg.icr]

/-- The hours read live, through every mirror, by `peek` and by `fetch` alike. -/
theorem hours_live {reg : UInt8} (h : reg &&& 0x0F = CiaReg.todHrs) :
    c.peek reg = c.clock.time.hours ∧ (c.fetch reg).1 = c.clock.time.hours := by
  refine ⟨?_, by rw [fetch_of_todHrs c h]⟩
  simp [Cia.peek, h, CiaReg.pra, CiaReg.prb, CiaReg.ddra, CiaReg.ddrb, CiaReg.taLo, CiaReg.taHi,
    CiaReg.tbLo, CiaReg.tbHi, CiaReg.todTen, CiaReg.todSec, CiaReg.todMin, CiaReg.todHrs]

theorem showsTime_of_latched {t : TimeOfDay} (h : c.clock.latched = some t) : c.ShowsTime t := by
  have := c.showsTime_visible
  rwa [Clock.visible, h, Option.getD_some] at this

theorem showsTime_of_not_latched (h : c.clock.latched = none) : c.ShowsTime c.clock.time := by
  have := c.showsTime_visible
  rwa [Clock.visible, h, Option.getD_none] at this

/-- The read latch over every run: after a read of the hours and any accesses that read neither
the hours nor the tenths, the other registers read the time of that read and the hours read
live; the next read of the tenths returns it and then the registers show the live time. -/
theorem tod_read_latch {hrs : UInt8} (hh : hrs &&& 0x0F = CiaReg.todHrs) (as : List Access)
    (has : ∀ a ∈ as, a.fetches CiaReg.todHrs = false ∧ a.fetches CiaReg.todTen = false) :
    let t := c.clock.time
    let c' := applyAll as (c.fetch hrs).2
    (c.fetch hrs).1 = t.hours ∧ c'.ShowsTime t ∧
      (∀ reg : UInt8, reg &&& 0x0F = CiaReg.todHrs →
        c'.peek reg = c'.clock.time.hours ∧ (c'.fetch reg).1 = c'.clock.time.hours) ∧
      ∀ ten : UInt8, ten &&& 0x0F = CiaReg.todTen →
        (c'.fetch ten).1 = t.tenths ∧
        ∀ bs : List Access, (∀ b ∈ bs, b.fetches CiaReg.todHrs = false) →
          (applyAll bs (c'.fetch ten).2).ShowsTime (applyAll bs (c'.fetch ten).2).clock.time := by
  intro t c'
  have hlatch : c'.clock.latched = some t := by
    rw [latched_applyAll _ has, fetch_of_todHrs c hh]
  have hshows := c'.showsTime_of_latched hlatch
  refine ⟨(c.hours_live hh).2, hshows, fun reg hr => c'.hours_live hr, fun ten hten => ?_⟩
  refine ⟨((hshows ten).1 hten).2, fun bs hbs => ?_⟩
  refine showsTime_of_not_latched _ (latched_applyAll_of_none _ hbs ?_)
  rw [fetch_of_todTen c' hten]

/-- Read at the hours, the clock still reads 1:00:00.0 thirty cycles later. -/
theorem tod_latch_holds_thirty_cycles :
    let c := (Cia.new 10).store CiaReg.todHrs 0x01
    let c' := applyAll (List.replicate 30 .cycle) (c.fetch 0x1B).2
    (0x1B : UInt8) &&& 0x0F = CiaReg.todHrs ∧
      (∀ a ∈ List.replicate 30 Access.cycle,
        a.fetches CiaReg.todHrs = false ∧ a.fetches CiaReg.todTen = false) ∧
      ((c.fetch 0x1B).1 = c.clock.time.hours ∧ c'.ShowsTime c.clock.time ∧
        (∀ reg : UInt8, reg &&& 0x0F = CiaReg.todHrs →
          c'.peek reg = c'.clock.time.hours ∧ (c'.fetch reg).1 = c'.clock.time.hours) ∧
        ∀ ten : UInt8, ten &&& 0x0F = CiaReg.todTen →
          (c'.fetch ten).1 = c.clock.time.tenths ∧
          ∀ bs : List Access, (∀ b ∈ bs, b.fetches CiaReg.todHrs = false) →
            (applyAll bs (c'.fetch ten).2).ShowsTime (applyAll bs (c'.fetch ten).2).clock.time) :=
  ⟨by decide, by decide, tod_read_latch _ (by decide) _ (by decide)⟩

example :
    let c := applyAll (List.replicate 30 .cycle) (((Cia.new 10).store CiaReg.todHrs 0x01).fetch 0x1B).2
    c.peek CiaReg.todSec = 0 ∧ c.clock.time.seconds = 3 := by
  decide +kernel

end Cia

end Breadbox
