import Mathlib
import Breadbox.Cia.Chip

/-!
# The interrupt control register of the CIA

Each event of a cycle sets its own status bit and bit 7; only a read of the ICR clears the
status and drops the IRQ line. The invariant `Cia.IcrOk` is kept by every operation.

Main statement (`icr_invariant`): in every reachable state the status holds only the event bits
and bit 7, the line follows the enabled pending events, and a read returns and clears it.
-/

namespace Breadbox

namespace Cia

/-- The events a cycle raises. -/
def IsEvent (e : UInt8) : Prop := e = CiaEvent.timerA ∨ e = CiaEvent.timerB ∨ e = CiaEvent.alarm

/-- A status byte the chip can hold: zero, or bit 7 with some of the three event bits. -/
def StatusOk (s : UInt8) : Prop := s = 0 ∨ 0x80 ≤ s ∧ s ≤ 0x87

/-! ## Byte facts -/

/-- `StatusOk` in bits: only bits 0, 1, 2 and 7, and bit 7 exactly when not zero. -/
theorem statusOk_iff (s : UInt8) :
    StatusOk s ↔ s &&& ~~~0x87 = 0 ∧ (s &&& 0x80 ≠ 0 ↔ s ≠ 0) := by
  revert s
  unfold StatusOk
  decide +kernel

theorem statusOk_raise {s e : UInt8} (hs : StatusOk s) (he : IsEvent e) :
    StatusOk (s ||| e ||| 0x80) := by
  revert s
  unfold StatusOk
  rcases he with rfl | rfl | rfl <;> decide +kernel

/-- Bit 7 lies outside a five-bit mask. -/
theorem high_and_of_le {m : UInt8} (hm : m ≤ 0x1F) : 0x80 &&& m = 0 := by
  revert m
  decide +kernel

theorem or_le_mask {m b : UInt8} (hm : m ≤ 0x1F) (hb : b ≤ 0x1F) : m ||| b ≤ 0x1F := by
  rw [UInt8.le_iff_toNat_le] at *
  rw [UInt8.toNat_or]
  simp only [UInt8.reduceToNat] at *
  have h5 : m.toNat ||| b.toNat < 2 ^ 5 := Nat.or_lt_two_pow (by omega) (by omega)
  omega

theorem and_le_mask {m b : UInt8} (hm : m ≤ 0x1F) : m &&& b ≤ 0x1F := by
  rw [UInt8.le_iff_toNat_le] at *
  rw [UInt8.toNat_and]
  exact le_trans Nat.and_le_left hm

theorem and_low_le (v : UInt8) : v &&& 0x1F ≤ 0x1F := by
  rw [UInt8.le_iff_toNat_le, UInt8.toNat_and]
  exact Nat.and_le_right

/-- Against a five-bit mask, the bit 7 a raise adds counts for nothing. -/
theorem raise_and_mask {s e m : UInt8} (hm : m ≤ 0x1F) :
    (s ||| e ||| 0x80) &&& m = s &&& m ||| e &&& m := by
  have h : (0x80 : UInt8).toBitVec &&& m.toBitVec = 0#8 := by
    rw [← UInt8.toBitVec_and, high_and_of_le hm]
    rfl
  apply UInt8.toBitVec_inj.mp
  simp only [UInt8.toBitVec_and, UInt8.toBitVec_or, BitVec.and_or_distrib_right, h,
    BitVec.or_zero]

/-! ## The invariant -/

/-- The ICR invariant: a status the chip can hold, a five-bit mask, the line up whenever an
enabled event is pending, and up only while something is pending. -/
structure IcrOk (c : Cia) : Prop where
  status : StatusOk c.status
  mask : c.mask ≤ 0x1F
  line_of_pending : c.status &&& c.mask ≠ 0 → c.irq = true
  pending_of_line : c.irq = true → c.status ≠ 0

variable {c : Cia}

/-- Only the status, the mask and the line matter. -/
theorem IcrOk.of_eq {c' : Cia} (h : IcrOk c) (hs : c'.status = c.status) (hm : c'.mask = c.mask)
    (hi : c'.irq = c.irq) : IcrOk c' := by
  obtain ⟨h1, h2, h3, h4⟩ := h
  exact ⟨hs ▸ h1, hm ▸ h2, hs ▸ hm ▸ hi ▸ h3, hs ▸ hi ▸ h4⟩

theorem icrOk_new (cps : Nat) : IcrOk (Cia.new cps) :=
  ⟨.inl rfl, show (0 : UInt8) ≤ 0x1F by decide, fun h => (h (by simp [Cia.new])).elim,
    fun h => nomatch h⟩

/-- The step lemma for events: raising one keeps the invariant. -/
theorem IcrOk.raise (h : IcrOk c) {e : UInt8} (he : IsEvent e) : IcrOk (c.raise e) := by
  have hs := statusOk_raise h.status he
  have hne : c.status ||| e ||| 0x80 ≠ 0 := by simp
  unfold Cia.raise
  dsimp only
  split
  · exact ⟨hs, h.mask, fun _ => rfl, fun _ => hne⟩
  · next hme =>
    have hme' : e &&& c.mask = 0 := by
      rw [UInt8.and_comm]
      simpa using hme
    refine ⟨hs, h.mask, fun hp => h.line_of_pending ?_, fun _ => hne⟩
    rwa [raise_and_mask h.mask, hme', UInt8.or_zero] at hp

theorem IcrOk.raise_if (h : IcrOk c) (b : Bool) {e : UInt8} (he : IsEvent e) :
    IcrOk (if b then c.raise e else c) := by
  cases b
  · exact h
  · exact h.raise he

theorem IcrOk.setClock (h : IcrOk c) (k : Clock) : IcrOk { c with clock := k } :=
  h.of_eq rfl rfl rfl

theorem IcrOk.setTimerA (h : IcrOk c) (t : Timer) : IcrOk { c with timerA := t } :=
  h.of_eq rfl rfl rfl

theorem IcrOk.setTimerB (h : IcrOk c) (t : Timer) : IcrOk { c with timerB := t } :=
  h.of_eq rfl rfl rfl

/-- A new five-bit mask keeps the invariant. -/
theorem IcrOk.setMask (h : IcrOk c) {m : UInt8} (hm : m ≤ 0x1F) :
    IcrOk (if c.status &&& m != 0 then { c with mask := m, irq := true }
      else { c with mask := m }) := by
  split
  · next hp =>
    have hs : c.status ≠ 0 := fun h0 => by simp [h0] at hp
    exact ⟨h.status, hm, fun _ => rfl, fun _ => hs⟩
  · next hp =>
    exact ⟨h.status, hm, fun hp' => absurd (by simpa using hp') hp, h.pending_of_line⟩

/-! ## What a register access changes -/

theorem storeClock_icr (c : Cia) (r v : UInt8) :
    (c.storeClock r v).status = c.status ∧ (c.storeClock r v).mask = c.mask ∧
      (c.storeClock r v).irq = c.irq := by
  unfold storeClock
  dsimp only
  split <;> exact ⟨rfl, rfl, rfl⟩

/-- No register write changes the status. -/
theorem store_status (c : Cia) (reg v : UInt8) : (c.store reg v).status = c.status := by
  unfold Cia.store
  simp only [apply_ite Cia.status, (storeClock_icr _ _ _).1, ite_self]

/-- Only an ICR write changes the mask or the line. -/
theorem store_icr_of_ne (c : Cia) {reg : UInt8} (hr : reg &&& 0x0F ≠ CiaReg.icr) (v : UInt8) :
    (c.store reg v).mask = c.mask ∧ (c.store reg v).irq = c.irq := by
  unfold Cia.store
  simp only [apply_ite Cia.mask, apply_ite Cia.irq, (storeClock_icr _ _ _).2.1,
    (storeClock_icr _ _ _).2.2, ite_self, hr, if_false, and_self]

theorem store_of_icr (c : Cia) {reg : UInt8} (hr : reg &&& 0x0F = CiaReg.icr) (v : UInt8) :
    c.store reg v =
      let mask := if v &&& 0x80 != 0 then c.mask ||| v &&& 0x1F else c.mask &&& ~~~(v &&& 0x1F)
      if c.status &&& mask != 0 then { c with mask := mask, irq := true }
      else { c with mask := mask } := by
  simp only [Cia.store, hr]
  rfl

/-- A read of the ICR returns the status and clears it and the line. -/
theorem fetch_of_icr (c : Cia) {reg : UInt8} (hr : reg &&& 0x0F = CiaReg.icr) :
    c.fetch reg = (c.status, { c with status := 0, irq := false }) := by
  simp only [Cia.fetch, hr]
  rfl

/-- Other reads change at most the clock's frozen time. -/
theorem fetch_icr_of_ne (c : Cia) {reg : UInt8} (hr : reg &&& 0x0F ≠ CiaReg.icr) :
    (c.fetch reg).2.status = c.status ∧ (c.fetch reg).2.mask = c.mask ∧
      (c.fetch reg).2.irq = c.irq := by
  unfold Cia.fetch
  simp only [hr, if_false]
  split_ifs <;> exact ⟨rfl, rfl, rfl⟩

/-! ## Every operation keeps the invariant -/

theorem IcrOk.store (h : IcrOk c) (reg v : UInt8) : IcrOk (c.store reg v) := by
  by_cases hr : reg &&& 0x0F = CiaReg.icr
  · -- the mask write sets or clears the low five bits of the value
    rw [store_of_icr c hr]
    refine h.setMask ?_
    split
    · exact or_le_mask h.mask (and_low_le v)
    · exact and_le_mask h.mask
  · obtain ⟨hm, hi⟩ := store_icr_of_ne c hr v
    exact h.of_eq (store_status c reg v) hm hi

theorem IcrOk.fetch (h : IcrOk c) (reg : UInt8) : IcrOk (c.fetch reg).2 := by
  by_cases hr : reg &&& 0x0F = CiaReg.icr
  · rw [fetch_of_icr c hr]
    exact ⟨.inl rfl, h.mask, fun hp => (hp UInt8.zero_and).elim, fun hl => nomatch hl⟩
  · obtain ⟨hs, hm, hi⟩ := fetch_icr_of_ne c hr
    exact h.of_eq hs hm hi

/-- A cycle keeps the invariant: each of its events goes through `raise`. -/
theorem IcrOk.cycle (h : IcrOk c) : IcrOk c.cycle := by
  unfold Cia.cycle
  split
  next ticked clock _ =>
  extract_lets c0 c1
  have h1 : IcrOk c1 := (h.setClock clock).raise_if _ (.inr (.inr rfl))
  split
  next aUnder c2 hA =>
  have h2 : IcrOk c2 := by
    split at hA
    · split at hA
      next u t _ =>
      cases hA
      exact (h1.setTimerA t).raise_if _ (.inl rfl)
    · cases hA
      exact h1
  extract_lets mode bInput
  split
  · split
    next u t _ => exact (h2.setTimerB t).raise_if _ (.inr (.inl rfl))
  · exact h2

theorem IcrOk.setKey (h : IcrOk c) (column row : Nat) (pressed : Bool) :
    IcrOk (c.setKey column row pressed) := by
  unfold Cia.setKey
  split
  · exact h.of_eq rfl rfl rfl
  · exact h

theorem IcrOk.releaseKeys (h : IcrOk c) : IcrOk c.releaseKeys :=
  h.of_eq rfl rfl rfl

/-! ## Reached states -/

/-- The states the chip reaches from power-on by register writes and reads, cycles and key
changes. -/
inductive Reachable : Cia → Prop
  | new (cps : Nat) : Reachable (Cia.new cps)
  | store {c : Cia} (reg v : UInt8) : Reachable c → Reachable (c.store reg v)
  | fetch {c : Cia} (reg : UInt8) : Reachable c → Reachable (c.fetch reg).2
  | cycle {c : Cia} : Reachable c → Reachable c.cycle
  | setKey {c : Cia} (column row : Nat) (pressed : Bool) :
      Reachable c → Reachable (c.setKey column row pressed)
  | releaseKeys {c : Cia} : Reachable c → Reachable c.releaseKeys

/-- The run lemma: every reached state satisfies the invariant. -/
theorem Reachable.icrOk (hc : Reachable c) : IcrOk c := by
  induction hc with
  | new cps => exact icrOk_new cps
  | store reg v _ ih => exact ih.store reg v
  | fetch reg _ ih => exact ih.fetch reg
  | cycle _ ih => exact ih.cycle
  | setKey column row pressed _ ih => exact ih.setKey column row pressed
  | releaseKeys _ ih => exact ih.releaseKeys

/-- The interrupt control register over every reached state: the status holds only the event
bits and bit 7, bit 7 exactly when not zero; the line is up whenever an enabled event is pending
and only while one is; a read of the ICR returns the status and clears it and the line. -/
theorem icr_invariant (c : Cia) (hc : c.Reachable) :
    c.status &&& ~~~(CiaEvent.timerA ||| CiaEvent.timerB ||| CiaEvent.alarm ||| 0x80) = 0 ∧
      (c.status &&& 0x80 ≠ 0 ↔ c.status ≠ 0) ∧
      (c.status &&& c.mask ≠ 0 → c.irq = true) ∧
      (c.irq = true → c.status ≠ 0) ∧
      ∀ reg : UInt8, reg &&& 0x0F = CiaReg.icr →
        (c.fetch reg).1 = c.status ∧ (c.fetch reg).2.status = 0 ∧ (c.fetch reg).2.irq = false := by
  have h := hc.icrOk
  obtain ⟨hbits, hflag⟩ := (statusOk_iff c.status).1 h.status
  refine ⟨hbits, hflag, h.line_of_pending, h.pending_of_line, fun reg hr => ?_⟩
  rw [fetch_of_icr c hr]
  exact ⟨rfl, rfl, rfl⟩

/-- Timer A, loaded with 1 and started with its event enabled, raises `$81` in one cycle. -/
theorem icr_after_timer_a_underflow :
    let c := ((((Cia.new palCps).store 0x0D 0x81 |>.store 0x04 0x01).store 0x05 0x00).store
      0x0E 0x01).cycle
    c.Reachable ∧ c.status = 0x81 ∧ c.irq = true ∧ (c.fetch 0x1D).1 = 0x81 ∧
      (c.fetch 0x1D).2.irq = false := by
  intro c
  have hc : c.Reachable := (((((Reachable.new _).store _ _).store _ _).store _ _).store _ _).cycle
  have hs : c.status = 0x81 := by decide
  obtain ⟨-, -, -, -, hfetch⟩ := icr_invariant c hc
  obtain ⟨h1, -, h3⟩ := hfetch 0x1D (by decide)
  exact ⟨hc, hs, by decide, h1.trans hs, h3⟩

end Cia

end Breadbox
