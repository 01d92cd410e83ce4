import Breadbox.Proofs.StepCost

/-!
# The time-of-day clock keeps time

A valid 12-hour BCD time names a point of the 24-hour dial in tenths (`TimeOfDay.toTenths`),
and a tick is one more on the dial (`TimeOfDay.advanceTenth_ofTenths`). At ten or more cycles per
second the clock keeps time (`Clock.KeepsTime`); below ten it runs slow (`Clock.RunsSlow`).
-/

namespace Breadbox

/-- The number a BCD byte stands for, its high digit times ten plus its low one. -/
def bcdValue (v : UInt8) : Nat := (v >>> 4).toNat * 10 + (v &&& 0x0F).toNat

/-- The BCD byte of a number below 100. -/
def toBcd (n : Nat) : UInt8 := UInt8.ofNat (n / 10 * 16 + n % 10)

namespace TimeOfDay

/-- Tenths of a second in a day. -/
def dayTenths : Nat := 864000

/-- The hour of the 24-hour dial that a 12-hour BCD hours byte names. -/
def hour24 (h : UInt8) : Nat := bcdValue (h &&& 0x1F) % 12 + if h &&& 0x80 = 0 then 0 else 12

/-- The 12-hour BCD hours byte of an hour of the 24-hour dial, bit 7 for PM. -/
def hours12 (h : Nat) : UInt8 :=
  toBcd (if h % 12 = 0 then 12 else h % 12) ||| if h < 12 then 0 else 0x80

/-- The hours of a valid time: 01 to 12 in BCD, with bit 7 for PM. -/
def HoursOk (h : UInt8) : Prop :=
  (1 ≤ h &&& 0x7F ∧ h &&& 0x7F ≤ 0x09) ∨ (0x10 ≤ h &&& 0x7F ∧ h &&& 0x7F ≤ 0x12)

instance (h : UInt8) : Decidable (HoursOk h) := inferInstanceAs (Decidable (_ ∨ _))

/-- The seconds or minutes of a valid time: 00 to 59 in BCD. -/
def SexagesimalOk (v : UInt8) : Prop := v &&& 0x0F ≤ 9 ∧ v < 0x60

instance (v : UInt8) : Decidable (SexagesimalOk v) := inferInstanceAs (Decidable (_ ∧ _))

/-- Tenths of a second since midnight. -/
def toTenths (t : TimeOfDay) : Nat :=
  ((hour24 t.hours * 60 + bcdValue t.minutes) * 60 + bcdValue t.seconds) * 10 + t.tenths.toNat

/-- The time `x` tenths of a second after midnight, in 12-hour BCD. -/
def ofTenths (x : Nat) : TimeOfDay :=
  { tenths := UInt8.ofNat (x % 10), seconds := toBcd (x / 10 % 60),
    minutes := toBcd (x / 600 % 60), hours := hours12 (x / 36000 % 24) }

/-! ## The fields, one byte at a time -/

theorem toBcd_bcdValue :
    ∀ v : UInt8, SexagesimalOk v → toBcd (bcdValue v) = v ∧ bcdValue v < 60 := by
  decide +kernel

theorem hours12_hour24 : ∀ h : UInt8, HoursOk h → hours12 (hour24 h) = h ∧ hour24 h < 24 := by
  decide +kernel

theorem sexagesimalOk_toBcd : ∀ s : Fin 60, SexagesimalOk (toBcd s) := by
  decide

theorem hoursOk_hours12 : ∀ h : Fin 24, HoursOk (hours12 h) := by
  decide

theorem tenths_ofNat : ∀ d : Fin 10, UInt8.ofNat d.val ≤ 9 ∧
    (9 ≤ UInt8.ofNat d.val ↔ d.val = 9) ∧
    UInt8.ofNat d.val + 1 = UInt8.ofNat (d.val + 1) := by
  decide

/-- Seconds and minutes carry at 59. -/
theorem bcdIncrement_toBcd : ∀ s : Fin 60,
    (bcdIncrement (toBcd s) < 0x60 ↔ s.val < 59) ∧
      (s.val < 59 → bcdIncrement (toBcd s) = toBcd (s.val + 1)) := by
  decide

/-- The hours after the last minute of an hour, as a second's advance computes them. -/
theorem nextHour_hours12 : ∀ h : Fin 24,
    (if hours12 h &&& 0x1F = 0x11 then 0x12 ||| (hours12 h &&& 0x80 ^^^ 0x80)
      else if hours12 h &&& 0x1F = 0x12 then 0x01 ||| hours12 h &&& 0x80
      else bcdIncrement (hours12 h &&& 0x1F) ||| hours12 h &&& 0x80) =
      hours12 ((h.val + 1) % 24) := by
  decide

/-! ## The dial -/

/-- A valid time of day in BCD, hours 01 to 12 with bit 7 for PM. -/
structure Valid (t : TimeOfDay) : Prop where
  tenths : t.tenths ≤ 9
  seconds : SexagesimalOk t.seconds
  minutes : SexagesimalOk t.minutes
  hours : HoursOk t.hours

instance (t : TimeOfDay) : Decidable t.Valid :=
  decidable_of_iff (t.tenths ≤ 9 ∧ SexagesimalOk t.seconds ∧ SexagesimalOk t.minutes ∧
      HoursOk t.hours)
    ⟨fun ⟨h1, h2, h3, h4⟩ => ⟨h1, h2, h3, h4⟩,
      fun ⟨h1, h2, h3, h4⟩ => ⟨h1, h2, h3, h4⟩⟩

theorem Valid.toTenths_lt {t : TimeOfDay} (h : t.Valid) : t.toTenths < dayTenths := by
  have hs := (toBcd_bcdValue _ h.seconds).2
  have hm := (toBcd_bcdValue _ h.minutes).2
  have hh := (hours12_hour24 _ h.hours).2
  have ht : t.tenths.toNat ≤ 9 := h.tenths
  unfold toTenths dayTenths
  omega

/-- A count written in the dial's digits: tenths, seconds, minutes, hours. -/
theorem ofTenths_digits {d0 d1 d2 d3 : Nat} (h0 : d0 < 10) (h1 : d1 < 60) (h2 : d2 < 60)
    (h3 : d3 < 24) :
    ofTenths (d0 + 10 * (d1 + 60 * (d2 + 60 * d3))) =
      ⟨UInt8.ofNat d0, toBcd d1, toBcd d2, hours12 d3⟩ := by
  have e0 : (d0 + 10 * (d1 + 60 * (d2 + 60 * d3))) % 10 = d0 := by omega
  have e1 : (d0 + 10 * (d1 + 60 * (d2 + 60 * d3))) / 10 % 60 = d1 := by omega
  have e2 : (d0 + 10 * (d1 + 60 * (d2 + 60 * d3))) / 600 % 60 = d2 := by omega
  have e3 : (d0 + 10 * (d1 + 60 * (d2 + 60 * d3))) / 36000 % 24 = d3 := by omega
  simp only [ofTenths, e0, e1, e2, e3]

/-- A valid time is the time of its own count of tenths. -/
theorem Valid.ofTenths_toTenths {t : TimeOfDay} (h : t.Valid) : ofTenths t.toTenths = t := by
  obtain ⟨hs, hs60⟩ := toBcd_bcdValue _ h.seconds
  obtain ⟨hm, hm60⟩ := toBcd_bcdValue _ h.minutes
  obtain ⟨hh, hh24⟩ := hours12_hour24 _ h.hours
  have ht : t.tenths.toNat ≤ 9 := h.tenths
  have e : t.toTenths = t.tenths.toNat +
      10 * (bcdValue t.seconds + 60 * (bcdValue t.minutes + 60 * hour24 t.hours)) := by
    unfold toTenths
    omega
  rw [e, ofTenths_digits (by omega) hs60 hm60 hh24, hs, hm, hh, UInt8.ofNat_toNat]

theorem valid_ofTenths (x : Nat) : (ofTenths x).Valid where
  tenths := (tenths_ofNat ⟨x % 10, Nat.mod_lt _ (by decide)⟩).1
  seconds := sexagesimalOk_toBcd ⟨x / 10 % 60, Nat.mod_lt _ (by decide)⟩
  minutes := sexagesimalOk_toBcd ⟨x / 600 % 60, Nat.mod_lt _ (by decide)⟩
  hours := hoursOk_hours12 ⟨x / 36000 % 24, Nat.mod_lt _ (by decide)⟩

/-- The step lemma of the dial: a tenth later is one more tenth, modulo a day. -/
theorem advanceTenth_ofTenths {x : Nat} (hx : x < dayTenths) :
    (ofTenths x).advanceTenth = ofTenths ((x + 1) % dayTenths) := by
  unfold dayTenths at *
  have hd := tenths_ofNat ⟨x % 10, Nat.mod_lt _ (by decide)⟩
  have hs := bcdIncrement_toBcd ⟨x / 10 % 60, Nat.mod_lt _ (by decide)⟩
  have hm := bcdIncrement_toBcd ⟨x / 600 % 60, Nat.mod_lt _ (by decide)⟩
  have hh := nextHour_hours12 ⟨x / 36000 % 24, Nat.mod_lt _ (by decide)⟩
  dsimp only at hd hs hm hh
  have e : ofTenths x = ⟨UInt8.ofNat (x % 10), toBcd (x / 10 % 60), toBcd (x / 600 % 60),
      hours12 (x / 36000 % 24)⟩ := rfl
  rw [e]
  unfold advanceTenth advanceSecond
  dsimp only
  by_cases ht : x % 10 = 9
  · rw [if_pos (hd.2.1.2 ht)]
    by_cases hs59 : x / 10 % 60 = 59
    · rw [if_neg (fun h => absurd (hs.1.1 h) (by omega))]
      by_cases hm59 : x / 600 % 60 = 59
      · -- the hour turns
        rw [if_neg (fun h => absurd (hm.1.1 h) (by omega)), hh]
        have e' : (x + 1) % 864000 =
            0 + 10 * (0 + 60 * (0 + 60 * ((x / 36000 % 24 + 1) % 24))) := by
          omega
        rw [e', ofTenths_digits (by decide) (by decide) (by decide) (Nat.mod_lt _ (by decide))]
        rfl
      · -- the minute turns
        rw [if_pos (hm.1.2 (by omega)), hm.2 (by omega)]
        have e' : (x + 1) % 864000 =
            0 + 10 * (0 + 60 * ((x / 600 % 60 + 1) + 60 * (x / 36000 % 24))) := by
          omega
        rw [e', ofTenths_digits (by decide) (by decide) (by omega) (Nat.mod_lt _ (by decide))]
        rfl
    · -- the second turns
      rw [if_pos (hs.1.2 (by omega)), hs.2 (by omega)]
      have e' : (x + 1) % 864000 =
          0 + 10 * ((x / 10 % 60 + 1) + 60 * (x / 600 % 60 + 60 * (x / 36000 % 24))) := by
        omega
      rw [e', ofTenths_digits (by decide) (by omega) (Nat.mod_lt _ (by decide))
        (Nat.mod_lt _ (by decide))]
      rfl
  · -- only the tenths move
    rw [if_neg (fun h => ht (hd.2.1.1 h)), hd.2.2]
    have e' : (x + 1) % 864000 =
        (x % 10 + 1) + 10 * (x / 10 % 60 + 60 * (x / 600 % 60 + 60 * (x / 36000 % 24))) := by
      omega
    rw [e', ofTenths_digits (by omega) (Nat.mod_lt _ (by decide)) (Nat.mod_lt _ (by decide))
      (Nat.mod_lt _ (by decide))]

end TimeOfDay

namespace Clock

variable {k : Clock}

/-- A tick leaves the rate and the running state alone. -/
theorem tick_frame (k : Clock) : k.tick.2.cps = k.cps ∧ k.tick.2.stopped = k.stopped := by
  unfold tick
  split
  · exact ⟨rfl, rfl⟩
  · dsimp only
    split <;> exact ⟨rfl, rfl⟩

@[simp] theorem tick_cps (k : Clock) : k.tick.2.cps = k.cps := (tick_frame k).1

@[simp] theorem tick_stopped (k : Clock) : k.tick.2.stopped = k.stopped := (tick_frame k).2

/-- A running clock's tick: 10 more in the account, paid for a tenth at the cycles per second. -/
theorem tick_of_running (hs : k.stopped = false) :
    k.tick.2.overflowed = (k.overflowed || decide (accountMax < k.account + 10)) ∧
      (k.account + 10 < k.cps → k.tick.2.account = k.account + 10 ∧ k.tick.2.time = k.time) ∧
      (k.cps ≤ k.account + 10 →
        k.tick.2.account = k.account + 10 - k.cps ∧ k.tick.2.time = k.time.advanceTenth) := by
  unfold tick
  rw [if_neg (by simp [hs])]
  dsimp only
  refine ⟨by split <;> rfl, fun h => by rw [if_pos h]; exact ⟨rfl, rfl⟩,
    fun h => by rw [if_neg (by omega)]; exact ⟨rfl, rfl⟩⟩

/-- Two clocks that count alike; the alarm and the read latch may differ. -/
structure SameCount (k' k : Clock) : Prop where
  time : k'.time = k.time
  stopped : k'.stopped = k.stopped
  cps : k'.cps = k.cps
  account : k'.account = k.account
  overflowed : k'.overflowed = k.overflowed

theorem SameCount.refl (k : Clock) : SameCount k k :=
  ⟨rfl, rfl, rfl, rfl, rfl⟩

/-- The clock `n` cycles after it started at `t`, at ten or more cycles per second. -/
structure KeepsTime (t : TimeOfDay) (n : Nat) (k : Clock) : Prop where
  running : k.stopped = false
  sound : k.overflowed = false
  account : k.account = 10 * n % k.cps
  time : k.time = TimeOfDay.ofTenths ((t.toTenths + 10 * n / k.cps) % TimeOfDay.dayTenths)

/-- The clock `n` cycles after it started at `t`, below ten cycles per second. -/
structure RunsSlow (t : TimeOfDay) (n : Nat) (k : Clock) : Prop where
  running : k.stopped = false
  sound : k.overflowed = false
  account : k.account = (10 - k.cps) * n
  time : k.time = TimeOfDay.ofTenths ((t.toTenths + n) % TimeOfDay.dayTenths)

/-- Adding 10 to a count modulo at least 10 carries at most once. -/
theorem div_mod_add_ten {d : Nat} (hd : 10 ≤ d) (y : Nat) :
    (y % d + 10 < d → (y + 10) / d = y / d ∧ (y + 10) % d = y % d + 10) ∧
      (d ≤ y % d + 10 → (y + 10) / d = y / d + 1 ∧ (y + 10) % d = y % d + 10 - d) := by
  have hy := Nat.mod_add_div y d
  have hlt := Nat.mod_lt y (show 0 < d by omega)
  refine ⟨fun h => (Nat.div_mod_unique (by omega)).2 ⟨by omega, h⟩,
    fun h => (Nat.div_mod_unique (by omega)).2 ⟨?_, by omega⟩⟩
  rw [Nat.mul_succ]
  omega

/-- A tenth advanced on the dial from a point of it. -/
theorem advanceTenth_mod {x : Nat} :
    (TimeOfDay.ofTenths (x % TimeOfDay.dayTenths)).advanceTenth =
      TimeOfDay.ofTenths ((x + 1) % TimeOfDay.dayTenths) := by
  rw [TimeOfDay.advanceTenth_ofTenths (Nat.mod_lt _ (by decide))]
  congr 1
  unfold TimeOfDay.dayTenths
  omega

theorem KeepsTime.start {t : TimeOfDay} (hv : t.Valid) (hs : k.stopped = false)
    (ha : k.account = 0) (ho : k.overflowed = false) (ht : k.time = t) : KeepsTime t 0 k where
  running := hs
  sound := ho
  account := by rw [ha, Nat.mul_zero, Nat.zero_mod]
  time := by rw [ht, Nat.mul_zero, Nat.zero_div, Nat.add_zero, Nat.mod_eq_of_lt hv.toTenths_lt,
    hv.ofTenths_toTenths]

/-- The step lemma at ten or more cycles per second. -/
theorem KeepsTime.tick {t : TimeOfDay} {n : Nat} (h : KeepsTime t n k) (hlo : 10 ≤ k.cps)
    (hhi : k.cps + 9 ≤ accountMax) : KeepsTime t (n + 1) k.tick.2 := by
  obtain ⟨ho, hlt, hge⟩ := tick_of_running h.running
  have hacc := Nat.mod_lt (10 * n) k.cps_pos
  have hd := div_mod_add_ten hlo (10 * n)
  rw [← h.account] at hd hacc
  have e : 10 * (n + 1) = 10 * n + 10 := by omega
  refine ⟨by rw [tick_stopped, h.running], ?_, ?_, ?_⟩
  · -- the account stays below `cps`, so the addition fits in 32 bits
    rw [ho, h.sound, Bool.false_or]
    exact decide_eq_false (by unfold accountMax at hhi ⊢; omega)
  · rw [tick_cps, e]
    by_cases hc : k.account + 10 < k.cps
    · rw [(hlt hc).1, (hd.1 hc).2]
    · rw [(hge (by omega)).1, (hd.2 (by omega)).2]
  · rw [tick_cps, e]
    by_cases hc : k.account + 10 < k.cps
    · rw [(hlt hc).2, (hd.1 hc).1, h.time]
    · -- the tenth paid for moves the time one tenth on
      rw [(hge (by omega)).2, (hd.2 (by omega)).1, h.time, advanceTenth_mod, Nat.add_assoc]

theorem RunsSlow.start {t : TimeOfDay} (hv : t.Valid) (hs : k.stopped = false)
    (ha : k.account = 0) (ho : k.overflowed = false) (ht : k.time = t) : RunsSlow t 0 k where
  running := hs
  sound := ho
  account := by rw [ha, Nat.mul_zero]
  time := by rw [ht, Nat.add_zero, Nat.mod_eq_of_lt hv.toTenths_lt, hv.ofTenths_toTenths]

/-- The step lemma below ten cycles per second: every cycle pays for a tenth. -/
theorem RunsSlow.tick {t : TimeOfDay} {n : Nat} (h : RunsSlow t n k) (hc : k.cps < 10)
    (hn : 10 * (n + 1) ≤ accountMax) : RunsSlow t (n + 1) k.tick.2 := by
  obtain ⟨ho, -, hge⟩ := tick_of_running h.running
  have hle : (10 - k.cps) * n ≤ 10 * n := Nat.mul_le_mul_right n (Nat.sub_le 10 k.cps)
  obtain ⟨ha, htime⟩ := hge (by omega)
  refine ⟨by rw [tick_stopped, h.running], ?_, ?_, ?_⟩
  · rw [ho, h.sound, h.account, Bool.false_or]
    exact decide_eq_false (by unfold accountMax at hn ⊢; omega)
  · rw [ha, tick_cps, h.account, Nat.mul_succ]
    omega
  · rw [htime, h.time, advanceTenth_mod, Nat.add_assoc]

theorem KeepsTime.of_same {t : TimeOfDay} {n : Nat} {k' : Clock} (h : KeepsTime t n k)
    (hk : SameCount k' k) : KeepsTime t n k' :=
  ⟨hk.stopped ▸ h.running, hk.overflowed ▸ h.sound, by rw [hk.account, hk.cps, h.account],
    by rw [hk.time, hk.cps, h.time]⟩

theorem RunsSlow.of_same {t : TimeOfDay} {n : Nat} {k' : Clock} (h : RunsSlow t n k)
    (hk : SameCount k' k) : RunsSlow t n k' :=
  ⟨hk.stopped ▸ h.running, hk.overflowed ▸ h.sound, by rw [hk.account, hk.cps, h.account],
    by rw [hk.time, h.time]⟩

end Clock

namespace Cia

variable (c : Cia)

theorem raise_clock (e : UInt8) : (c.raise e).clock = c.clock := by
  simp only [raise, apply_ite Cia.clock]
  exact ite_self _

/-- Of a cycle, only the clock's tick reaches the clock. -/
theorem cycle_clock : c.cycle.clock = c.clock.tick.2 := by
  unfold Cia.cycle
  split
  next ticked clock htick =>
  extract_lets c0 c1
  have h1 : c1.clock = clock := by
    simp only [c1, c0]
    split <;> simp [raise_clock]
  split
  next aUnder c2 hA =>
  have h2 : c2.clock = clock := by
    split at hA
    · split at hA
      next u t _ =>
      cases hA
      split <;> simp [raise_clock, h1]
    · cases hA
      exact h1
  extract_lets mode bInput
  rw [htick]
  split
  · split
    next u t _ => split <;> simp [raise_clock, h2]
  · exact h2

theorem store_clock_of_ne {reg : UInt8} (v : UInt8)
    (hr : reg &&& 0x0F < CiaReg.todTen ∨ CiaReg.todHrs < reg &&& 0x0F) :
    (c.store reg v).clock = c.clock := by
  have hcases : ∀ r : UInt8, r ≤ 0x0F → r < CiaReg.todTen ∨ CiaReg.todHrs < r →
      r = 0 ∨ r = 1 ∨ r = 2 ∨ r = 3 ∨ r = 4 ∨ r = 5 ∨ r = 6 ∨ r = 7 ∨ r = 12 ∨
        r = 13 ∨ r = 14 ∨ r = 15 := by
    decide +kernel
  have hle : reg &&& 0x0F ≤ 0x0F := UInt8.and_le_right
  unfold Cia.store
  rcases hcases _ hle hr with h | h | h | h | h | h | h | h | h | h | h | h <;>
    simp [h, CiaReg.pra, CiaReg.prb, CiaReg.ddra, CiaReg.ddrb, CiaReg.taLo, CiaReg.taHi,
      CiaReg.tbLo, CiaReg.tbHi, CiaReg.todHrs, CiaReg.sdr, CiaReg.icr, CiaReg.cra,
      apply_ite Cia.clock]

/-- A write to the tenths sets them and starts the clock. -/
theorem store_todTen {reg : UInt8} (v : UInt8) (hr : reg &&& 0x0F = CiaReg.todTen)
    (ha : c.timerB.control &&& 0x80 = 0) :
    (c.store reg v).clock =
      { c.clock with time := { c.clock.time with tenths := v &&& 0x0F } }.start := by
  simp [Cia.store, Cia.storeClock, hr, ha, CiaReg.pra, CiaReg.prb, CiaReg.ddra, CiaReg.ddrb,
    CiaReg.taLo, CiaReg.taHi, CiaReg.tbLo, CiaReg.tbHi, CiaReg.todTen, CiaReg.todHrs]

/-- A write to the hours of a stopped clock sets them and starts it. -/
theorem store_todHrs {reg : UInt8} (v : UInt8) (hr : reg &&& 0x0F = CiaReg.todHrs)
    (ha : c.timerB.control &&& 0x80 = 0) (hs : c.clock.stopped = true) :
    (c.store reg v).clock =
      { c.clock with time := { c.clock.time with hours := v &&& 0x9F } }.start := by
  simp [Cia.store, Cia.storeClock, Clock.toggle, hr, ha, hs, CiaReg.pra, CiaReg.prb, CiaReg.ddra,
    CiaReg.ddrb, CiaReg.taLo, CiaReg.taHi, CiaReg.tbLo, CiaReg.tbHi, CiaReg.todTen, CiaReg.todSec,
    CiaReg.todMin, CiaReg.todHrs]

/-- A read moves at most the read latch. -/
theorem fetch_clock (reg : UInt8) : (c.fetch reg).2.clock.SameCount c.clock := by
  unfold Cia.fetch
  dsimp only
  split
  · exact ⟨rfl, rfl, rfl, rfl, rfl⟩
  · split
    · exact ⟨rfl, rfl, rfl, rfl, rfl⟩
    · split <;> exact .refl _

theorem setKey_clock (column row : Nat) (pressed : Bool) :
    (c.setKey column row pressed).clock = c.clock := by
  unfold Cia.setKey
  split <;> rfl

/-- Runs of the chip from a start of its clock at `t`, `n` cycles ago, with no clock write since. -/
inductive TodRun : TimeOfDay → Nat → Cia → Prop
  | startTenths (c : Cia) (reg v : UInt8) (hr : reg &&& 0x0F = CiaReg.todTen)
      (ha : c.timerB.control &&& 0x80 = 0) (ho : c.clock.overflowed = false) :
      TodRun (c.store reg v).clock.time 0 (c.store reg v)
  | startHours (c : Cia) (reg v : UInt8) (hr : reg &&& 0x0F = CiaReg.todHrs)
      (ha : c.timerB.control &&& 0x80 = 0) (hs : c.clock.stopped = true)
      (ho : c.clock.overflowed = false) :
      TodRun (c.store reg v).clock.time 0 (c.store reg v)
  | cycle {t : TimeOfDay} {n : Nat} {c : Cia} : TodRun t n c → TodRun t (n + 1) c.cycle
  | store {t : TimeOfDay} {n : Nat} {c : Cia} (reg v : UInt8)
      (hr : reg &&& 0x0F < CiaReg.todTen ∨ CiaReg.todHrs < reg &&& 0x0F) :
      TodRun t n c → TodRun t n (c.store reg v)
  | fetch {t : TimeOfDay} {n : Nat} {c : Cia} (reg : UInt8) :
      TodRun t n c → TodRun t n (c.fetch reg).2
  | setKey {t : TimeOfDay} {n : Nat} {c : Cia} (column row : Nat) (pressed : Bool) :
      TodRun t n c → TodRun t n (c.setKey column row pressed)
  | releaseKeys {t : TimeOfDay} {n : Nat} {c : Cia} : TodRun t n c → TodRun t n c.releaseKeys

namespace TodRun

variable {t : TimeOfDay} {n : Nat} {c : Cia}

/-- The chip's cycles as a machine step runs them. -/
theorem cycles (h : TodRun t n c) (k : Nat) : TodRun t (n + k) (Cia.cycles k c) := by
  rw [Cia.cycles_eq_iterate]
  induction k with
  | zero => exact h
  | succ k ih =>
    rw [Function.iterate_succ_apply']
    exact ih.cycle

/-- What a start gives and a tick and every other access keep holds along every run. -/
theorem clock_induction {P : TimeOfDay → Nat → Clock → Prop}
    (hstart : ∀ k : Clock, k.stopped = false → k.account = 0 → k.overflowed = false →
      P k.time 0 k)
    (htick : ∀ t n k, P t n k → P t (n + 1) k.tick.2)
    (hsame : ∀ t n k k', P t n k → k'.SameCount k → P t n k') (h : TodRun t n c) :
    P t n c.clock := by
  induction h with
  | startTenths c reg v hr ha ho =>
    rw [store_todTen c v hr ha]
    exact hstart _ rfl rfl ho
  | startHours c reg v hr ha hs ho =>
    rw [store_todHrs c v hr ha hs]
    exact hstart _ rfl rfl ho
  | cycle _ ih =>
    rw [cycle_clock]
    exact htick _ _ _ ih
  | store reg v hr _ ih =>
    rw [store_clock_of_ne _ v hr]
    exact ih
  | fetch reg _ ih => exact hsame _ _ _ _ ih (fetch_clock _ reg)
  | setKey column row pressed _ ih =>
    rw [setKey_clock]
    exact ih
  | releaseKeys _ ih => exact ih

end TodRun

/-- The time of day along a run from a start at a valid time `t`, `n` cycles ago: at ten or more
cycles per second the live time is `t` advanced by `10 n / cps` tenths, valid, with `10 n % cps`
in the account and no overflow; below ten it advances a tenth per cycle. -/
theorem tod_keeps_time {t : TimeOfDay} {n : Nat} {c : Cia} (hrun : TodRun t n c)
    (hv : t.Valid) :
    (10 ≤ c.clock.cps → c.clock.cps + 9 ≤ accountMax →
      c.clock.time =
          TimeOfDay.ofTenths ((t.toTenths + 10 * n / c.clock.cps) % TimeOfDay.dayTenths) ∧
        c.clock.time.Valid ∧ c.clock.account = 10 * n % c.clock.cps ∧
        c.clock.account < c.clock.cps ∧ c.clock.overflowed = false) ∧
    (c.clock.cps < 10 → 10 * n ≤ accountMax →
      c.clock.time = TimeOfDay.ofTenths ((t.toTenths + n) % TimeOfDay.dayTenths) ∧
        c.clock.account = (10 - c.clock.cps) * n ∧ c.clock.overflowed = false) := by
  have hkeep := hrun.clock_induction
    (P := fun t n k => t.Valid → 10 ≤ k.cps → k.cps + 9 ≤ accountMax → k.KeepsTime t n)
    (fun k hs ha ho hv _ _ => .start hv hs ha ho rfl)
    (fun _ _ k ih hv hlo hhi => by
      rw [Clock.tick_cps] at hlo hhi
      exact (ih hv hlo hhi).tick hlo hhi)
    (fun _ _ _ _ ih hk hv hlo hhi => (ih hv (hk.cps ▸ hlo) (hk.cps ▸ hhi)).of_same hk) hv
  have hslow := hrun.clock_induction
    (P := fun t n k => t.Valid → k.cps < 10 → 10 * n ≤ accountMax → k.RunsSlow t n)
    (fun k hs ha ho hv _ _ => .start hv hs ha ho rfl)
    (fun _ n k ih hv hc hn => by
      rw [Clock.tick_cps] at hc
      exact (ih hv hc (by omega)).tick hc hn)
    (fun _ _ _ _ ih hk hv hc hn => (ih hv (hk.cps ▸ hc) hn).of_same hk) hv
  refine ⟨fun hlo hhi => ?_, fun hc hn => ?_⟩
  · have h := hkeep hlo hhi
    refine ⟨h.time, h.time ▸ TimeOfDay.valid_ofTenths _, h.account, ?_, h.sound⟩
    rw [h.account]
    exact Nat.mod_lt _ c.clock.cps_pos
  · have h := hslow hc hn
    exact ⟨h.time, h.account, h.sound⟩

theorem tod_from_midnight :
    let c0 := (Cia.new Cia.palCps).store 0x0B 0x12
    let c := Cia.cycles 3 c0
    let t := c0.clock.time
    TodRun t 3 c ∧ t.Valid ∧
    (10 ≤ c.clock.cps → c.clock.cps + 9 ≤ accountMax →
      c.clock.time =
          TimeOfDay.ofTenths ((t.toTenths + 10 * 3 / c.clock.cps) % TimeOfDay.dayTenths) ∧
        c.clock.time.Valid ∧ c.clock.account = 10 * 3 % c.clock.cps ∧
        c.clock.account < c.clock.cps ∧ c.clock.overflowed = false) ∧
    (c.clock.cps < 10 → 10 * 3 ≤ accountMax →
      c.clock.time = TimeOfDay.ofTenths ((t.toTenths + 3) % TimeOfDay.dayTenths) ∧
        c.clock.account = (10 - c.clock.cps) * 3 ∧ c.clock.overflowed = false) := by
  intro c0 c t
  have hrun : TodRun t 3 c :=
    (TodRun.startHours (Cia.new Cia.palCps) 0x0B 0x12 (by decide) rfl rfl rfl).cycles 3
  have hv : t.Valid := by decide
  exact ⟨hrun, hv, tod_keeps_time hrun hv⟩

/-- At one cycle per second a cycle moves the clock one tenth, not ten. -/
theorem tod_slow_at_one_cycle_per_second :
    let c0 := ((Cia.new 1).store 0x0B 0x01).store 0x08 0x00
    let c := c0.cycle
    let t : TimeOfDay := { hours := 0x01 }
    TodRun t 1 c ∧ t.Valid ∧ c.clock.cps = 1 ∧
      TimeOfDay.ofTenths ((t.toTenths + 10 * 1 / c.clock.cps) % TimeOfDay.dayTenths) =
        { seconds := 0x01, hours := 0x01 } ∧
      c.clock.time = { tenths := 1, hours := 0x01 } ∧ c.clock.account = 9 := by
  intro c0 c t
  have ht : c0.clock.time = t := by decide
  have hrun : TodRun c0.clock.time 0 c0 :=
    .startTenths ((Cia.new 1).store 0x0B 0x01) 0x08 0x00 (by decide) (by decide) rfl
  rw [ht] at hrun
  exact ⟨hrun.cycle, by decide, by decide, by decide, by decide, by decide⟩

end Cia

end Breadbox
