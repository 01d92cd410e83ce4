import Breadbox.Proofs.Decoding
import Breadbox.Proofs.TimeKeeping

/-!
# Binary and decimal arithmetic

What ADC, SBC and the compares compute, in exact integer arithmetic. In binary mode: the sum
or difference modulo 256, with C and V for the unsigned and signed overflow. In decimal mode, on
packed BCD operands: the BCD of the decimal result modulo 100. Both nibble corrections come to
one law (`decimal_adjust`).

Main statement (`Exec.step_arithmetic`): these laws for every table entry of ADC, SBC, CMP, CPX
and CPY.
-/

namespace Breadbox

/-- A packed BCD byte: two decimal digits, 00 to 99. -/
def DecimalOk (v : UInt8) : Prop := v &&& 0x0F ≤ 9 ∧ v < 0xA0

instance (v : UInt8) : Decidable (DecimalOk v) := inferInstanceAs (Decidable (_ ∧ _))

theorem decimalOk_iff : ∀ v : UInt8, DecimalOk v ↔ v.toNat % 16 ≤ 9 ∧ v.toNat < 160 := by
  decide +kernel

theorem bcdValue_eq : ∀ v : UInt8, bcdValue v = v.toNat / 16 * 10 + v.toNat % 16 := by
  decide +kernel

theorem toBcd_toNat {n : Nat} (h : n < 100) : (toBcd n).toNat = n / 10 * 16 + n % 10 := by
  simp [toBcd]
  omega

theorem testBit_seven : ∀ v : UInt8, (v &&& 0x80 != 0) = v.toNat.testBit 7 := by
  decide +kernel

theorem carry_eq (c : Bool) : (if c = true then 1 else 0) = c.toNat := by
  cases c <;> rfl

theorem borrow_eq (c : Bool) : (if c = true then (0 : Int) else 1) = 1 - c.toNat := by
  cases c <;> rfl

/-! ## Decimal correction on digits -/

/-- High digits `H` and low digit `L`, adjusted, are the BCD of `10 H + L` modulo 100. -/
theorem decimal_adjust (H L : Int) (hL : 0 ≤ L ∧ L ≤ 9) :
    (16 * H + L + 96 * (H / 10)) % 256 =
      16 * ((10 * H + L) % 100 / 10) + (10 * H + L) % 100 % 10 := by
  -- with `H = 10 q + t`, the adjusted byte is `256 q + 16 t + L`, the decimal one `100 q + 10 t + L`
  have hq : H = 10 * (H / 10) + H % 10 := by omega
  have ht : 0 ≤ H % 10 ∧ H % 10 ≤ 9 := by omega
  generalize H / 10 = q at hq
  generalize H % 10 = t at hq ht
  subst hq
  have h1 : 16 * (10 * q + t) + L + 96 * q = 16 * t + L + 256 * q := by ring
  have h2 : 10 * (10 * q + t) + L = 10 * t + L + 100 * q := by ring
  rw [h1, h2, Int.add_mul_emod_self_left, Int.add_mul_emod_self_left,
    Int.emod_eq_of_lt (by omega) (by omega), Int.emod_eq_of_lt (by omega) (by omega)]
  omega

theorem decimal_adjust_nat (H L : Nat) (hL : L ≤ 9) :
    (16 * H + L + 96 * (H / 10)) % 256 =
      16 * ((10 * H + L) % 100 / 10) + (10 * H + L) % 100 % 10 := by
  exact_mod_cast decimal_adjust H L ⟨by omega, by omega⟩

/-- A decimal sum carries out exactly when its adjusted byte does. -/
theorem decimal_carry {H L : Nat} (hH : H ≤ 19) (hL : L ≤ 9) :
    16 * H + L + 96 * (H / 10) > 255 ↔ 100 ≤ 10 * H + L := by
  rcases Nat.lt_or_ge H 10 with h | h
  · rw [Nat.div_eq_of_lt h]
    omega
  · rw [show H / 10 = 1 by omega]
    omega

/-- The low-nibble correction of an addition: the low digit, plus 16 for its carry. -/
theorem adc_low {low : Nat} (h : low ≤ 19) :
    (if low ≥ 10 then (low + 6) % 16 + 16 else low) = low % 10 + 16 * (low / 10) := by
  split_ifs <;> omega

/-- The low-nibble correction of a subtraction: the low digit, less 16 for its borrow. -/
theorem sbc_low {low : Int} (h : -10 ≤ low ∧ low ≤ 9) :
    (if low < 0 then (low - 6) % 16 - 16 else low) = low % 10 + 16 * (low / 10) := by
  split_ifs <;> omega

theorem adc_high {H L : Nat} (hH : H ≤ 19) (hL : L ≤ 9) :
    (if 16 * H + L ≥ 160 then 16 * H + L + 96 else 16 * H + L) = 16 * H + L + 96 * (H / 10) := by
  split_ifs <;> omega

theorem sbc_high {H L : Int} (hH : -10 ≤ H ∧ H ≤ 9) (hL : 0 ≤ L ∧ L ≤ 9) :
    (if 16 * H + L < 0 then 16 * H + L - 96 else 16 * H + L) = 16 * H + L + 96 * (H / 10) := by
  split_ifs <;> omega

namespace Registers

variable (r : Registers) (m : UInt8)

theorem setZN_flags (q : Registers) (v : UInt8) :
    (q.setZN v).z = decide (v = 0) ∧ (q.setZN v).n = v.toNat.testBit 7 :=
  ⟨Bool.beq_eq_decide_eq v 0, testBit_seven v⟩

/-! ## Binary mode -/

theorem adc_binary (hd : r.d = false) :
    (r.adc m).a.toNat = (r.a.toNat + m.toNat + r.c.toNat) % 256 ∧
      (r.adc m).c = decide (256 ≤ r.a.toNat + m.toNat + r.c.toNat) ∧
      (r.adc m).v = decide (r.a.toBitVec.toInt + m.toBitVec.toInt + r.c.toNat < -128 ∨
        127 < r.a.toBitVec.toInt + m.toBitVec.toInt + r.c.toNat) := by
  have ha := r.a.toNat_lt
  have hm := m.toNat_lt
  have hk := Bool.toNat_le r.c
  simp only [adc, hd, Bool.false_eq_true, ↓reduceIte, setZN, carry_eq]
  refine ⟨by simp, by simp only [decide_eq_decide]; omega, ?_⟩
  simp only [signOf, BitVec.toInt_eq_toNat_cond, UInt8.toNat_toBitVec]
  split_ifs <;> (rw [Bool.eq_iff_iff]; simp; omega)

theorem sbc_binary (hd : r.d = false) :
    ((r.sbc m).a.toNat : Int) = ((r.a.toNat : Int) - m.toNat - (1 - r.c.toNat)) % 256 ∧
      (r.sbc m).c = decide (m.toNat + (1 - r.c.toNat) ≤ r.a.toNat) ∧
      (r.sbc m).v = decide (r.a.toBitVec.toInt - m.toBitVec.toInt - (1 - r.c.toNat) < -128 ∨
        127 < r.a.toBitVec.toInt - m.toBitVec.toInt - (1 - r.c.toNat)) := by
  have ha := r.a.toNat_lt
  have hm := m.toNat_lt
  have hk := Bool.toNat_le r.c
  simp only [sbc, hd, Bool.false_eq_true, ↓reduceIte, setZN, borrow_eq]
  refine ⟨by simp; omega, by simp only [decide_eq_decide]; omega, ?_⟩
  simp only [signOf, BitVec.toInt_eq_toNat_cond, UInt8.toNat_toBitVec]
  split_ifs <;> (rw [Bool.eq_iff_iff]; simp; omega)

/-! ## Decimal mode -/

theorem adc_decimal (hd : r.d = true) (ha : DecimalOk r.a) (hm : DecimalOk m) :
    (r.adc m).a = toBcd ((bcdValue r.a + bcdValue m + r.c.toNat) % 100) ∧
      (r.adc m).c = decide (100 ≤ bcdValue r.a + bcdValue m + r.c.toNat) := by
  rw [decimalOk_iff] at ha hm
  have hk := Bool.toNat_le r.c
  simp only [adc, hd, ↓reduceIte, setZN, carry_eq, bcdValue_eq]
  generalize hlow : r.a.toNat % 16 + m.toNat % 16 + r.c.toNat = low
  rw [adc_low (by omega)]
  obtain ⟨H, hH⟩ : ∃ H, H = r.a.toNat / 16 + m.toNat / 16 + low / 10 := ⟨_, rfl⟩
  have hsum : r.a.toNat / 16 * 16 + m.toNat / 16 * 16 + (low % 10 + 16 * (low / 10)) =
      16 * H + low % 10 := by omega
  have hdec : r.a.toNat / 16 * 10 + r.a.toNat % 16 + (m.toNat / 16 * 10 + m.toNat % 16) +
      r.c.toNat = 10 * H + low % 10 := by omega
  have hH19 : H ≤ 19 := by omega
  have hL : low % 10 ≤ 9 := by omega
  rw [hsum, hdec, adc_high hH19 hL]
  generalize low % 10 = L at hL ⊢
  refine ⟨?_, decide_eq_decide.mpr (decimal_carry hH19 hL)⟩
  rw [← UInt8.toNat_inj, toBcd_toNat (by omega), UInt8.toNat_ofNat', decimal_adjust_nat _ _ hL]
  omega

theorem sbc_decimal (hd : r.d = true) (ha : DecimalOk r.a) (hm : DecimalOk m) :
    (r.sbc m).a = toBcd (((bcdValue r.a : Int) - bcdValue m - (1 - r.c.toNat)) % 100).toNat ∧
      (r.sbc m).c = decide (0 ≤ (bcdValue r.a : Int) - bcdValue m - (1 - r.c.toNat)) := by
  rw [decimalOk_iff] at ha hm
  have hk := Bool.toNat_le r.c
  simp only [sbc, hd, ↓reduceIte, setZN, borrow_eq, bcdValue_eq]
  push_cast
  generalize hlow : (r.a.toNat : Int) % 16 - (m.toNat : Int) % 16 - (1 - (r.c.toNat : Int)) = low
  rw [sbc_low (by omega)]
  obtain ⟨H, hH⟩ : ∃ H : Int, H = (r.a.toNat : Int) / 16 - (m.toNat : Int) / 16 + low / 10 :=
    ⟨_, rfl⟩
  have hdiff : (r.a.toNat : Int) / 16 * 16 - (m.toNat : Int) / 16 * 16 +
      (low % 10 + 16 * (low / 10)) = 16 * H + low % 10 := by omega
  have hdec : (r.a.toNat : Int) / 16 * 10 + (r.a.toNat : Int) % 16 -
      ((m.toNat : Int) / 16 * 10 + (m.toNat : Int) % 16) - (1 - (r.c.toNat : Int)) =
      10 * H + low % 10 := by omega
  have hH9 : -10 ≤ H ∧ H ≤ 9 := by omega
  have hL : 0 ≤ low % 10 ∧ low % 10 ≤ 9 := by omega
  rw [hdiff, hdec, sbc_high hH9 hL, decimal_adjust _ _ hL]
  generalize low % 10 = L at hL ⊢
  -- C comes from the binary difference, which has the decimal one's sign on BCD operands
  refine ⟨?_, by simp only [decide_eq_decide]; omega⟩
  rw [← UInt8.toNat_inj, toBcd_toNat (by omega), UInt8.toNat_ofNat']
  omega

/-! ## Flags -/

theorem adc_flags :
    (r.adc m).z = decide ((r.adc m).a = 0) ∧ (r.adc m).n = (r.adc m).a.toNat.testBit 7 := by
  cases hd : r.d <;> simp only [adc, hd, Bool.false_eq_true, ↓reduceIte] <;>
    exact setZN_flags _ _

theorem sbc_flags :
    (r.sbc m).z = decide ((r.sbc m).a = 0) ∧ (r.sbc m).n = (r.sbc m).a.toNat.testBit 7 :=
  setZN_flags _ _

theorem compare_flags (x : UInt8) :
    (r.compare x m).c = decide (m ≤ x) ∧ (r.compare x m).z = decide (x = m) ∧
      (r.compare x m).n = (x - m).toNat.testBit 7 := by
  obtain ⟨hz, hn⟩ := setZN_flags { r with c := decide (x ≥ m) } (x - m)
  refine ⟨rfl, ?_, hn⟩
  rw [compare, hz]
  simp [sub_eq_zero]

end Registers

namespace Exec

/-- Arithmetic and compares as a step runs them, for every table entry of ADC, SBC, CMP, CPX
and CPY, with `v` the byte at the effective address: the binary and decimal laws, Z and N from
the new A, and compares that set only C, Z and N. -/
theorem step_arithmetic (c : Cpu) (m : FlatRam) {e : Entry}
    (hd : Opcode.decode (m.bytes.get c.regs.pc) = some e) :
    let r := c.regs
    let v := m.bytes.get (e.mode.effective m.bytes.get r)
    let r' := (step.perform c m).2.1.regs
    let k := r.c.toNat
    let sa := r.a.toBitVec.toInt
    let sv := v.toBitVec.toInt
    (e.instruction = .read .adc → r.d = false →
      r'.a.toNat = (r.a.toNat + v.toNat + k) % 256 ∧ r'.c = decide (256 ≤ r.a.toNat + v.toNat + k) ∧
        r'.v = decide (sa + sv + k < -128 ∨ 127 < sa + sv + k)) ∧
    (e.instruction = .read .sbc → r.d = false →
      (r'.a.toNat : Int) = ((r.a.toNat : Int) - v.toNat - (1 - k)) % 256 ∧
        r'.c = decide (v.toNat + (1 - k) ≤ r.a.toNat) ∧
        r'.v = decide (sa - sv - (1 - k) < -128 ∨ 127 < sa - sv - (1 - k))) ∧
    (e.instruction = .read .adc → r.d = true → DecimalOk r.a → DecimalOk v →
      r'.a = toBcd ((bcdValue r.a + bcdValue v + k) % 100) ∧
        r'.c = decide (100 ≤ bcdValue r.a + bcdValue v + k)) ∧
    (e.instruction = .read .sbc → r.d = true → DecimalOk r.a → DecimalOk v →
      r'.a = toBcd (((bcdValue r.a : Int) - bcdValue v - (1 - k)) % 100).toNat ∧
        r'.c = decide (0 ≤ (bcdValue r.a : Int) - bcdValue v - (1 - k))) ∧
    (e.instruction = .read .adc ∨ e.instruction = .read .sbc →
      r'.z = decide (r'.a = 0) ∧ r'.n = r'.a.toNat.testBit 7) ∧
    (∀ op x, (op = .cmp ∧ x = r.a ∨ op = .cpx ∧ x = r.x ∨ op = .cpy ∧ x = r.y) →
      e.instruction = .read op →
      r'.c = decide (v ≤ x) ∧ r'.z = decide (x = v) ∧ r'.n = (x - v).toNat.testBit 7 ∧
        { r' with c := r.c, z := r.z, n := r.n } = { r with pc := r'.pc, cycles := r'.cycles }) := by
  intro r v r' k sa sv
  have hread : ∀ op, e.instruction = .read op →
      r' = { op.apply { r with pc := e.nextPc m.bytes.get r } v with cycles := r'.cycles } := by
    intro op hi
    obtain ⟨h1, -⟩ := step_read_flat c m hd hi
    rw [if_neg (decode_read_not_accumulator hd hi)] at h1
    exact h1
  clear_value r'
  refine ⟨fun hi hdec => ?_, fun hi hdec => ?_, fun hi hdec ha hv => ?_,
    fun hi hdec ha hv => ?_, fun hi => ?_, fun op x hx hi => ?_⟩
  · rw [hread _ hi]
    exact Registers.adc_binary _ v hdec
  · rw [hread _ hi]
    exact Registers.sbc_binary _ v hdec
  · rw [hread _ hi]
    exact Registers.adc_decimal _ v hdec ha hv
  · rw [hread _ hi]
    exact Registers.sbc_decimal _ v hdec ha hv
  · rcases hi with hi | hi <;> rw [hread _ hi]
    · exact Registers.adc_flags _ v
    · exact Registers.sbc_flags _ v
  · rw [hread _ hi]
    have hf := Registers.compare_flags { r with pc := e.nextPc m.bytes.get r } v x
    rcases hx with ⟨rfl, rfl⟩ | ⟨rfl, rfl⟩ | ⟨rfl, rfl⟩ <;>
      exact ⟨hf.1, hf.2.1, hf.2.2, rfl⟩

/-- Decimal SBC #$01 from A = $00 with C set gives $99 and clears C. -/
theorem sbc_decimal_wraps_below_zero :
    let m : FlatRam := { bytes := (Ram.zero.set 0x0200 0xE9).set 0x0201 0x01 }
    let c : Cpu := { regs := { pc := 0x0200, d := true, c := true } }
    (step.perform c m).2.1.regs.a = 0x99 ∧ (step.perform c m).2.1.regs.c = false := by
  intro m c
  have hd : Opcode.decode (m.bytes.get c.regs.pc) = some ⟨.read .sbc, .immediate, 2⟩ := by
    simp only [m, c, Ram.get_set, Ram.get_zero]
    decide +kernel
  have hv : m.bytes.get (AddressMode.immediate.effective m.bytes.get c.regs) = 0x01 := by
    simp only [m, c, AddressMode.effective, Ram.get_set]
    decide +kernel
  obtain ⟨-, -, -, hsbc, -⟩ := step_arithmetic c m hd
  dsimp only at hsbc
  rw [hv] at hsbc
  obtain ⟨ha, hc⟩ := hsbc rfl rfl (by decide) (by decide)
  exact ⟨ha.trans (by decide), hc.trans (by decide)⟩

end Exec

end Breadbox
