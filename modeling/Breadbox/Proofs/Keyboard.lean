import Breadbox.Proofs.PixelLaw

/-!
# The keyboard matrix and port B

The keyboard is an 8 × 8 matrix between the column lines on port A and the row lines on port
B. A key's state is decided by the last access that set it or released all keys
(`keyDown_applyAll`), and port B reads an input row low under a pressed key in a driven-low
column (`testBit_linesB`). Main statement (`keyboard_matrix`).
-/

namespace Breadbox

namespace Cia

/-- Whether the key at a column and row is down. -/
def keyDown (c : Cia) (column row : Nat) : Bool :=
  if h : column < 8 then c.keys[column].toNat.testBit row else false

/-! ## Bits of a byte -/

section Bits

theorem testBit_toNat_eq (v : UInt8) (j : Nat) : v.toNat.testBit j = v.toBitVec.getLsbD j := rfl

theorem one_shiftLeft {k : Nat} (hk : k < 8) :
    (1 : UInt8) <<< k.toUInt8 = UInt8.ofNat (2 ^ k) := by
  interval_cases k <;> rfl

theorem getLsbD_ofNat_two_pow {k : Nat} (hk : k < 8) (j : Nat) :
    (UInt8.ofNat (2 ^ k)).toBitVec.getLsbD j = decide (k = j) := by
  rw [UInt8.toBitVec_ofNat', BitVec.getLsbD_ofNat, Nat.testBit_two_pow]
  by_cases h : k = j
  · subst h
    simp [hk]
  · simp [h]

/-- Setting or clearing one bit of a byte, the other bits kept. -/
theorem testBit_setBit (v : UInt8) {k : Nat} (hk : k < 8) (p : Bool) (j : Nat) :
    (if p then v ||| UInt8.ofNat (2 ^ k) else v &&& ~~~UInt8.ofNat (2 ^ k)).toNat.testBit j =
      if k = j then p else v.toNat.testBit j := by
  cases p with
  | true =>
    simp only [if_true, testBit_toNat_eq, UInt8.toBitVec_or, BitVec.getLsbD_or,
      getLsbD_ofNat_two_pow hk]
    by_cases h : k = j <;> simp [h]
  | false =>
    simp only [Bool.false_eq_true, if_false, testBit_toNat_eq, UInt8.toBitVec_and,
      UInt8.toBitVec_not, BitVec.getLsbD_and, BitVec.getLsbD_not, getLsbD_ofNat_two_pow hk]
    by_cases hj : j < 8
    · by_cases h : k = j <;> simp [h, hj]
    · -- a bit past the byte is clear on both sides
      have h : k ≠ j := by omega
      simp [h, BitVec.getLsbD_of_ge v.toBitVec j (by omega)]

/-- Port A drives column `i` low exactly when bit `i` of the lines is clear. -/
theorem and_one_shiftLeft_eq_zero (cols : UInt8) (i : Fin 8) :
    cols &&& (1 : UInt8) <<< i.val.toUInt8 = 0 ↔ cols.toNat.testBit i = false := by
  rw [one_shiftLeft i.isLt]
  exact Picture.bit_eq_zero cols i.isLt

end Bits

/-! ## The matrix under each access -/

variable (c : Cia)

/-- A key outside the matrix is never down. -/
theorem keyDown_of_outside {column row : Nat} (h : ¬ (column < 8 ∧ row < 8)) :
    c.keyDown column row = false := by
  unfold keyDown
  split
  · next hc =>
    rw [testBit_toNat_eq, BitVec.getLsbD_of_ge _ _ (by omega)]
  · rfl

/-- Setting a key changes that key alone, and only inside the matrix. -/
theorem keyDown_setKey (column row col r : Nat) (p : Bool) :
    (c.setKey column row p).keyDown col r =
      if column = col ∧ row = r then (p && decide (col < 8 ∧ r < 8)) else c.keyDown col r := by
  unfold setKey
  split
  · next h =>
    by_cases hcol : col < 8
    · simp only [keyDown, dif_pos hcol, Vector.getElem_set]
      by_cases hc : column = col
      · subst hc
        rw [if_pos rfl, one_shiftLeft h.2, testBit_setBit _ h.2]
        by_cases hr : row = r
        · subst hr
          simp [h]
        · simp [hr]
      · simp [hc]
    · have hne : ¬ (column = col ∧ row = r) := fun e => hcol (e.1 ▸ h.1)
      simp [keyDown, hcol, hne]
  · next h =>
    split
    · next he =>
      obtain ⟨rfl, rfl⟩ := he
      simp [keyDown_of_outside c h, h]
    · rfl

theorem keyDown_releaseKeys (col r : Nat) : c.releaseKeys.keyDown col r = false := by
  unfold keyDown releaseKeys
  split <;> simp

theorem raise_keys (e : UInt8) : (c.raise e).keys = c.keys := by
  simp only [raise, apply_ite Cia.keys]
  exact ite_self _

/-- A cycle leaves the matrix: the alarm and the timers' events reach only the ICR. -/
theorem cycle_keys : c.cycle.keys = c.keys := by
  unfold Cia.cycle
  split
  next ticked clock _ =>
  extract_lets c0 c1
  have h1 : c1.keys = c.keys := by
    simp only [c1, c0]
    split <;> simp [raise_keys]
  split
  next aUnder c2 hA =>
  have h2 : c2.keys = c.keys := by
    split at hA
    · split at hA
      next u t _ =>
      cases hA
      split <;> simp [raise_keys, h1]
    · cases hA
      exact h1
  extract_lets mode bInput
  split
  · split
    next u t _ => split <;> simp [raise_keys, h2]
  · exact h2

theorem storeClock_keys (r v : UInt8) : (c.storeClock r v).keys = c.keys := by
  unfold storeClock
  dsimp only
  split <;> rfl

/-- No register write reaches the matrix. -/
theorem store_keys (reg v : UInt8) : (c.store reg v).keys = c.keys := by
  unfold Cia.store
  simp only [apply_ite Cia.keys, storeClock_keys, ite_self]

theorem fetch_keys (reg : UInt8) : (c.fetch reg).2.keys = c.keys := by
  dsimp only [Cia.fetch]
  split_ifs <;> rfl

/-! ## The last setting of a key -/

/-- What an access does to the key at a column and row, if anything. -/
def Access.keySetting (column row : Nat) : Access → Option Bool
  | .setKey c r p => if c = column ∧ r = row then some p else none
  | .releaseKeys => some false
  | _ => none

/-- The setting of the last access of a sequence that sets the key or releases all keys. -/
def lastKeySetting (column row : Nat) (as : List Access) : Option Bool :=
  (as.filterMap (Access.keySetting column row)).getLast?

theorem lastKeySetting_cons (column row : Nat) (a : Access) (as : List Access) :
    lastKeySetting column row (a :: as) =
      (lastKeySetting column row as).or (a.keySetting column row) := by
  unfold lastKeySetting
  rw [List.filterMap_cons]
  cases a.keySetting column row with
  | none => simp
  | some p =>
    rw [List.getLast?_cons]
    cases (as.filterMap (Access.keySetting column row)).getLast? <;> rfl

/-- An access that sets a key decides it, inside the matrix; any other leaves it. -/
theorem Access.keyDown_apply (a : Access) (col r : Nat) :
    (a.apply c).keyDown col r =
      (a.keySetting col r).elim (c.keyDown col r) (fun p => p && decide (col < 8 ∧ r < 8)) := by
  cases a with
  | store reg v => simp [Access.apply, Access.keySetting, keyDown, store_keys]
  | fetch reg => simp [Access.apply, Access.keySetting, keyDown, fetch_keys]
  | peek reg => rfl
  | cycle => simp [Access.apply, Access.keySetting, keyDown, cycle_keys]
  | setKey column row p =>
    rw [Access.apply, keyDown_setKey, Access.keySetting]
    split <;> rfl
  | releaseKeys => simp [Access.apply, Access.keySetting, keyDown_releaseKeys]

/-- After any accesses a key is what the last access that set it made it. -/
theorem keyDown_applyAll (as : List Access) (col r : Nat) :
    (applyAll as c).keyDown col r =
      (lastKeySetting col r as).elim (c.keyDown col r)
        (fun p => p && decide (col < 8 ∧ r < 8)) := by
  induction as generalizing c with
  | nil => rfl
  | cons a as ih =>
    rw [applyAll_cons, ih, Access.keyDown_apply, lastKeySetting_cons]
    cases lastKeySetting col r as <;> rfl

theorem Access.keySetting_eq_none_iff (a : Access) (col r : Nat) :
    a.keySetting col r = none ↔ a ≠ .releaseKeys ∧ ∀ p, a ≠ .setKey col r p := by
  cases a with
  | setKey column row p =>
    by_cases h : column = col ∧ row = r
    · obtain ⟨rfl, rfl⟩ := h
      simp [Access.keySetting]
    · simp only [Access.keySetting, h, if_false, ne_eq, reduceCtorEq, not_false_eq_true,
        Access.setKey.injEq, true_and, true_iff]
      intro q hq
      exact h ⟨hq.1, hq.2.1⟩
  | _ => simp [Access.keySetting]

theorem lastKeySetting_eq_none_iff (col r : Nat) (as : List Access) :
    lastKeySetting col r as = none ↔ ∀ a ∈ as, a.keySetting col r = none := by
  rw [lastKeySetting, List.getLast?_eq_none_iff, List.filterMap_eq_nil_iff]

/-- A key was last pressed exactly when no access after some press of it sets it. -/
theorem lastKeySetting_eq_some_true_iff (col r : Nat) (as : List Access) :
    lastKeySetting col r as = some true ↔
      ∃ pre post, as = pre ++ Access.setKey col r true :: post ∧
        ∀ a ∈ post, a.keySetting col r = none := by
  constructor
  · intro h
    induction as with
    | nil => cases h
    | cons a as ih =>
      rw [lastKeySetting_cons] at h
      cases hl : lastKeySetting col r as with
      | some p =>
        rw [hl, Option.some_or] at h
        obtain ⟨pre, post, rfl, hpost⟩ := ih (hl.trans h)
        exact ⟨a :: pre, post, rfl, hpost⟩
      | none =>
        rw [hl, Option.none_or] at h
        have ha : a = .setKey col r true := by
          cases a <;> simp_all [Access.keySetting]
        exact ⟨[], as, by rw [ha]; rfl, (lastKeySetting_eq_none_iff col r as).mp hl⟩
  · rintro ⟨pre, post, rfl, hpost⟩
    simp [lastKeySetting, List.filterMap_append, Access.keySetting,
      List.filterMap_eq_nil_iff.mpr hpost]

/-- Out of power-on no key is down. -/
theorem keyDown_new (cps col r : Nat) : (Cia.new cps).keyDown col r = false :=
  keyDown_releaseKeys (Cia.new cps) col r

/-- From no key down, a key is down exactly when it was pressed and not set since. -/
theorem keyDown_applyAll_of_released {c₀ : Cia} (h₀ : ∀ col r, c₀.keyDown col r = false)
    (as : List Access) (col r : Nat) :
    (applyAll as c₀).keyDown col r = true ↔ col < 8 ∧ r < 8 ∧
      ∃ pre post, as = pre ++ Access.setKey col r true :: post ∧
        ∀ a ∈ post, a ≠ .releaseKeys ∧ ∀ p, a ≠ .setKey col r p := by
  simp only [← Access.keySetting_eq_none_iff, ← lastKeySetting_eq_some_true_iff,
    keyDown_applyAll, h₀]
  cases lastKeySetting col r as with
  | none => simp
  | some p => cases p <;> simp [and_comm]

/-! ## Reading port B -/

/-- A fold that may clear bit `r` keeps it exactly when no column cleared it. -/
theorem testBit_foldl_clear {f : UInt8 → Fin 8 → UInt8} {g : Fin 8 → Bool} {r : Nat}
    (hf : ∀ rows i, (f rows i).toNat.testBit r = (rows.toNat.testBit r && g i))
    (l : List (Fin 8)) (init : UInt8) :
    (l.foldl f init).toNat.testBit r = (init.toNat.testBit r && l.all g) := by
  induction l generalizing init with
  | nil => simp
  | cons i l ih => rw [List.foldl_cons, ih, hf, List.all_cons, Bool.and_assoc]

/-- One column of the scan: driven low, it clears the rows of its pressed keys. -/
theorem testBit_scanColumn (rows : UInt8) (i : Fin 8) {r : Nat} (hr : r < 8) :
    (if c.linesA &&& (1 : UInt8) <<< i.val.toUInt8 = 0 then rows &&& ~~~c.keys[i]
      else rows).toNat.testBit r =
        (rows.toNat.testBit r && !(!c.linesA.toNat.testBit i && c.keys[i].toNat.testBit r)) := by
  cases hi : c.linesA.toNat.testBit i with
  | true =>
    have hsel : ¬ c.linesA &&& (1 : UInt8) <<< i.val.toUInt8 = 0 := by
      rw [and_one_shiftLeft_eq_zero, hi]
      decide
    simp [hsel]
  | false =>
    rw [if_pos ((and_one_shiftLeft_eq_zero _ i).mpr hi)]
    simp only [testBit_toNat_eq, UInt8.toBitVec_and, UInt8.toBitVec_not, BitVec.getLsbD_and,
      BitVec.getLsbD_not, decide_eq_true hr, Bool.true_and, Bool.not_false]

/-- A row reads low exactly when a pressed key joins it to a column that port A drives low. -/
theorem testBit_keyRows {r : Nat} (hr : r < 8) :
    c.keyRows.toNat.testBit r = false ↔
      ∃ col < 8, c.keyDown col r = true ∧ c.linesA.toNat.testBit col = false := by
  have hff : (0xFF : UInt8).toNat.testBit r = true := by
    interval_cases r <;> rfl
  unfold keyRows
  rw [testBit_foldl_clear (fun rows i => testBit_scanColumn c rows i hr), hff, Bool.true_and,
    List.all_eq_false]
  simp only [List.mem_finRange, true_and, Bool.not_eq_false, Bool.and_eq_true, Bool.not_eq_true',
    Fin.exists_iff]
  constructor
  · rintro ⟨col, hcol, hsel, hkey⟩
    exact ⟨col, hcol, by simpa [keyDown, hcol] using hkey, hsel⟩
  · rintro ⟨col, hcol, hkey, hsel⟩
    exact ⟨col, hcol, hsel, by simpa [keyDown, hcol] using hkey⟩

/-- Each bit of port B: from PRB where DDRB makes it an output, from the keyboard otherwise. -/
theorem testBit_linesB {r : Nat} (hr : r < 8) :
    c.linesB.toNat.testBit r =
      if c.ddrb.toNat.testBit r then c.prb.toNat.testBit r else c.keyRows.toNat.testBit r := by
  simp only [linesB, testBit_toNat_eq, UInt8.toBitVec_or, UInt8.toBitVec_and, UInt8.toBitVec_not,
    BitVec.getLsbD_or, BitVec.getLsbD_and, BitVec.getLsbD_not]
  cases c.ddrb.toBitVec.getLsbD r <;> simp [hr]

theorem peek_of_prb {reg : UInt8} (h : reg &&& 0x0F = CiaReg.prb) : c.peek reg = c.linesB := by
  simp only [peek, h, CiaReg.prb, CiaReg.pra]
  rfl

/-- A read of port B has no side effect. -/
theorem fetch_of_prb {reg : UInt8} (h : reg &&& 0x0F = CiaReg.prb) :
    c.fetch reg = (c.peek reg, c) :=
  fetch_of_ne (by rw [h]; decide) (by rw [h]; decide) (by rw [h]; decide)

/-- A press or release outside the matrix changes nothing. -/
theorem setKey_of_outside {column row : Nat} (h : ¬ (column < 8 ∧ row < 8)) (p : Bool) :
    c.setKey column row p = c := by
  unfold setKey
  rw [dif_neg h]

/-! ## The keyboard law -/

/-- The keyboard law: from no key down, a key is down exactly when it lies in the matrix and
was pressed with no access setting it since; keys outside the matrix change nothing; a read of
port B has no side effect and shows PRB's outputs and, on each input row, low under a pressed
key in a column port A drives low. -/
theorem keyboard_matrix :
    (∀ c₀ : Cia, (∀ col r, c₀.keyDown col r = false) → ∀ (as : List Access) (col r : Nat),
      (applyAll as c₀).keyDown col r = true ↔ col < 8 ∧ r < 8 ∧
        ∃ pre post, as = pre ++ Access.setKey col r true :: post ∧
          ∀ a ∈ post, a ≠ .releaseKeys ∧ ∀ p, a ≠ .setKey col r p) ∧
    (∀ (c : Cia) (column row : Nat) (p : Bool), ¬ (column < 8 ∧ row < 8) →
      c.setKey column row p = c) ∧
    (∀ (c : Cia) (reg : UInt8), reg &&& 0x0F = CiaReg.prb →
      c.fetch reg = (c.peek reg, c) ∧ ∀ r < 8,
        (c.ddrb.toNat.testBit r = true →
          (c.peek reg).toNat.testBit r = c.prb.toNat.testBit r) ∧
        (c.ddrb.toNat.testBit r = false →
          ((c.peek reg).toNat.testBit r = false ↔ ∃ col < 8, c.keyDown col r = true ∧
            ((c.pra &&& c.ddra) ||| ~~~c.ddra).toNat.testBit col = false))) := by
  refine ⟨fun c₀ h₀ => keyDown_applyAll_of_released h₀,
    fun c column row p h => setKey_of_outside c h p, ?_⟩
  intro c reg hreg
  refine ⟨fetch_of_prb c hreg, fun r hr => ⟨fun hd => ?_, fun hd => ?_⟩⟩
  · rw [peek_of_prb c hreg, testBit_linesB c hr, if_pos hd]
  · rw [peek_of_prb c hreg, testBit_linesB c hr, if_neg (by simp [hd])]
    exact testBit_keyRows c hr

/-- With key (1, 5) down and port A driving column 1 low, row 5 of port B reads low. -/
theorem row_reads_low_under_pressed_key :
    let c := applyAll [.setKey 1 5 true, .setKey 2 3 true, .setKey 2 3 false, .store 0x02 0xFF,
      .store 0x00 0xFD] (Cia.new palCps)
    c.keyDown 1 5 = true ∧ (c.peek 0x11).toNat.testBit 5 = false := by
  intro c
  have hdown : c.keyDown 1 5 = true :=
    (keyboard_matrix.1 (Cia.new palCps) (keyDown_new palCps) _ 1 5).mpr
      ⟨by decide, by decide, [], _, rfl, by decide⟩
  have hread := ((keyboard_matrix.2.2 c 0x11 (by decide)).2 5 (by decide)).2 (by decide)
  exact ⟨hdown, hread.mpr ⟨1, by decide, hdown, by decide⟩⟩

end Cia

end Breadbox
