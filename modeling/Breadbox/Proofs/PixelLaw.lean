import Breadbox.Proofs.BusReads

/-!
# The pixel law of a raster line

What a raster line shows, as a function of the bytes the board shows and the character ROM:
border outside lines 51 to 250 and columns 24 to 343, and in the window the text, hires or
multicolour pixel of the cell. The law computes its addresses on `Nat`; the lemmas after it
turn the drawing's `UInt8` and `UInt16` arithmetic into that form.
-/

namespace Breadbox

namespace Picture

/-- The palette colour of a colour number, by its low four bits. -/
def shade (n : Nat) : UInt32 := palette.get (Fin.ofNat 16 n)

section Law

variable (view : UInt16 → UInt8) (chargen : Vector UInt8 4096)

/-- The byte shown at address `n mod 2^16`. -/
def byte (n : Nat) : Nat := (view (UInt16.ofNat n)).toNat

/-- The base of the video bank `$DD00` selects. -/
def bank : Nat := 0xC000 - byte view 0xDD00 % 4 * 0x4000

/-- Which 2K block of the bank (or of the character ROM) holds the glyphs. -/
def pointer : Nat := byte view 0xD018 / 2 % 8

/-- A byte of the character ROM, the offset taken modulo 4 KB. -/
def romByte (n : Nat) : UInt8 := chargen.get (Fin.ofNat 4096 n)

/-- The screen byte of a character cell. -/
def screenByte (row col : Nat) : Nat :=
  byte view (bank view + 0x400 * (byte view 0xD018 / 16) + 40 * row + col)

/-- The colour-RAM byte of a character cell. -/
def colorByte (row col : Nat) : Nat := byte view (0xD800 + 40 * row + col)

/-- A text-mode pixel at `(X, Y)` of the display window. -/
def text (X Y : Nat) : UInt32 :=
  let offset := pointer view * 0x800 + 8 * screenByte view (Y / 8) (X / 8) + Y % 8
  let glyph :=
    if (pointer view = 2 ∨ pointer view = 3) ∧ (byte view 0xDD00 % 4 = 1 ∨ byte view 0xDD00 % 4 = 3)
    then (romByte chargen offset).toNat
    else byte view (bank view + offset)
  if glyph.testBit (7 - X % 8) then shade (colorByte view (Y / 8) (X / 8))
  else shade (byte view 0xD021)

/-- The bitmap byte that holds the pixel at `(X, Y)`. -/
def bitmapByte (X Y : Nat) : Nat :=
  byte view (bank view + (if (byte view 0xD018).testBit 3 then 0x2000 else 0) + 320 * (Y / 8) +
    8 * (X / 8) + Y % 8)

/-- A hires-bitmap pixel at `(X, Y)` of the display window. -/
def hires (X Y : Nat) : UInt32 :=
  if (bitmapByte view X Y).testBit (7 - X % 8) then shade (screenByte view (Y / 8) (X / 8) / 16)
  else shade (screenByte view (Y / 8) (X / 8))

/-- A multicolour-bitmap pixel: its bit pair picks one of four colours. -/
def multicolor (X Y : Nat) : UInt32 :=
  let pair := bitmapByte view X Y >>> (6 - X % 8 / 2 * 2) % 4
  if pair = 0 then shade (byte view 0xD021)
  else if pair = 1 then shade (screenByte view (Y / 8) (X / 8) / 16)
  else if pair = 2 then shade (screenByte view (Y / 8) (X / 8))
  else shade (colorByte view (Y / 8) (X / 8))

/-- The pixel at column `x` of raster line `L`. -/
def pixel (L x : Nat) : UInt32 :=
  if 51 ≤ L ∧ L ≤ 250 ∧ 24 ≤ x ∧ x ≤ 343 then
    if (byte view 0xD011).testBit 5 = false then text view chargen (x - 24) (L - 51)
    else if (byte view 0xD016).testBit 4 = false then hires view (x - 24) (L - 51)
    else multicolor view (x - 24) (L - 51)
  else shade (byte view 0xD020)

end Law

/-! ## The drawing's word arithmetic in the law's terms -/

/-- A colour register's byte is drawn as the shade of its number. -/
theorem color_eq_shade (v : UInt8) : color v = shade v.toNat := by
  simp only [color, shade, Vector.get_eq_getElem, Fin.val_ofNat, UInt8.toNat_and]
  congr 1
  exact Nat.and_two_pow_sub_one_eq_mod _ 4

/-- The bank base the drawing computes in 16 bits is the law's. -/
theorem bank_eq (v : UInt8) :
    (0xC000 : UInt16) - (v &&& 0x03).toUInt16 * 0x4000 =
      UInt16.ofNat (0xC000 - v.toNat % 4 * 0x4000) := by
  have h : (v &&& 0x03).toNat = v.toNat % 4 := by
    rw [UInt8.toNat_and]
    exact Nat.and_two_pow_sub_one_eq_mod _ 2
  apply UInt16.toNat_inj.mp
  have hb : v.toNat % 4 < 4 := Nat.mod_lt _ (by decide)
  simp only [UInt16.toNat_sub, UInt16.toNat_mul, UInt8.toNat_toUInt16, h, UInt16.toNat_ofNat',
    UInt16.reduceToNat, Nat.reducePow]
  omega

theorem screen_eq (v : UInt8) :
    (0x0400 : UInt16) * (v >>> 4).toUInt16 = UInt16.ofNat (0x400 * (v.toNat / 16)) := by
  apply UInt16.toNat_inj.mp
  simp only [UInt16.toNat_mul, UInt8.toNat_toUInt16, UInt8.toNat_shiftRight, UInt16.toNat_ofNat',
    Nat.shiftRight_eq_div_pow, UInt16.reduceToNat, UInt8.reduceToNat, Nat.reducePow, Nat.reduceMod]

theorem pointer_toNat (v : UInt8) : ((v &&& 0x0E) >>> 1).toNat = v.toNat / 2 % 8 := by
  rw [UInt8.toNat_shiftRight, UInt8.toNat_and, Nat.shiftRight_and_distrib]
  rw [show (0x0E : UInt8).toNat >>> ((1 : UInt8).toNat % 8) = 2 ^ 3 - 1 from rfl,
    Nat.and_two_pow_sub_one_eq_mod, Nat.shiftRight_eq_div_pow]
  rfl

theorem bankBits_toNat (v : UInt8) : (v &&& 0x03).toNat = v.toNat % 4 := by
  rw [UInt8.toNat_and]
  exact Nat.and_two_pow_sub_one_eq_mod _ 2

theorem and_bit_toNat (v : UInt8) {k : Nat} (hk : k < 8) :
    (v &&& UInt8.ofNat (2 ^ k)).toNat = (v.toNat.testBit k).toNat * 2 ^ k := by
  have hp : 2 ^ k < 2 ^ 8 := Nat.pow_lt_pow_right (by decide) hk
  rw [UInt8.toNat_and, UInt8.toNat_ofNat', Nat.mod_eq_of_lt hp, Nat.and_two_pow]

/-- A one-bit mask of a byte is zero exactly when that bit of the byte is clear. -/
theorem bit_eq_zero (v : UInt8) {k : Nat} (hk : k < 8) :
    v &&& UInt8.ofNat (2 ^ k) = 0 ↔ v.toNat.testBit k = false := by
  rw [← UInt8.toNat_inj, and_bit_toNat v hk]
  cases v.toNat.testBit k <;> simp

theorem bit_ne_zero (v : UInt8) {k : Nat} (hk : k < 8) :
    (v &&& UInt8.ofNat (2 ^ k) != 0) = v.toNat.testBit k := by
  have hz := bit_eq_zero v hk
  cases h : v.toNat.testBit k
  · rw [hz.mpr h]
    rfl
  · have hne : v &&& UInt8.ofNat (2 ^ k) ≠ 0 := fun e => by simp [hz.mp e] at h
    simpa using hne

/-- The glyph and bitmap test: the mask `$80 >> k` picks bit `7 - k`. -/
theorem mask_ne_zero (v : UInt8) {k : Nat} (hk : k < 8) :
    (v &&& ((0x80 : UInt8) >>> UInt8.ofNat k) != 0) = v.toNat.testBit (7 - k) := by
  have hm : (0x80 : UInt8) >>> UInt8.ofNat k = UInt8.ofNat (2 ^ (7 - k)) := by
    interval_cases k <;> rfl
  rw [hm, bit_ne_zero v (by omega)]

theorem and_seven (X : Nat) : UInt16.ofNat X &&& 7 = UInt16.ofNat (X % 8) := by
  apply UInt16.toNat_inj.mp
  simp only [UInt16.toNat_and, UInt16.toNat_ofNat']
  rw [show (7 : UInt16).toNat = 2 ^ 3 - 1 from rfl, Nat.and_two_pow_sub_one_eq_mod]
  omega

theorem low_bits (X : Nat) : (UInt16.ofNat X &&& 7).toUInt8 = UInt8.ofNat (X % 8) := by
  rw [and_seven]
  apply UInt8.toNat_inj.mp
  simp only [UInt16.toNat_toUInt8, UInt16.toNat_ofNat', UInt8.toNat_ofNat']
  omega

/-- The shift that brings a multicolour pixel's bit pair down, for column `X` of a cell. -/
theorem shift_eq (X : Nat) : (6 - (UInt16.ofNat X &&& 6)).toUInt8 = UInt8.ofNat (6 - X % 8 / 2 * 2) := by
  have h6 : UInt16.ofNat X &&& 6 = UInt16.ofNat X &&& 7 &&& 6 := by
    rw [UInt16.and_assoc]
    rfl
  have hr : X % 8 < 8 := Nat.mod_lt _ (by decide)
  rw [h6, and_seven]
  generalize X % 8 = r at hr ⊢
  interval_cases r <;> rfl

theorem pair_toNat (v : UInt8) {s : Nat} (hs : s < 8) :
    ((v >>> UInt8.ofNat s) &&& 0x03).toNat = v.toNat >>> s % 4 := by
  rw [UInt8.toNat_and, UInt8.toNat_shiftRight, UInt8.toNat_ofNat',
    Nat.mod_eq_of_lt (by omega : s % 256 < 8), Nat.mod_eq_of_lt (by omega : s < 256)]
  exact Nat.and_two_pow_sub_one_eq_mod _ 2

/-- A row offset added in 16 bits, folded into the address. -/
theorem row_eq (a r : Nat) : UInt16.ofNat a + UInt16.ofNat r * 40 = UInt16.ofNat (a + 40 * r) := by
  rw [UInt16.ofNat_add, UInt16.ofNat_mul, UInt16.mul_comm]
  rfl

theorem bitmapRow_eq (a r : Nat) :
    UInt16.ofNat a + UInt16.ofNat r * 320 = UInt16.ofNat (a + 320 * r) := by
  rw [UInt16.ofNat_add, UInt16.ofNat_mul, UInt16.mul_comm]
  rfl

theorem cell_eq (a X : Nat) (hX : X < 65536) :
    UInt16.ofNat a + UInt16.ofNat X / 8 = UInt16.ofNat (a + X / 8) := by
  apply UInt16.toNat_inj.mp
  simp only [UInt16.toNat_add, UInt16.toNat_div, UInt16.toNat_ofNat', UInt16.reduceToNat,
    Nat.reducePow]
  omega

theorem bitmapCell_eq (a y X : Nat) (hX : X < 65536) :
    UInt16.ofNat (a + y) + UInt16.ofNat X / 8 * 8 = UInt16.ofNat (a + 8 * (X / 8) + y) := by
  apply UInt16.toNat_inj.mp
  simp only [UInt16.toNat_add, UInt16.toNat_mul, UInt16.toNat_div, UInt16.toNat_ofNat',
    UInt16.reduceToNat, Nat.reducePow]
  omega

theorem shr_four_toNat (v : UInt8) : (v >>> 4).toNat = v.toNat / 16 := by
  rw [UInt8.toNat_shiftRight, Nat.shiftRight_eq_div_pow]
  rfl

/-- A byte read back on `Nat`, as the law reads it. -/
theorem byte_fold (view : UInt16 → UInt8) (n : Nat) : (view (UInt16.ofNat n)).toNat = byte view n :=
  rfl

/-- The glyph offset of a screen code and a glyph row, folded into one address. -/
theorem offset_eq (code : UInt8) (y : Nat) :
    code.toUInt16 * 8 + UInt16.ofNat y = UInt16.ofNat (8 * code.toNat + y) := by
  apply UInt16.toNat_inj.mp
  simp only [UInt16.toNat_add, UInt16.toNat_mul, UInt8.toNat_toUInt16, UInt16.toNat_ofNat',
    UInt16.reduceToNat, Nat.reducePow]
  omega


end Picture

end Breadbox
