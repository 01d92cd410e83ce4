/-!
# The colour palette

The sixteen colours of the video chip as `0xRRGGBB` values. A colour register or colour
nibble selects one by its low four bits, so every byte names a colour (`color`).
-/

namespace Breadbox

/-- Black, white, red, cyan, purple, green, blue, yellow, orange, brown, light red, dark
grey, grey, light green, light blue, light grey. -/
def palette : Vector UInt32 16 :=
  #v[0x000000, 0xFFFFFF, 0x924A40, 0x84C5CC, 0x9351B6, 0x72B14B, 0x483AAA, 0xD5DF7C,
    0x99692D, 0x675200, 0xC18178, 0x606060, 0x8A8A8A, 0xB3EC91, 0x867ADE, 0xB3B3B3]

/-- The palette colour a byte selects by its low nibble. -/
def color (index : UInt8) : UInt32 :=
  have h : (index &&& 0x0F).toNat < 16 := by
    rw [UInt8.toNat_and]
    exact Nat.lt_of_le_of_lt Nat.and_le_right (by decide)
  palette[(index &&& 0x0F).toNat]

end Breadbox
