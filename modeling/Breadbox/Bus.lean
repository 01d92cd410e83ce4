/-!
# Buses

The processor and the video chip see memory only through a bus: a byte read at a 16-bit
address, which may change the device behind that address (reading an interrupt status
register clears it), and a byte written to an address. A bus is a state-passing pair of
functions, so every access is a plain function of the bus before it.
-/

namespace Breadbox

/-- A 64 KB address space that can be read and written. -/
class Bus (β : Type) where
  /-- The byte at an address, and the bus after the read. -/
  read : UInt16 → β → UInt8 × β
  /-- The bus after writing a byte to an address. -/
  write : UInt16 → UInt8 → β → β

/-- The little-endian word of a low and a high byte. -/
def word (lo hi : UInt8) : UInt16 := hi.toUInt16 <<< 8 ||| lo.toUInt16

example : word 0x34 0x12 = 0x1234 := by decide

end Breadbox
