import Breadbox.Fault

/-!
# ROM images

The three images the machine boots with. Images arrive as byte arrays of any length and are
checked in the order BASIC, KERNAL, character generator; the first of the wrong size stops
the check with `Fault.romSize`. A checked set keeps each image as a vector of its exact
size, so reads at an in-range offset need no further check.
-/

namespace Breadbox

/-- The three ROM images, each of the size its socket takes. -/
structure RomSet where
  basic : Vector UInt8 8192
  kernal : Vector UInt8 8192
  chargen : Vector UInt8 4096
deriving Repr, DecidableEq

/-- An image as a vector of the size its slot takes, or the size fault. -/
def RomSlot.check (slot : RomSlot) (image : Array UInt8) : Except Fault (Vector UInt8 slot.size) :=
  if h : image.size = slot.size then .ok ⟨image, h⟩ else .error (.romSize slot image.size)

namespace RomSet

/-- Checks three images, in the order BASIC, KERNAL, character generator. -/
def ofImages (basic kernal chargen : Array UInt8) : Except Fault RomSet := do
  let b ← RomSlot.basic.check basic
  let k ← RomSlot.kernal.check kernal
  let c ← RomSlot.chargen.check chargen
  return ⟨b, k, c⟩

end RomSet

end Breadbox
