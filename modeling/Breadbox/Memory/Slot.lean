/-!
# ROM sockets

The machine carries three read-only images: the BASIC interpreter and the KERNAL, 8 KB
each, and the 4 KB character generator. A slot names one socket, the size its image must
have, and the name it goes by in messages.
-/

namespace Breadbox

/-- One of the three ROM sockets. -/
inductive RomSlot where
  | basic | kernal | chargen
deriving Repr, DecidableEq

namespace RomSlot

/-- The image size, in bytes, that the socket takes. -/
def size : RomSlot → Nat
  | .basic => 8192
  | .kernal => 8192
  | .chargen => 4096

/-- The name of the ROM in messages. -/
def name : RomSlot → String
  | .basic => "BASIC"
  | .kernal => "KERNAL"
  | .chargen => "CHARGEN"

/-- The slots in the order images are read and checked. -/
def all : List RomSlot := [.basic, .kernal, .chargen]

end RomSlot

end Breadbox
