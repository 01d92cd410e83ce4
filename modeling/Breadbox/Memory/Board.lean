import Breadbox.Memory.Banks
import Breadbox.Cia.Chip

/-!
# The system bus

What the processor and the video chip see: the banked memory with CIA 1 wired into the I/O
window. A bus read of a CIA register goes through the chip's `fetch`, with its side effects;
`peek` reads the same places without them. Writes to a ROM are dropped.
-/

namespace Breadbox

/-- Memory and CIA 1, joined by the bank switching. -/
structure Board where
  memory : Memory
  cia : Cia
deriving Repr, DecidableEq

namespace Board

/-- Reads an address, with the side effects of reading a CIA register. -/
@[inline] def read (b : Board) (a : UInt16) : UInt8 × Board :=
  match b.memory.resolve a with
  | .cia r =>
    let (v, c) := b.cia.fetch r
    (v, { b with cia := c })
  | region => (b.memory.readRegion region, b)

/-- Writes an address. -/
@[inline] def write (b : Board) (a : UInt16) (v : UInt8) : Board :=
  match b.memory.resolveStore a with
  | .cia r => { b with cia := b.cia.store r v }
  | .io i => { b with memory := b.memory.pokeIo i v }
  | .ram a => { b with memory := b.memory.pokeRam a v }
  | _ => b

instance : Bus Board where
  read a b := b.read a
  write a v b := b.write a v

/-- Reads an address without side effects. -/
def peek (b : Board) (a : UInt16) : UInt8 :=
  match b.memory.resolve a with
  | .cia r => b.cia.peek r
  | region => b.memory.readRegion region

/-- `count` bytes from `a` on, by `peek`, as hexadecimal pairs between single spaces. -/
def dumpLine (b : Board) (a : UInt16) (count : Nat) : String :=
  " ".intercalate ((List.range count).map fun i => Radix.byte (b.peek (a + UInt16.ofNat i)))

end Board

end Breadbox
