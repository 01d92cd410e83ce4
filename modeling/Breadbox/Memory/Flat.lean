import Breadbox.Bus
import Breadbox.Memory.Ram

/-!
# A flat RAM bus with a write journal

The simplest bus: 64 KB of RAM with nothing mapped into it. Reads have no side effect, and
every write through the bus is appended to a journal, so the writes an instruction makes
can be listed in program order. `lastWrites` condenses a journal to the final value of each
written address, by address.
-/

namespace Breadbox

/-- RAM behind a bus that records its writes. -/
structure FlatRam where
  bytes : Ram := Ram.zero
  journal : Array (UInt16 × UInt8) := #[]

namespace FlatRam

instance : Bus FlatRam where
  read a m := (m.bytes.get a, m)
  write a v m := { bytes := m.bytes.set a v, journal := m.journal.push (a, v) }

/-- Writes bytes from an address on, past the journal. -/
def poke (m : FlatRam) (a : UInt16) (bs : List UInt8) : FlatRam :=
  { m with bytes := m.bytes.load a bs }

/-- Empties the journal. -/
def clearJournal (m : FlatRam) : FlatRam := { m with journal := #[] }

/-- The last value written to each address of a journal, in address order. -/
def lastWrites (journal : Array (UInt16 × UInt8)) : List (UInt16 × UInt8) :=
  let sorted := journal.toList.mergeSort fun p q => p.1 ≤ q.1
  sorted.foldr (fun p acc =>
    match acc with
    | q :: _ => if p.1 = q.1 then acc else p :: acc
    | [] => [p]) []

end FlatRam

end Breadbox
