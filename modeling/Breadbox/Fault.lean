import Breadbox.Text.Radix
import Breadbox.Memory.Slot

/-!
# Faults

Everything that can stop an operation of the machine, as a cause with its data: an opcode
byte without a table entry, a ROM image of the wrong size, a program image too short to
carry its load address, or a file that cannot be read. `Fault.message` gives the one-line
text of each.
-/

namespace Breadbox

/-- Why a file could not be read. -/
inductive IoReason where
  /-- There is no file at the path. -/
  | notFound
deriving Repr, DecidableEq

/-- The operating system's wording for a failed read. -/
def IoReason.message : IoReason → String
  | .notFound => "No such file or directory (os error 2)"

/-- A cause that stops an operation. -/
inductive Fault where
  /-- The byte at `pc` is no documented opcode. -/
  | unknownOpcode (opcode : UInt8) (pc : UInt16)
  /-- The image for `slot` has `actual` bytes instead of `slot.size`. -/
  | romSize (slot : RomSlot) (actual : Nat)
  /-- A program image of `length` bytes, fewer than the two of its load address. -/
  | programTooShort (length : Nat)
  /-- The file at `path` could not be read. -/
  | io (path : String) (reason : IoReason)
deriving Repr, DecidableEq

/-- A path between double quotes, with quotes, backslashes and line controls escaped. -/
def quotePath (path : String) : String :=
  let esc : Char → String
    | '"' => "\\\""
    | '\\' => "\\\\"
    | '\n' => "\\n"
    | '\r' => "\\r"
    | '\t' => "\\t"
    | c => c.toString
  "\"" ++ String.join (path.toList.map esc) ++ "\""

/-- The one-line text of a fault. -/
def Fault.message : Fault → String
  | .unknownOpcode op pc => "unknown opcode $" ++ Radix.byte op ++ " at $" ++ Radix.word pc
  | .romSize slot actual =>
    slot.name ++ " ROM has wrong size: expected " ++ toString slot.size ++ " bytes, got " ++
      toString actual
  | .programTooShort n => "program image too short (" ++ toString n ++ " bytes)"
  | .io path reason => "I/O error on " ++ quotePath path ++ ": " ++ reason.message

example : (Fault.unknownOpcode 0x02 0x1001).message = "unknown opcode $02 at $1001" := by decide

end Breadbox
