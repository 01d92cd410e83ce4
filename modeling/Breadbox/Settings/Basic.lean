import Breadbox.Json.Parse
import Breadbox.Settings.Path
import Breadbox.Cia.Chip
import Breadbox.Text.Radix

/-!
# Settings

The emulator's settings: a home directory for relative paths, the ROM directory and the three
ROM file names, the clock rate, the speed, and the screenshot directory. They are stored as a
JSON object with these eight fields in this order.

Reading is strict about what it reads and lenient about what it leaves out. The file holds
either an object, whose unknown members are skipped and whose fields may each appear once, or
an array of the fields in order, possibly shorter. A field that is missing takes its default;
a text field takes only an exact JSON string, and a number field only a whole number from 0 to
2³² − 1 written without sign, fraction or exponent. Anything else makes the file unreadable,
and an unreadable or missing file gives the default settings.

`Settings.pretty` writes the object with two-space indentation; reading it back gives the same
settings.
-/

namespace Breadbox

/-- The emulator's settings. -/
structure Settings where
  /-- Directory that relative paths are read from; empty for the program's directory. -/
  home : String := ""
  romDir : String := "roms"
  basicRom : String := "basic.rom"
  kernalRom : String := "kernal.rom"
  chargenRom : String := "chargen.rom"
  /-- Machine cycles per second. -/
  cyclesPerSecond : Nat := Cia.palCps
  /-- Pace: 1 for real time, 0 for as fast as possible. -/
  speed : Nat := 1
  screenshotDir : String := "screenshots"
deriving Repr, DecidableEq

namespace Settings

/-- The field names in storage order. -/
def fieldNames : List String :=
  ["c64rs_home", "rom_dir", "basic_rom", "kernal_rom", "chargen_rom", "cycles_per_second",
    "speed", "screenshot_dir"]

/-- The largest value of a number field. -/
def numberLimit : Nat := 4294967295

/-- A text field's value. -/
def textOf? : Json.Value → Option String
  | .string t => if t.exact then some t.value else none
  | _ => none

/-- A number field's value. -/
def numberOf? : Json.Value → Option Nat
  | .number n => if !n.negative ∧ n.plain ∧ n.integer ≤ numberLimit then some n.integer else none
  | _ => none

/-- Sets field `i` (in storage order) from a value. -/
def setField (s : Settings) (i : Nat) (v : Json.Value) : Option Settings :=
  match i with
  | 0 => (textOf? v).map fun x => { s with home := x }
  | 1 => (textOf? v).map fun x => { s with romDir := x }
  | 2 => (textOf? v).map fun x => { s with basicRom := x }
  | 3 => (textOf? v).map fun x => { s with kernalRom := x }
  | 4 => (textOf? v).map fun x => { s with chargenRom := x }
  | 5 => (numberOf? v).map fun x => { s with cyclesPerSecond := x }
  | 6 => (numberOf? v).map fun x => { s with speed := x }
  | 7 => (textOf? v).map fun x => { s with screenshotDir := x }
  | _ => none

/-- Sets fields from object members; `seen` holds the fields already set. -/
def ofMembers (s : Settings) (seen : List Nat) : List (Json.Text × Json.Value) → Option Settings
  | [] => some s
  | (k, v) :: rest =>
    if !k.exact then none
    else
      match fieldNames.idxOf? k.value with
      | none => ofMembers s seen rest
      | some i =>
        if seen.contains i then none
        else do ofMembers (← s.setField i v) (i :: seen) rest

/-- Sets fields from array items, field `i` first. -/
def ofItems (s : Settings) (i : Nat) : List Json.Value → Option Settings
  | [] => some s
  | v :: rest => if i < fieldNames.length then do ofItems (← s.setField i v) (i + 1) rest else none

/-- The settings a JSON value describes. -/
def ofValue? : Json.Value → Option Settings
  | .object members => ofMembers {} [] members
  | .array items => ofItems {} 0 items
  | _ => none

/-- The settings a text describes, if it is readable. -/
def read? (text : String) : Option Settings := do ofValue? (← Json.Value.read? text)

/-- The settings in a file's text; the defaults when there is no file or it is unreadable. -/
def load (text : Option String) : Settings :=
  (text.bind read?).getD {}

/-- A character as written inside a JSON string. -/
def escapeChar (c : Char) : String :=
  if c = '"' then "\\\""
  else if c = '\\' then "\\\\"
  else if c.toNat = 8 then "\\b"
  else if c.toNat = 12 then "\\f"
  else if c = '\n' then "\\n"
  else if c = '\r' then "\\r"
  else if c = '\t' then "\\t"
  else if c.toNat < 0x20 then "\\u00" ++ String.ofList (Radix.digits 16 Radix.lowerDigit 2 c.toNat)
  else c.toString

/-- A text as a JSON string. -/
def quote (s : String) : String := "\"" ++ String.join (s.toList.map escapeChar) ++ "\""

/-- The stored form: one field per line, indented by two spaces. -/
def pretty (s : Settings) : String :=
  let fields := [quote s.home, quote s.romDir, quote s.basicRom, quote s.kernalRom,
    quote s.chargenRom, toString s.cyclesPerSecond, toString s.speed, quote s.screenshotDir]
  let lines := (fieldNames.zip fields).map fun (k, v) => "  " ++ quote k ++ ": " ++ v
  "\x7b\n" ++ ",\n".intercalate lines ++ "\n\x7d"

/-- `rel` read from the home directory. -/
def resolve (s : Settings) (exeDir rel : String) : String :=
  Path.resolveWithBase exeDir s.home rel

/-- The ROM directory. -/
def romDirPath (s : Settings) (exeDir : String) : String := s.resolve exeDir s.romDir

/-- A ROM file: an absolute name as it is, else inside the ROM directory. -/
def romPath (s : Settings) (exeDir name : String) : String :=
  if Path.isAbsolute name then name else Path.join (s.romDirPath exeDir) name

/-- The screenshot directory. -/
def screenshotDirPath (s : Settings) (exeDir : String) : String := s.resolve exeDir s.screenshotDir

/-- A screenshot file: an absolute name as it is, else inside the screenshot directory. -/
def screenshotPath (s : Settings) (exeDir file : String) : String :=
  if Path.isAbsolute file then file else Path.join (s.screenshotDirPath exeDir) file

end Settings

end Breadbox
