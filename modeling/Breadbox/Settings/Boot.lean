import Breadbox.Settings.Basic
import Breadbox.Machine

/-!
# Booting from files

The ROM images live in files. A `Volume` maps paths to file contents; reading a path it does
not hold fails with `Fault.io`. The three images are read in the order BASIC, KERNAL,
character generator, so the first missing file is the one reported, and their sizes are
checked only once all three are read.
-/

namespace Breadbox

/-- Files by path. -/
abbrev Volume := List (String × Array UInt8)

/-- The contents of the file at `path`. -/
def Volume.read (v : Volume) (path : String) : Except Fault (Array UInt8) :=
  match v.lookup path with
  | some data => .ok data
  | none => .error (.io path .notFound)

/-- Reads and checks the three ROM images from their files. -/
def RomSet.load (v : Volume) (basic kernal chargen : String) : Except Fault RomSet := do
  let b ← v.read basic
  let k ← v.read kernal
  let c ← v.read chargen
  RomSet.ofImages b k c

/-- A machine booted from the ROM files and clock rate of the settings, with relative paths
read from the program's directory `exeDir`. -/
def Machine.ofSettings (s : Settings) (exeDir : String) (v : Volume) : Except Fault Machine := do
  let roms ← RomSet.load v (s.romPath exeDir s.basicRom) (s.romPath exeDir s.kernalRom)
    (s.romPath exeDir s.chargenRom)
  return Machine.new roms s.cyclesPerSecond

end Breadbox
