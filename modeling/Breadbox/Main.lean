import Breadbox.Settings.Boot
import Breadbox.Video.Png

/-!
# Command line

Runs the machine without a screen: it reads the settings file, boots from the ROM files the
settings name, optionally injects a program after a delay, runs for a number of cycles (or
until the processor meets an opcode it cannot run), reports the final registers and can save
the last frame as a PNG file.

```
breadbox [--config FILE] [--home DIR] [--rom-dir DIR] [--prg FILE] [--prg-delay CYCLES]
         [--cycles CYCLES] [--speed N] [--screenshot FILE] [--save-config]
```

Option parsing is a pure function; only file access and the unbounded run live in `IO`.
-/

namespace Breadbox.Cli

/-- The command-line options. -/
structure Options where
  config : Option String := none
  home : Option String := none
  romDir : Option String := none
  prg : Option String := none
  /-- Cycles to run before the program is loaded: three PAL seconds, for the KERNAL to boot. -/
  prgDelay : Nat := 2955744
  /-- Cycles to run; 0 runs until the processor stops. -/
  cycles : Nat := 0
  speed : Option Nat := none
  screenshot : Option String := none
  saveConfig : Bool := false

/-- A number argument. -/
def number (flag value : String) : Except String Nat :=
  match value.toNat? with
  | some n => .ok n
  | none => .error ("invalid value '" ++ value ++ "' for " ++ flag)

/-- Reads the options, left to right. -/
def parse (o : Options) : List String → Except String Options
  | [] => .ok o
  | "--save-config" :: rest => parse { o with saveConfig := true } rest
  | "--config" :: v :: rest => parse { o with config := some v } rest
  | "--home" :: v :: rest => parse { o with home := some v } rest
  | "--rom-dir" :: v :: rest => parse { o with romDir := some v } rest
  | "--prg" :: v :: rest => parse { o with prg := some v } rest
  | "--screenshot" :: v :: rest => parse { o with screenshot := some v } rest
  | "--prg-delay" :: v :: rest => do parse { o with prgDelay := ← number "--prg-delay" v } rest
  | "--cycles" :: v :: rest => do parse { o with cycles := ← number "--cycles" v } rest
  | "--speed" :: v :: rest => do parse { o with speed := some (← number "--speed" v) } rest
  | arg :: _ => .error ("unexpected argument '" ++ arg ++ "'")

/-- The settings after the options that override them. -/
def Options.apply (o : Options) (s : Settings) : Settings :=
  let s := match o.home with
    | some h => { s with home := h }
    | none => s
  let s := match o.romDir with
    | some d => { s with romDir := d }
    | none => s
  match o.speed with
  | some v => { s with speed := v }
  | none => s

/-- The name of the settings file in a directory. -/
def configName : String := "c64_config.json"

/-- The settings files to try, first readable one wins: the one the options name; else the one
in the home directory the options name; and last the one in the program's directory. The
last is also where the settings are saved when no other file is readable. -/
def Options.configPaths (o : Options) (exeDir : String) : List String :=
  match o.config, o.home with
  | some c, _ => [c]
  | none, some h => [Path.join h configName, Path.join exeDir configName]
  | none, none => [Path.join exeDir configName]

/-- The contents of a file, or `none` when it cannot be read. -/
def readText (path : String) : IO (Option String) := do
  try return some (← IO.FS.readFile path) catch _ => return none

/-- The files the machine may need, read from disk. -/
def readVolume (paths : List String) : IO Volume := do
  let mut v : Volume := []
  for p in paths do
    try v := (p, (← IO.FS.readBinFile p).data) :: v catch _ => pure ()
  return v

/-- Steps until a fault, a million steps at a time; the machine never stops on its own
otherwise. -/
partial def runForever (m : Machine) : IO (Fault × Machine) :=
  match m.runToFault 1000000 with
  | .error r => pure r
  | .ok m => runForever m

/-- Runs for `budget` cycles, or until a fault when the budget is 0. -/
def runBudget (m : Machine) (budget : Nat) : IO (Except Fault Unit × Machine) := do
  if budget = 0 then
    let (f, m) ← runForever m
    return (.error f, m)
  else return m.runCycles budget

/-- Runs in slices of a millisecond of machine time from cycle `start`, sleeping whenever the
machine is ahead of the wall clock, which started at `t0` milliseconds. -/
partial def pacedFrom (m : Machine) (start budget perMilli t0 : Nat) :
    IO (Except Fault Unit × Machine) := do
  let executed := m.cpu.regs.cycles - start
  if budget > 0 ∧ executed ≥ budget then return (.ok (), m)
  let slice := if budget > 0 then min perMilli (budget - executed) else perMilli
  match m.runCycles slice with
  | (.error f, m) => return (.error f, m)
  | (.ok (), m) =>
    let target := (m.cpu.regs.cycles - start) / perMilli
    let elapsed := (← IO.monoMsNow) - t0
    if target > elapsed then IO.sleep (target - elapsed).toUInt32
    pacedFrom m start budget perMilli t0

/-- Runs `budget` cycles (0: until a fault) at `speed` times the machine's clock rate; speed 0
runs as fast as it can. The state reached is that of `runBudget`: the pace only spreads the
same steps out in time. -/
def runPaced (m : Machine) (budget speed : Nat) : IO (Except Fault Unit × Machine) := do
  if speed = 0 then runBudget m budget
  else pacedFrom m m.cpu.regs.cycles budget (max 1 (m.cps * speed / 1000)) (← IO.monoMsNow)

/-- Reads a program file. -/
def readProgram (path : String) : IO (Except Fault (List UInt8)) := do
  try return .ok (← IO.FS.readBinFile path).data.toList catch _ =>
    return .error (Fault.io path .notFound)

/-- Runs the machine as the options say: the delay, the program, then the rest of the budget. -/
def session (o : Options) (speed : Nat) (m : Machine) : IO (Except Fault Unit × Machine) := do
  match o.prg with
  | none => runPaced m o.cycles speed
  | some path =>
    let delay := if o.cycles > 0 then min o.prgDelay o.cycles else o.prgDelay
    let (r, m) ← if delay > 0 then runPaced m delay speed else pure (.ok (), m)
    match r with
    | .error f => return (.error f, m)
    | .ok () =>
      match ← readProgram path with
      | .error f => return (.error f, m)
      | .ok data =>
        match m.loadPrg data with
        | (.error f, m) => return (.error f, m)
        | (.ok _, m) =>
          if o.cycles > 0 then
            let rest := o.cycles - delay
            if rest = 0 then return (.ok (), m) else runPaced m rest speed
          else runPaced m 0 speed

/-- The directory part of a path, if it has a non-empty one. -/
def parentDir (path : String) : Option String :=
  match (path.splitOn "/").dropLast with
  | [] => none
  | [""] => some "/"
  | parts => some ("/".intercalate parts)

/-- Saves the frame as a PNG file, making its directory first. -/
def saveScreenshot (m : Machine) (path : String) : IO (Except Fault Unit) := do
  if let some dir := parentDir path then
    try IO.FS.createDirAll dir catch _ => return .error (Fault.io dir .notFound)
  try
    IO.FS.writeBinFile path (Png.encode m.vic.pixels)
    return .ok ()
  catch _ => return .error (Fault.io path .notFound)

end Breadbox.Cli

open Breadbox in
/-- Entry point. -/
def main (args : List String) : IO UInt32 := do
  match Cli.parse {} args with
  | .error msg =>
    IO.eprintln msg
    return 2
  | .ok o =>
    let exeDir := toString (← IO.appDir)
    let candidates := o.configPaths exeDir
    let mut path := candidates.getLastD (Path.join exeDir Cli.configName)
    let mut text := none
    for c in candidates do
      if text.isNone then
        if let some t ← Cli.readText c then
          path := c
          text := some t
    let s := o.apply (Settings.load text)
    if o.saveConfig then
      try IO.FS.writeFile path s.pretty catch _ =>
        IO.eprintln (Fault.io path .notFound).message
        return 1
    IO.println "Breadbox - Commodore 64 emulator"
    let romFiles := [s.romPath exeDir s.basicRom, s.romPath exeDir s.kernalRom,
      s.romPath exeDir s.chargenRom]
    match Machine.ofSettings s exeDir (← Cli.readVolume romFiles) with
    | .error f =>
      IO.eprintln f.message
      return 1
    | .ok m =>
      let (r, m) ← Cli.session o s.speed m
      IO.println ("Executed " ++ toString m.cpu.regs.cycles ++ " cycles, final PC: $" ++
        Radix.word m.cpu.regs.pc)
      if let .error f@(.unknownOpcode _ _) := r then
        IO.eprintln ("CPU jam: " ++ f.message)
        IO.eprintln Registers.dumpHeader
        IO.eprintln m.cpu.regs.display
        IO.eprintln ("$" ++ Radix.word m.cpu.regs.pc ++ ": " ++ m.board.dumpLine m.cpu.regs.pc 16)
      let shot ← match o.screenshot with
        | some file => Cli.saveScreenshot m (s.screenshotPath exeDir file)
        | none => pure (.ok ())
      match shot, r with
      | .error f, _ | .ok (), .error f =>
        IO.eprintln f.message
        return 1
      | .ok (), .ok () => return 0
