import Breadbox.Bus
import Breadbox.Memory.Ram
import Breadbox.Memory.Rom

/-!
# Bank switching

The low three bits of the bank register at `$0001` choose what the processor sees in three
windows of the address space:

| mode | `$A000-$BFFF` | `$D000-$DFFF` | `$E000-$FFFF` |
|------|---------------|---------------|---------------|
| 0, 4 | RAM           | RAM           | RAM           |
| 1    | RAM           | CHARGEN       | RAM           |
| 2    | RAM           | CHARGEN       | KERNAL        |
| 3    | BASIC         | CHARGEN       | KERNAL        |
| 5    | RAM           | I/O           | RAM           |
| 6    | RAM           | I/O           | KERNAL        |
| 7    | BASIC         | I/O           | KERNAL        |

In the I/O window, `$DC00-$DCFF` is CIA 1, its sixteen registers repeated, and the rest is
a shadow store. Writes never reach a ROM: they go to the I/O window when it is visible and to
RAM everywhere else, also under a ROM.

A program image starts with its load address; loading it to `$0801`, where BASIC programs
live, also sets BASIC's end-of-program and variable pointers to the end of the image.
-/

namespace Breadbox

/-- Where an address leads. -/
inductive Region where
  | ram (a : UInt16)
  | basic (i : Fin 8192)
  | kernal (i : Fin 8192)
  | chargen (i : Fin 4096)
  | io (i : Fin 4096)
  /-- A CIA 1 register, already reduced to its four bits. -/
  | cia (r : UInt8)
deriving Repr, DecidableEq

namespace Region

/-- The CIA register or I/O shadow byte of an address in `$D000-$DFFF`. -/
@[inline] def ofIo (n : Nat) (h : 0xD000 ≤ n ∧ n ≤ 0xDFFF) : Region :=
  if 0xDC00 ≤ n ∧ n ≤ 0xDCFF then .cia (UInt8.ofNat ((n - 0xDC00) % 16))
  else .io ⟨n - 0xD000, by omega⟩

/-- Where a read of `a` leads in bank mode `mode`. -/
@[inline] def ofRead (mode : Nat) (a : UInt16) : Region :=
  let n := a.toNat
  if h : 0xA000 ≤ n ∧ n ≤ 0xBFFF ∧ (mode = 3 ∨ mode = 7) then .basic ⟨n - 0xA000, by omega⟩
  else if h : 0xD000 ≤ n ∧ n ≤ 0xDFFF then
    if 1 ≤ mode ∧ mode ≤ 3 then .chargen ⟨n - 0xD000, by omega⟩
    else if 5 ≤ mode then ofIo n h
    else .ram a
  else if h : 0xE000 ≤ n ∧ (mode = 2 ∨ mode = 3 ∨ mode = 6 ∨ mode = 7) then
    .kernal ⟨n - 0xE000, by have := a.toNat_lt; omega⟩
  else .ram a

/-- Where a write to `a` leads in bank mode `mode`. -/
@[inline] def ofWrite (mode : Nat) (a : UInt16) : Region :=
  let n := a.toNat
  if h : 0xD000 ≤ n ∧ n ≤ 0xDFFF ∧ mode > 4 then ofIo n ⟨h.1, h.2.1⟩ else .ram a

end Region

/-- RAM, the I/O shadow and the ROMs. -/
structure Memory where
  ram : Ram
  io : Vector UInt8 4096 := Vector.replicate 4096 0
  roms : RomSet
deriving Repr, DecidableEq

namespace Memory

/-- The bank register at power-on: BASIC, I/O and KERNAL visible. -/
def powerOnBanks : UInt8 := 0x37

/-- Memory at power-on: RAM cleared but for the bank register. -/
def new (roms : RomSet) : Memory := { ram := Ram.zero.set 1 powerOnBanks, roms := roms }

/-- The bank mode: the low three bits of the bank register. -/
@[inline] def bankMode (m : Memory) : Nat := (m.ram.get 1 &&& 0x07).toNat

/-- Where a read of `a` leads now. -/
@[inline] def resolve (m : Memory) (a : UInt16) : Region := Region.ofRead m.bankMode a

/-- Where a write to `a` leads now. -/
@[inline] def resolveStore (m : Memory) (a : UInt16) : Region := Region.ofWrite m.bankMode a

/-- The byte a region holds; CIA registers are read through the chip instead and give 0
here. -/
@[inline] def readRegion (m : Memory) : Region → UInt8
  | .ram a => m.ram.get a
  | .basic i => m.roms.basic[i]
  | .kernal i => m.roms.kernal[i]
  | .chargen i => m.roms.chargen[i]
  | .io i => m.io[i]
  | .cia _ => 0

/-- Writes a byte of the I/O shadow. -/
@[inline] def pokeIo (m : Memory) (i : Fin 4096) (v : UInt8) : Memory :=
  { m with io := m.io.set i v i.isLt }

/-- A byte of the character ROM as the video chip fetches it, the offset taken modulo 4 KB. -/
def charRom (m : Memory) (offset : Nat) : UInt8 :=
  have h : offset % 4096 < 4096 := Nat.mod_lt _ (by decide)
  m.roms.chargen[offset % 4096]

/-- Writes RAM directly, whatever is banked in. -/
def pokeRam (m : Memory) (a : UInt16) (v : UInt8) : Memory := { m with ram := m.ram.set a v }

/-- BASIC's pointers to the end of the program and to the start and end of its variables. -/
def basicPointers : List UInt16 := [0x002D, 0x002F, 0x0031]

/-- Where BASIC programs are loaded. -/
def basicStart : UInt16 := 0x0801

/-- Loads a program image: two bytes of load address, then the bytes to store from there on,
wrapping past `$FFFF`. Returns the load address. -/
def loadPrg (m : Memory) (data : List UInt8) : Except Fault (UInt16 × Memory) :=
  match data with
  | lo :: hi :: body =>
    let a := word lo hi
    let m := { m with ram := m.ram.load a body }
    let m :=
      if a = basicStart then
        let stop := a + UInt16.ofNat body.length
        basicPointers.foldl (fun m p =>
          { m with ram := (m.ram.set p stop.toUInt8).set (p + 1) (stop >>> 8).toUInt8 }) m
      else m
    .ok (a, m)
  | _ => .error (.programTooShort data.length)

end Memory

end Breadbox
