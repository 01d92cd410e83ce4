import Breadbox.Memory.Board
import Breadbox.Video.Raster
import Breadbox.Video.Palette

/-!
# The video chip

The chip draws one raster line behind the beam: when the raster line of the cycle count
changes, it publishes the new line in `$D012` (bit 8 in bit 7 of `$D011`) and draws the line
it has just left into a 367 × 312 pixel buffer. Drawing the last line completes a frame.

Lines 51 to 250 and columns 24 to 343 form the display window; everything else is border.
Inside it the chip shows 25 rows of 40 cells of 8 × 8 pixels, in text mode (a screen code
per cell, its glyph from the character ROM or RAM, its colour from colour RAM), in hires
bitmap mode (a bit per pixel, two colours per cell from the screen), or in multicolour bitmap
mode (two bits per double pixel, three colours per cell and the background).

Every byte the chip needs is read through the system bus in a fixed order, with the bus's
side effects, except glyphs from the character ROM, which it reads directly. Its registers
are the I/O shadow: `$D011` mode and raster bit 8, `$D016` multicolour, `$D018` screen and
glyph addresses, `$D020` border and `$D021` background colour, and the video bank in the low
bits of `$DD00`.
-/

namespace Breadbox

/-- A computation of the video chip's bus reads. -/
abbrev Scan := StateM Board

namespace Scan

/-- Reads the bus. -/
@[inline] def read (a : UInt16) : Scan UInt8 := modifyGet fun b => b.read a

/-- Writes the bus. -/
@[inline] def write (a : UInt16) (v : UInt8) : Scan Unit := modify fun b => b.write a v

end Scan

/-! Register addresses of the video chip and its neighbours. -/

namespace VicReg
def scrollY : UInt16 := 0xD011
def raster : UInt16 := 0xD012
def scrollX : UInt16 := 0xD016
def memSetup : UInt16 := 0xD018
def border : UInt16 := 0xD020
def background : UInt16 := 0xD021
def colorRam : UInt16 := 0xD800
def bankSelect : UInt16 := 0xDD00
end VicReg

/-- The values a line is drawn with. -/
structure LineSetup where
  border : UInt32
  background : UInt32
  /-- Start of the 16 KB video bank. -/
  bank : UInt16
  /-- Start of the screen matrix inside the bank. -/
  screen : UInt16
  /-- Text row of the line, and pixel row inside it. -/
  row : UInt16
  charY : UInt16

/-- Where glyphs come from: an offset into the character ROM, or an address on the bus. -/
inductive GlyphSource where
  | charRom (offset : UInt16)
  | bus (base : UInt16)

namespace Scan

/-- Start of the video bank: bank bits 3, 2, 1, 0 select `$0000`, `$4000`, `$8000`, `$C000`. -/
def bankAddress : Scan UInt16 := do
  let bank ← read VicReg.bankSelect
  return (0xC000 : UInt16) - (bank &&& 0x03).toUInt16 * 0x4000

/-- Reads the setup of raster line `line`. -/
def setup (line : Nat) : Scan LineSetup := do
  let y := line - 51
  let border := color (← read VicReg.border)
  let background := color (← read VicReg.background)
  let bank ← bankAddress
  let ms ← read VicReg.memSetup
  let screen := (0x0400 : UInt16) * (ms >>> 4).toUInt16
  return ⟨border, background, bank, screen, UInt16.ofNat (y / 8), UInt16.ofNat (y % 8)⟩

/-- The glyph source: glyph pointers 2 and 3 see the character ROM in banks 0 and 2. -/
def glyphSource : Scan GlyphSource := do
  let index := ((← read VicReg.memSetup) &&& 0x0E) >>> 1
  let offset := index.toUInt16 * 0x800
  let bank := (← read VicReg.bankSelect) &&& 0x03
  if (index = 2 ∨ index = 3) ∧ (bank = 3 ∨ bank = 1) then return .charRom offset
  else return .bus ((← bankAddress) + offset)

/-- A glyph byte. -/
@[inline] def glyph (source : GlyphSource) (offset : UInt16) : Scan UInt8 :=
  match source with
  | .charRom base => do return (← get).memory.charRom (base + offset).toNat
  | .bus base => read (base + offset)

/-- Whether a column shows the display window rather than border. -/
@[inline] def inDisplay (column : Nat) : Bool := 24 ≤ column ∧ column ≤ 343

/-- The pixels of a line: border outside the display columns, `pixel x` inside, left to
right. -/
@[inline] def columns (s : LineSetup) (pixel : UInt16 → Scan UInt32) : Scan (List UInt32) :=
  (List.range rasterColumns).mapM fun column =>
    if inDisplay column then pixel (UInt16.ofNat (column - 24)) else pure s.border

/-- A text-mode line. -/
def textLine (s : LineSetup) : Scan (List UInt32) := do
  let source ← glyphSource
  let screenRow := s.bank + s.screen + s.row * 40
  let colorRow := VicReg.colorRam + s.row * 40
  columns s fun x => do
    let cell := x / 8
    let code ← read (screenRow + cell)
    let fg := color (← read (colorRow + cell))
    let bits ← glyph source (code.toUInt16 * 8 + s.charY)
    return if bits &&& ((0x80 : UInt8) >>> (x &&& 7).toUInt8) != 0 then fg else s.background

/-- The colour and bitmap rows of a bitmap-mode line. -/
def bitmapRows (s : LineSetup) : Scan (UInt16 × UInt16) := do
  let colors := s.bank + s.screen + s.row * 40
  let base : UInt16 := if (← read VicReg.memSetup) &&& 0x08 != 0 then 0x2000 else 0
  return (colors, s.bank + base + s.row * 320 + s.charY)

/-- A hires bitmap line: a set bit takes the high nibble of the cell's screen byte, a clear
one the low nibble. -/
def hiresLine (s : LineSetup) : Scan (List UInt32) := do
  let (colors, bitmap) ← bitmapRows s
  columns s fun x => do
    let cell := x / 8
    let c ← read (colors + cell)
    let bits ← read (bitmap + cell * 8)
    return if bits &&& ((0x80 : UInt8) >>> (x &&& 7).toUInt8) != 0 then color (c >>> 4)
      else color c

/-- A multicolour bitmap line: bit pairs 00, 01, 10, 11 take the background, the high and
low nibble of the cell's screen byte, and its colour RAM byte. -/
def multicolorLine (s : LineSetup) : Scan (List UInt32) := do
  let (colors, bitmap) ← bitmapRows s
  let colorRamRow := VicReg.colorRam + s.row * 40
  columns s fun x => do
    let cell := x / 8
    let shift := 6 - (x &&& 6)
    let bits ← read (bitmap + cell * 8)
    let pair := (bits >>> shift.toUInt8) &&& 0x03
    if pair = 0 then return s.background
    else if pair = 1 then return color ((← read (colors + cell)) >>> 4)
    else if pair = 2 then return color (← read (colors + cell))
    else return color (← read (colorRamRow + cell))

/-- The pixels of raster line `line`. -/
def line (line : Nat) : Scan (List UInt32) := do
  let s ← setup line
  if 51 ≤ line ∧ line ≤ 250 then
    if (← read VicReg.scrollY) &&& 0x20 = 0 then textLine s
    else if (← read VicReg.scrollX) &&& 0x10 = 0 then hiresLine s
    else multicolorLine s
  else return List.replicate rasterColumns s.border

end Scan

/-- The number of pixels in a frame. -/
def framePixels : Nat := rasterLines * rasterColumns

/-- The video chip: its pixel buffer, the line it drew last, and its counters. -/
structure Vic where
  pixels : Vector UInt32 framePixels := Vector.replicate framePixels 0
  lastLine : Fin rasterLines := ⟨0, by decide⟩
  linesRendered : Nat := 0
  frames : Nat := 0
deriving Repr, DecidableEq

/-- Writes `row` into line `line` of a pixel buffer, from column `column` on. -/
def writeRow (pixels : Vector UInt32 framePixels) (line : Fin rasterLines) :
    Nat → List UInt32 → Vector UInt32 framePixels
  | _, [] => pixels
  | column, p :: rest =>
    if h : column < rasterColumns then
      have : line.val * rasterColumns + column < framePixels := by
        unfold framePixels rasterLines rasterColumns at *; have := line.isLt; omega
      writeRow (pixels.set (line.val * rasterColumns + column) p) line (column + 1) rest
    else pixels

namespace Vic

/-- Draws raster line `line`. -/
def renderLine (v : Vic) (line : Fin rasterLines) (b : Board) : Vic × Board :=
  let (row, b) := (Scan.line line.val).run b
  ({ v with pixels := writeRow v.pixels line 0 row, linesRendered := v.linesRendered + 1 }, b)

/-- Follows the beam to the raster line of `cycles`; when it moved, publishes the new line,
draws the one it left, and returns whether that completed a frame. -/
def refresh (v : Vic) (cycles : Nat) (b : Board) : Bool × Vic × Board :=
  let line : Fin rasterLines := ⟨rasterLine cycles, rasterLine_lt cycles⟩
  if line = v.lastLine then (false, v, b)
  else
    let b := b.write VicReg.raster (UInt8.ofNat line.val)
    let (s, b) := b.read VicReg.scrollY
    let b := b.write VicReg.scrollY ((s &&& 0x7F) ||| (if line.val > 255 then 0x80 else 0))
    let finished := v.lastLine
    let (v, b) := v.renderLine finished b
    let v := { v with lastLine := line }
    if finished.val = rasterLines - 1 then (true, { v with frames := v.frames + 1 }, b)
    else (false, v, b)

/-- The pixels of one raster line, left to right. -/
def row (v : Vic) (line : Fin rasterLines) : List UInt32 :=
  (List.range rasterColumns).map fun column =>
    if h : line.val * rasterColumns + column < framePixels then v.pixels[line.val * rasterColumns + column]
    else 0

/-- Runs of equal values, left to right, each with its length. -/
def runs : List UInt32 → List (UInt32 × Nat)
  | [] => []
  | p :: rest =>
    match runs rest with
    | (q, n) :: more => if p = q then (q, n + 1) :: more else (p, 1) :: (q, n) :: more
    | [] => [(p, 1)]

/-- FNV-1a over the little-endian bytes of a 32-bit value. -/
def fnvWord (h : UInt64) (p : UInt32) : UInt64 :=
  let step (h : UInt64) (byte : UInt32) : UInt64 := (h ^^^ (byte &&& 0xFF).toUInt64) * 0x100000001b3
  step (step (step (step h p) (p >>> 8)) (p >>> 16)) (p >>> 24)

/-- The 64-bit FNV-1a hash of the whole buffer, pixel by pixel in row order, each as four
little-endian bytes. -/
def frameHash (v : Vic) : UInt64 := v.pixels.foldl fnvWord 0xcbf29ce484222325

end Vic

end Breadbox
