/-!
# PAL raster timing

A PAL frame has 312 raster lines of 63 machine cycles, 19656 cycles in all, and the video
chip draws 367 pixel columns per line. The raster line of a cycle count is its position in
the current frame, in whole lines, so it is always below 312 (`rasterLine_lt`).
-/

namespace Breadbox

/-- Raster lines per frame. -/
def rasterLines : Nat := 312

/-- Pixel columns per raster line. -/
def rasterColumns : Nat := 367

/-- Machine cycles per raster line. -/
def cyclesPerLine : Nat := 63

/-- Machine cycles per frame. -/
def cyclesPerFrame : Nat := rasterLines * cyclesPerLine

/-- The raster line the beam is on after `cycles` machine cycles. -/
def rasterLine (cycles : Nat) : Nat := cycles % cyclesPerFrame / cyclesPerLine

theorem rasterLine_lt (cycles : Nat) : rasterLine cycles < rasterLines := by
  unfold rasterLine cyclesPerFrame cyclesPerLine rasterLines
  have := Nat.mod_lt cycles (show 312 * 63 > 0 by decide)
  omega

end Breadbox
