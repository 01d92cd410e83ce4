import Breadbox.Video.Chip

/-!
# PNG images of the frame

A frame as a PNG file: 8-bit RGB, one row after another, each row with filter type 0. The
image data is a zlib stream of stored (uncompressed) deflate blocks of at most 65535 bytes,
so every byte of the file follows from the pixels by the format's fixed layout; the
checksums are CRC-32 (chunks) and Adler-32 (the zlib stream), both folded byte by byte.
-/

namespace Breadbox.Png

/-- One bit of the reflected CRC-32 with polynomial `0xEDB88320`. -/
def crcBit (c : UInt32) : UInt32 :=
  if c &&& 1 = 1 then (c >>> 1) ^^^ 0xEDB88320 else c >>> 1

/-- The CRC register after one byte. -/
def crcByte (c : UInt32) (b : UInt8) : UInt32 :=
  Nat.repeat crcBit 8 (c ^^^ b.toUInt32)

/-- The CRC-32 of a byte string. -/
def crc (bytes : ByteArray) : UInt32 :=
  ~~~(bytes.foldl crcByte 0xFFFFFFFF)

/-- The largest prime below 65536: the modulus of Adler-32. -/
def adlerBase : UInt32 := 65521

/-- The Adler-32 checksum of a byte string. -/
def adler (bytes : ByteArray) : UInt32 :=
  let (a, b) := bytes.foldl (fun (a, b) x =>
    let a := (a + x.toUInt32) % adlerBase
    (a, (b + a) % adlerBase)) ((1 : UInt32), (0 : UInt32))
  (b <<< 16) ||| a

/-- A 32-bit number, most significant byte first. -/
def bigEndian (n : UInt32) : ByteArray :=
  ⟨#[(n >>> 24).toUInt8, (n >>> 16).toUInt8, (n >>> 8).toUInt8, n.toUInt8]⟩

/-- A chunk: its length, its four-letter type, its data and the CRC of type and data. -/
def chunk (kind : String) (data : ByteArray) : ByteArray :=
  let body := kind.toUTF8 ++ data
  bigEndian data.size.toUInt32 ++ body ++ bigEndian (crc body)

/-- The most bytes one stored deflate block carries. -/
def blockSize : Nat := 65535

/-- Stored deflate blocks holding `data`; the last one is marked final. Empty data still
needs one (empty, final) block. -/
def storedBlocks (data : ByteArray) : ByteArray :=
  let count := max 1 ((data.size + blockSize - 1) / blockSize)
  (List.range count).foldl (fun out i =>
    let start := i * blockSize
    let stop := min data.size (start + blockSize)
    let len := (stop - start).toUInt16
    out ++ ⟨#[if i + 1 = count then 1 else 0, len.toUInt8, (len >>> 8).toUInt8,
      (~~~len).toUInt8, ((~~~len) >>> 8).toUInt8]⟩ ++ data.extract start stop) ByteArray.empty

/-- A zlib stream of stored blocks: header, blocks, Adler-32 of the data. -/
def zlibStored (data : ByteArray) : ByteArray :=
  ⟨#[0x78, 0x01]⟩ ++ storedBlocks data ++ bigEndian (adler data)

/-- The eight bytes every PNG file starts with. -/
def signature : ByteArray := ⟨#[0x89, 0x50, 0x4E, 0x47, 0x0D, 0x0A, 0x1A, 0x0A]⟩

/-- The scanlines of the frame: per line a filter byte 0, then red, green and blue of each
pixel. -/
def scanlines (pixels : Vector UInt32 framePixels) : ByteArray := Id.run do
  let mut out := ByteArray.emptyWithCapacity (rasterLines * (1 + 3 * rasterColumns))
  for i in List.range framePixels do
    if i % rasterColumns = 0 then out := out.push 0
    let p := pixels.getD i 0
    out := ((out.push (p >>> 16).toUInt8).push (p >>> 8).toUInt8).push p.toUInt8
  return out

/-- The frame as a PNG file. -/
def encode (pixels : Vector UInt32 framePixels) : ByteArray :=
  let header := bigEndian rasterColumns.toUInt32 ++ bigEndian rasterLines.toUInt32 ++
    ⟨#[8, 2, 0, 0, 0]⟩
  signature ++ chunk "IHDR" header ++ chunk "IDAT" (zlibStored (scanlines pixels)) ++
    chunk "IEND" ByteArray.empty

example : crc "IEND".toUTF8 = 0xAE426082 := by decide +kernel

end Breadbox.Png
