import Breadbox.Text.Space
import Breadbox.Text.Quote

/-!
# Fixed-width numerals

Register dumps, error messages and memory listings print numbers with a fixed count of
digits in base 16 or base 2. `digits` keeps the last `width` digits of a number, most
significant first, so a value that is too wide loses its high digits and a narrow one is
padded with zeros. Its length is always `width` (`length_digits`).
-/

namespace Breadbox.Radix

/-- The digit for a value below sixteen: `0`-`9`, then upper-case `A`-`F`. -/
def upperDigit (d : Nat) : Char :=
  if d < 10 then Char.ofNat (48 + d) else Char.ofNat (55 + d)

/-- The digit for a value below sixteen: `0`-`9`, then lower-case `a`-`f`. -/
def lowerDigit (d : Nat) : Char :=
  if d < 10 then Char.ofNat (48 + d) else Char.ofNat (87 + d)

/-- The last `width` digits of `n` in base `base`, most significant first. -/
def digits (base : Nat) (digit : Nat → Char) : Nat → Nat → List Char
  | 0, _ => []
  | width + 1, n => digits base digit width (n / base) ++ [digit (n % base)]

@[simp] theorem length_digits (base : Nat) (digit : Nat → Char) (width n : Nat) :
    (digits base digit width n).length = width := by
  induction width generalizing n with
  | zero => rfl
  | succ w ih => simp [digits, ih]

/-- `n` as `width` upper-case hexadecimal digits. -/
def hex (width n : Nat) : String :=
  String.ofList (digits 16 upperDigit width n)

/-- `n` as `width` lower-case hexadecimal digits. -/
def hexLower (width n : Nat) : String :=
  String.ofList (digits 16 lowerDigit width n)

/-- `n` as `width` binary digits. -/
def binary (width n : Nat) : String :=
  String.ofList (digits 2 upperDigit width n)

/-- A byte as two upper-case hexadecimal digits. -/
def byte (b : UInt8) : String := hex 2 b.toNat

/-- A word as four upper-case hexadecimal digits. -/
def word (w : UInt16) : String := hex 4 w.toNat

/-- Bytes as upper-case hexadecimal pairs with nothing between them. -/
def bytes (bs : List UInt8) : String :=
  String.join (bs.map byte)

/-- The value of a hexadecimal digit of either case. -/
def digitValue? (c : Char) : Option Nat :=
  if '0' ≤ c ∧ c ≤ '9' then some (c.toNat - '0'.toNat)
  else if 'a' ≤ c ∧ c ≤ 'f' then some (c.toNat - 'a'.toNat + 10)
  else if 'A' ≤ c ∧ c ≤ 'F' then some (c.toNat - 'A'.toNat + 10)
  else none

/-- A digit of either case reads back as its value. -/
theorem digitValue?_digit : ∀ d : Nat, d < 16 →
    digitValue? (upperDigit d) = some d ∧ digitValue? (lowerDigit d) = some d
  | 0, _ | 1, _ | 2, _ | 3, _ | 4, _ | 5, _ | 6, _ | 7, _ | 8, _ | 9, _ | 10, _ | 11, _
  | 12, _ | 13, _ | 14, _ | 15, _ => by decide
  | _ + 16, h => absurd h (by omega)

/-- Why a text is not a byte string in hexadecimal. -/
inductive HexError where
  /-- After the white space is taken out, the text has an odd number of bytes. -/
  | oddLength
  /-- A pair of bytes is not a byte value. -/
  | badPair
  /-- A pair ends at byte offset `stop`, inside the character `c` that starts at byte offset
  `start`: the text cannot be cut there. -/
  | splitChar (stop : Nat) (c : Char) (start : Nat)
deriving Repr, DecidableEq

/-- How a cut inside a character is reported. -/
def HexError.splitText (stop : Nat) (c : Char) (start : Nat) : String :=
  "end byte index " ++ toString stop ++ " is not a char boundary; it is inside " ++
    Text.quoteChar c ++ " (bytes " ++ toString start ++ ".." ++ toString (start + c.utf8Size) ++
    " of string)"

/-- One byte of a text, with its offset, the character it belongs to and that character's
first offset. The byte starts its character when the two offsets agree. -/
structure PlacedByte where
  byte : UInt8
  offset : Nat
  char : Char
  start : Nat
deriving Repr, DecidableEq

/-- The placed bytes of characters whose first starts at byte offset `off`. -/
def placeChars : Nat → List Char → List PlacedByte
  | _, [] => []
  | off, c :: cs =>
    (String.utf8EncodeChar c).zipIdx.map (fun (b, k) => ⟨b, off + k, c, off⟩) ++
      placeChars (off + c.utf8Size) cs

/-- The value of one byte of text as a hexadecimal digit. -/
def digitByte? (b : UInt8) : Option Nat :=
  if b < 0x80 then digitValue? (Char.ofNat b.toNat) else none

/-- A pair of bytes of text as a byte value: two hexadecimal digits, or a plus sign and
one digit. -/
def pairValue? (hi lo : UInt8) : Option UInt8 :=
  if hi = 0x2B then (digitByte? lo).map UInt8.ofNat
  else do
    let h ← digitByte? hi
    let l ← digitByte? lo
    return UInt8.ofNat (h * 16 + l)

/-- Byte values from the pairs of a placed byte list of even length, first to last. A pair
that ends inside a character is refused before its value is read. -/
def pairs : List PlacedByte → Except HexError (List UInt8)
  | hi :: lo :: rest =>
    match rest with
    | next :: _ =>
      if next.offset ≠ next.start then .error (.splitChar next.offset next.char next.start)
      else match pairValue? hi.byte lo.byte with
        | some v => (pairs rest).map (v :: ·)
        | none => .error .badPair
    | [] =>
      match pairValue? hi.byte lo.byte with
      | some v => .ok [v]
      | none => .error .badPair
  | _ => .ok []

/-- Reads bytes written as hexadecimal pairs of either case. White space anywhere is skipped.
The rest is cut into pairs of its UTF-8 bytes, so its byte length must be even, and no cut may
fall inside a character; a pair may also be a plus sign and one digit. -/
def decodeHex (s : String) : Except HexError (List UInt8) :=
  let placed := placeChars 0 (s.toList.filter fun c => !Text.isWhiteSpace c)
  if placed.length % 2 = 1 then .error .oddLength else pairs placed

example : (decodeHex "a9\u00a07F").toOption = some [0xA9, 0x7F] := by decide +kernel
example : (decodeHex "+F").toOption = some [0x0F] := by decide +kernel
example : (match decodeHex "01\u200b02" with
    | .error e => some e
    | .ok _ => none) = some .oddLength := by decide +kernel
example : (match decodeHex "a\u00e9b" with
    | .error e => some e
    | .ok _ => none) = some (.splitChar 2 'é' 1) := by decide +kernel

example : hex 4 0xFCE2 = "FCE2" := by decide
example : binary 8 0x34 = "00110100" := by decide
example : hexLower 2 0xAB = "ab" := by decide

end Breadbox.Radix
