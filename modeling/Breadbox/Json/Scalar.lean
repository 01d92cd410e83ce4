/-!
# JSON numbers and strings

The two kinds of JSON scalar that carry data. A number keeps its sign, the value of its integer
digits and whether a fraction or an exponent followed them; the settings and the requests use
whole numbers only, so nothing more of it is ever needed. A string keeps its text and whether it
is exact: its `\u` escapes are UTF-16 code units, and a surrogate that does not pair with its
neighbour leaves the string inexact.
-/

namespace Breadbox.Json

/-- A JSON number as written: sign, value of the integer digits, and whether a fraction or an
exponent followed them. -/
structure Number where
  negative : Bool
  integer : Nat
  plain : Bool
deriving Repr, DecidableEq

/-- A string as read: its text, and whether every `\u` surrogate had its partner. -/
structure Text where
  value : String
  exact : Bool
deriving Repr, DecidableEq

/-- A piece of string content: a character, or the code unit of a `\u` escape. -/
inductive Piece where
  | char (c : Char)
  | unit (u : Nat)
deriving Repr, DecidableEq

/-- Whether a code unit is half of a surrogate pair. -/
def isSurrogate (u : Nat) : Bool := 0xD800 ≤ u ∧ u ≤ 0xDFFF

/-- The character of a surrogate pair. -/
def pairChar (hi lo : Nat) : Char := Char.ofNat (0x10000 + (hi - 0xD800) * 0x400 + (lo - 0xDC00))

/-- Joins pieces into characters; `none` when a surrogate code unit has no partner. A high
surrogate must be followed at once by a low one. -/
def joinPieces : List Piece → Option (List Char)
  | [] => some []
  | .char c :: rest => (joinPieces rest).map (c :: ·)
  | .unit u :: rest =>
    if isSurrogate u then
      if u ≤ 0xDBFF then
        match rest with
        | .unit lo :: more =>
          if 0xDC00 ≤ lo ∧ lo ≤ 0xDFFF then (joinPieces more).map (pairChar u lo :: ·)
          else none
        | _ => none
      else none
    else (joinPieces rest).map (Char.ofNat u :: ·)

/-- The text of a finished string. With a lone surrogate the string is not exact, and its
text keeps only the plain characters. -/
def Text.ofPieces (pieces : List Piece) : Text :=
  match joinPieces pieces with
  | some cs => ⟨String.ofList cs, true⟩
  | none => ⟨String.ofList (pieces.filterMap fun | .char c => some c | .unit _ => none), false⟩

example : (Text.ofPieces [.unit 0xD83D, .unit 0xDE00]).exact = true := by decide
example : (Text.ofPieces [.unit 0xD83D, .char 'x']).exact = false := by decide

end Breadbox.Json
