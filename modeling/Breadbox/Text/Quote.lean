import Breadbox.Text.Hidden

/-!
# Quoted characters

A character shown in single quotes, as a diagnostic names it. Characters that print stand as
they are. The backslash, the single quote, tab, line feed, carriage return and NUL take their
short escapes. Characters that would not print, or that join the character before them, are
written as `\u{...}` with lower-case hexadecimal digits: the ASCII controls, and the
characters of `hiddenRanges`.
-/

namespace Breadbox.Text

/-- Whether a code point lies in one of the inclusive ranges. -/
def inRanges (n : Nat) : List (Nat × Nat) → Bool
  | [] => false
  | (lo, hi) :: rest => (lo ≤ n ∧ n ≤ hi) || inRanges n rest

/-- The lower-case hexadecimal digits of a number, without leading zeros. -/
def lowerHex (n : Nat) : String := String.ofList (Nat.toDigits 16 n)

/-- A character in single quotes, escaped where it would not show as itself. -/
def quoteChar (c : Char) : String :=
  let body :=
    if c = '\\' then "\\\\"
    else if c = '\'' then "\\'"
    else if c = '\t' then "\\t"
    else if c = '\n' then "\\n"
    else if c = '\r' then "\\r"
    else if c.toNat = 0 then "\\0"
    else if c.toNat < 0x20 ∨ c.toNat = 0x7F ∨ inRanges c.toNat hiddenRanges then
      "\\u" ++ "\x7b" ++ lowerHex c.toNat ++ "\x7d"
    else c.toString
  "'" ++ body ++ "'"

example : quoteChar 'é' = "'é'" := by decide +kernel
example : quoteChar (Char.ofNat 0x85) = "'\\u" ++ "\x7b" ++ "85" ++ "\x7d" ++ "'" := by
  decide +kernel
example : quoteChar (Char.ofNat 0x3164) = "'\\u" ++ "\x7b" ++ "3164" ++ "\x7d" ++ "'" := by
  decide +kernel
example : quoteChar (Char.ofNat 0xFF10) = "'\uFF10'" := by decide +kernel

end Breadbox.Text
