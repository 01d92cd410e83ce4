import Breadbox.Json.Value

/-!
# Reading JSON text

A recursive-descent reader over the UTF-8 bytes of a text. The offset of the next byte is the
state; a failure names its problem and the byte offset it is reported at, and
`Failure.message` turns that offset into a line and a column (counted in bytes from the start
of the line).

There are two modes. In `Mode.keep` the value is kept, so it must be exactly representable:
a `\u` surrogate must pair with its neighbour, a number must not overflow a double, and
arrays and objects nest at most 127 deep. In `Mode.skip` only the syntax is checked, as for a
value that is read past and dropped; surrogates then stay as code units (the string is not
`exact`).

Every loop and every nested value spends one unit of fuel. Each step reads at least one byte
before the next value or item begins, so fuel of twice the length plus two never runs out
before the input does.

Where an error is reported follows one convention: a problem found in a byte that has been
read is reported at the offset after it (`failHere`); a problem found by looking at the next
byte without reading it is reported one byte further on (`failAhead`), but never past the end.
-/

namespace Breadbox.Json

/-- What makes a text not JSON. -/
inductive Problem where
  | eofInList
  | eofInObject
  | eofInString
  | eofInValue
  | expectedColon
  | expectedListCommaOrEnd
  | expectedObjectCommaOrEnd
  | expectedIdent
  | expectedValue
  | invalidEscape
  | invalidNumber
  | numberOutOfRange
  | controlCharacter
  | keyNotString
  | loneSurrogate
  | trailingComma
  | trailingCharacters
  | hexEscapeCut
  | tooDeep
deriving Repr, DecidableEq

/-- The wording of a problem. -/
def Problem.text : Problem → String
  | .eofInList => "EOF while parsing a list"
  | .eofInObject => "EOF while parsing an object"
  | .eofInString => "EOF while parsing a string"
  | .eofInValue => "EOF while parsing a value"
  | .expectedColon => "expected `:`"
  | .expectedListCommaOrEnd => "expected `,` or `]`"
  | .expectedObjectCommaOrEnd => "expected `,` or `\x7d`"
  | .expectedIdent => "expected ident"
  | .expectedValue => "expected value"
  | .invalidEscape => "invalid escape"
  | .invalidNumber => "invalid number"
  | .numberOutOfRange => "number out of range"
  | .controlCharacter => "control character (\\u0000-\\u001F) found while parsing a string"
  | .keyNotString => "key must be a string"
  | .loneSurrogate => "lone leading surrogate in hex escape"
  | .trailingComma => "trailing comma"
  | .trailingCharacters => "trailing characters"
  | .hexEscapeCut => "unexpected end of hex escape"
  | .tooDeep => "recursion limit exceeded"

/-- A problem and the byte offset it is reported at. -/
structure Failure where
  problem : Problem
  offset : Nat
deriving Repr, DecidableEq

/-- The line (from 1) and column (bytes from the start of the line) of a byte offset. -/
def position (bytes : ByteArray) (offset : Nat) : Nat × Nat :=
  (bytes.extract 0 offset).foldl
    (fun (line, column) b => if b = 10 then (line + 1, 0) else (line, column + 1)) (1, 0)

/-- The message of a failure in a text. -/
def Failure.message (bytes : ByteArray) (f : Failure) : String :=
  let (line, column) := position bytes f.offset
  f.problem.text ++ " at line " ++ toString line ++ " column " ++ toString column

/-- Whether the value read is kept, and so must be exact, or only checked and dropped. -/
inductive Mode where
  | keep
  | skip
deriving Repr, DecidableEq

/-- What a reader reads: the bytes of the text and the mode. -/
structure Source where
  bytes : ByteArray
  mode : Mode

/-- A reader: the state is the offset of the next byte. -/
abbrev Reader := ReaderT Source (StateT Nat (Except Failure))

/-- The byte at an offset, if there is one. -/
def byteAt? (bytes : ByteArray) (i : Nat) : Option UInt8 :=
  if h : i < bytes.size then some bytes[i] else none

/-- The next byte, without reading it. -/
def peek? : Reader (Option UInt8) := do
  return byteAt? (← read).bytes (← get)

/-- Reads the next byte. -/
def bump : Reader Unit := modify (· + 1)

/-- Reads and returns the next byte, if there is one. -/
def next? : Reader (Option UInt8) := do
  let c ← peek?
  if c.isSome then bump
  return c

/-- Fails at the current offset. -/
def failHere {α : Type} (p : Problem) : Reader α := do
  throw ⟨p, ← get⟩

/-- Fails one byte past the current offset, but not past the end. -/
def failAhead {α : Type} (p : Problem) : Reader α := do
  throw ⟨p, min ((← get) + 1) (← read).bytes.size⟩

/-- Whether a byte is a JSON blank: space, line feed, tab or carriage return. -/
def isBlank (b : UInt8) : Bool := b = 0x20 ∨ b = 0x0A ∨ b = 0x09 ∨ b = 0x0D

/-- Whether a byte is a decimal digit. -/
def isDigit (b : UInt8) : Bool := 0x30 ≤ b ∧ b ≤ 0x39

/-- The first offset from `i` on whose byte fails `p`, or the end. -/
def scanWhile (p : UInt8 → Bool) (bytes : ByteArray) (i : Nat) : Nat :=
  if h : i < bytes.size then
    if p bytes[i] then scanWhile p bytes (i + 1) else i
  else i
termination_by bytes.size - i

/-- Skips blanks and returns the next byte, without reading it. -/
def skipBlanks : Reader (Option UInt8) := do
  set (scanWhile isBlank (← read).bytes (← get))
  peek?

/-! ## Strings -/

/-- The character of a one-letter escape. -/
def escapeChar? (b : UInt8) : Option Char :=
  if b = 0x22 then some '"' else if b = 0x5C then some '\\' else if b = 0x2F then some '/'
  else if b = 0x62 then some (Char.ofNat 8) else if b = 0x66 then some (Char.ofNat 12)
  else if b = 0x6E then some '\n' else if b = 0x72 then some '\r'
  else if b = 0x74 then some '\t'
  else none

/-- The value of a hexadecimal digit byte. -/
def hexByte? (b : UInt8) : Option Nat :=
  if 0x30 ≤ b ∧ b ≤ 0x39 then some (b.toNat - 0x30)
  else if 0x61 ≤ b ∧ b ≤ 0x66 then some (b.toNat - 0x61 + 10)
  else if 0x41 ≤ b ∧ b ≤ 0x46 then some (b.toNat - 0x41 + 10)
  else none

/-- The value of the four hexadecimal digits at an offset. -/
def quadAt? (bytes : ByteArray) (i : Nat) : Option Nat := do
  let a ← hexByte? (← byteAt? bytes i)
  let b ← hexByte? (← byteAt? bytes (i + 1))
  let c ← hexByte? (← byteAt? bytes (i + 2))
  let d ← hexByte? (← byteAt? bytes (i + 3))
  return ((a * 16 + b) * 16 + c) * 16 + d

/-- Reads the four hexadecimal digits of a `\u` escape. All four are read before any is
checked; when fewer than four bytes are left, the text ends inside the string. -/
def hex4 : Reader Nat := do
  let bytes := (← read).bytes
  let i ← get
  if i + 4 ≤ bytes.size then
    set (i + 4)
    match quadAt? bytes i with
    | some n => pure n
    | none => failHere .invalidEscape
  else
    set bytes.size
    failHere .eofInString

/-- Reads the byte that must follow a high surrogate's escape (the backslash, then `u`). -/
def expectAfterHigh (b : UInt8) : Reader Unit := do
  match ← next? with
  | none => failHere .eofInString
  | some c => if c = b then pure () else failHere .hexEscapeCut

/-- Reads a `\u` escape after its `u`. A kept string takes a character: a high surrogate must
be followed at once by an escaped low one, and a low surrogate may not come first. A skipped
string keeps the code unit. -/
def readUnicode (acc : Array Piece) : Reader (Array Piece) := do
  let n ← hex4
  match (← read).mode with
  | .skip => pure (acc.push (.unit n))
  | .keep =>
    if 0xDC00 ≤ n ∧ n ≤ 0xDFFF then failHere .loneSurrogate
    else if n < 0xD800 ∨ 0xDBFF < n then pure (acc.push (.char (Char.ofNat n)))
    else do
      expectAfterHigh 0x5C
      expectAfterHigh 0x75
      let lo ← hex4
      if lo < 0xDC00 ∨ 0xDFFF < lo then failHere .loneSurrogate
      else pure (acc.push (.char (pairChar n lo)))

/-- Reads an escape after its backslash. -/
def readEscape (acc : Array Piece) : Reader (Array Piece) := do
  match ← next? with
  | none => failHere .eofInString
  | some b =>
    if b = 0x75 then readUnicode acc
    else match escapeChar? b with
      | some c => pure (acc.push (.char c))
      | none => failHere .invalidEscape

/-- Whether a byte goes into a string as it stands: not a quote, a backslash or a control
character. -/
def isPlain (b : UInt8) : Bool := b ≠ 0x22 ∧ b ≠ 0x5C ∧ 0x20 ≤ b

/-- The characters of a run of plain bytes. A run starts and ends next to an ASCII byte or
at the ends of the text, so it is whole UTF-8. -/
def plainPieces (run : ByteArray) : List Piece :=
  ((String.fromUTF8? run).getD "").toList.map .char

/-- Reads the rest of a string after its opening quote. -/
def readString : Nat → Array Piece → Reader Text
  | 0, _ => failHere .eofInString
  | fuel + 1, acc => do
    let bytes := (← read).bytes
    let i ← get
    let j := scanWhile isPlain bytes i
    let acc := acc ++ (plainPieces (bytes.extract i j)).toArray
    set j
    match ← next? with
    | none => failHere .eofInString
    | some b =>
      if b = 0x22 then pure (Text.ofPieces acc.toList)
      else if b = 0x5C then do
        let acc ← readEscape acc
        readString fuel acc
      else failHere .controlCharacter

/-! ## Numbers -/

/-- The values of the digit bytes from `i` up to `j`. -/
def digitsBetween (bytes : ByteArray) (i j : Nat) : List Nat :=
  (bytes.extract i j).toList.map fun b => b.toNat - 0x30

/-- The value of a list of decimal digits. -/
def digitsValue (ds : List Nat) : Nat := ds.foldl (fun v d => v * 10 + d) 0

/-- Whether `v * 10 + d` would pass `limit`. -/
def overflows (v d limit : Nat) : Bool := limit / 10 ≤ v ∧ (limit / 10 < v ∨ limit % 10 < d)

/-- The largest 64-bit unsigned value. -/
def wordLimit : Nat := 18446744073709551615

/-- The largest 32-bit signed value. -/
def exponentLimit : Nat := 2147483647

/-- A decimal significand that fits in 64 bits, with a power of ten. Digits are taken while
they fit; integer digits past that raise the power, and fraction digits past it are dropped. -/
structure Scaled where
  significand : Nat
  power : Int
  /-- Whether digits no longer fit. -/
  full : Bool
deriving Repr, DecidableEq

/-- Takes the integer digits after the first. -/
def Scaled.integerDigits : Scaled → List Nat → Scaled
  | s, [] => s
  | s, d :: ds =>
    if s.full ∨ overflows s.significand d wordLimit then
      Scaled.integerDigits { s with power := s.power + 1, full := true } ds
    else Scaled.integerDigits { s with significand := s.significand * 10 + d } ds

/-- Takes the fraction digits. Once one no longer fits, the rest are dropped. -/
def Scaled.fractionDigits : Scaled → List Nat → Scaled
  | s, [] => s
  | s, d :: ds =>
    if overflows s.significand d wordLimit then s
    else Scaled.fractionDigits { s with significand := s.significand * 10 + d, power := s.power - 1 } ds

/-- The position of the first exponent digit after the first at which the exponent no longer
fits in 32 bits, counting the first digit as position 0. -/
def exponentOverflowAt (value index : Nat) : List Nat → Option Nat
  | [] => none
  | d :: ds =>
    if overflows value d exponentLimit then some index
    else exponentOverflowAt (value * 10 + d) (index + 1) ds

/-- Clamps to the 32-bit signed range. -/
def clampWord32 (x : Int) : Int := max (-2147483648) (min 2147483647 x)

/-- The nearest double to a natural number, ties to even, as a natural number. -/
def nearestDouble (n : Nat) : Nat :=
  let k := n.log2 + 1 - 53
  if n.log2 < 53 then n
  else
    let m := n / Nat.pow 2 k
    let r := n % Nat.pow 2 k
    let half := Nat.pow 2 (k - 1)
    let m := if half < r ∨ (r = half ∧ m % 2 = 1) then m + 1 else m
    m * Nat.pow 2 k

/-- Whether `significand · 10^power`, computed in doubles as the significand's nearest double
times the power's nearest double, overflows. Products from `2^1024 - 2^970` on round to
infinity. Negative powers only divide, and a zero significand never overflows. -/
def overflowsDouble (significand : Nat) (power : Int) : Bool :=
  if significand = 0 ∨ power < 0 then false
  else if 308 < power then true
  else
    Nat.pow 2 1024 - Nat.pow 2 970 ≤
      nearestDouble significand * nearestDouble (Nat.pow 10 power.toNat)

/-- Reads the digits of an exponent after its letter and sign. A kept number whose exponent
does not fit in 32 bits is out of range when its significand is not zero and the exponent is
positive; otherwise the number is zero. Returns the exponent, or `none` for zero. -/
def readExponentDigits (significand : Nat) (positive : Bool) : Reader (Option Nat) := do
  let bytes := (← read).bytes
  match ← next? with
  | none => failHere .eofInValue
  | some b =>
    if !isDigit b then failHere .invalidNumber
    else
      let i ← get
      let j := scanWhile isDigit bytes i
      let ds := digitsBetween bytes i j
      match exponentOverflowAt (b.toNat - 0x30) 1 ds with
      | some k =>
        set (i + k)
        if (← read).mode = .keep ∧ significand ≠ 0 ∧ positive then failHere .numberOutOfRange
        else
          set j
          pure none
      | none =>
        set j
        pure (some (digitsValue ((b.toNat - 0x30) :: ds)))

/-- Reads a number after its sign. In a kept number the significand is taken in 64 bits and
the whole must be a finite double. -/
def readNumber (negative : Bool) : Reader Number := do
  let bytes := (← read).bytes
  let start ← get
  let intDigits ← do
    match ← next? with
    | none => failHere .eofInValue
    | some b =>
      if b = 0x30 then
        match ← peek? with
        | some c => if isDigit c then failAhead .invalidNumber else pure [0]
        | none => pure [0]
      else if isDigit b then do
        let j := scanWhile isDigit bytes (start + 1)
        set j
        pure (digitsBetween bytes start j)
      else failHere .invalidNumber
  let integer := digitsValue intDigits
  let scaled := Scaled.integerDigits ⟨intDigits.headD 0, 0, false⟩ intDigits.tail
  let (scaled, fractional) ← do
    if (← peek?) = some 0x2E then do
      bump
      let i ← get
      let j := scanWhile isDigit bytes i
      set j
      if j = i then
        match ← peek? with
        | some _ => failAhead .invalidNumber
        | none => failAhead .eofInValue
      else pure (scaled.fractionDigits (digitsBetween bytes i j), true)
    else pure (scaled, false)
  let next ← peek?
  let (power, exponent) ← do
    if next = some 0x65 ∨ next = some 0x45 then do
      bump
      let sign ← peek?
      let positive := sign ≠ some 0x2D
      if sign = some 0x2B ∨ sign = some 0x2D then bump
      match ← readExponentDigits scaled.significand positive with
      | some e => pure (some (clampWord32 (scaled.power + (if positive then (e : Int) else -(e : Int)))), true)
      | none => pure (none, true)
    else pure (some scaled.power, false)
  if (← read).mode = .keep then
    match power with
    | some p => if overflowsDouble scaled.significand p then failHere .numberOutOfRange
    | none => pure ()
  pure ⟨negative, integer, !fractional ∧ !exponent⟩

/-! ## Values -/

/-- Reads the letters of `true`, `false` or `null` after the first. -/
def readWord : List UInt8 → Reader Unit
  | [] => pure ()
  | b :: rest => do
    match ← next? with
    | none => failHere .eofInValue
    | some c => if c = b then readWord rest else failHere .expectedIdent

/-- Checks the nesting depth before an array or object opens. `depth` is how many more levels
a kept value may still open; the 128th level is refused. -/
def enter (depth : Nat) : Reader Unit := do
  if (← read).mode = .keep ∧ depth ≤ 1 then failAhead .tooDeep

mutual

/-- Reads one value after any blanks. -/
def readValue : Nat → Nat → Reader Value
  | 0, _ => failHere .eofInValue
  | fuel + 1, depth => do
    match ← skipBlanks with
    | none => failAhead .eofInValue
    | some b =>
      if b = 0x6E then do bump; readWord [0x75, 0x6C, 0x6C]; pure .null
      else if b = 0x74 then do bump; readWord [0x72, 0x75, 0x65]; pure (.bool true)
      else if b = 0x66 then do bump; readWord [0x61, 0x6C, 0x73, 0x65]; pure (.bool false)
      else if b = 0x2D then do bump; pure (.number (← readNumber true))
      else if isDigit b then do pure (.number (← readNumber false))
      else if b = 0x22 then do bump; pure (.string (← readString (← read).bytes.size.succ #[]))
      else if b = 0x5B then do
        enter depth
        bump
        let items ← readItems fuel (depth - 1) true #[]
        bump
        pure (.array items)
      else if b = 0x7B then do
        enter depth
        bump
        let members ← readMembers fuel (depth - 1) true #[]
        bump
        pure (.object members)
      else failAhead .expectedValue

/-- Reads the items of an array up to its closing bracket, which is left unread. -/
def readItems : Nat → Nat → Bool → Array Value → Reader (List Value)
  | 0, _, _, _ => failHere .eofInList
  | fuel + 1, depth, first, acc => do
    match ← skipBlanks with
    | none => failAhead .eofInList
    | some b =>
      if b = 0x5D then pure acc.toList
      else do
        if !first then
          if b = 0x2C then do
            bump
            match ← skipBlanks with
            | some c => if c = 0x5D then failAhead .trailingComma
            | none => failAhead .eofInValue
          else failAhead .expectedListCommaOrEnd
        let v ← readValue fuel depth
        readItems fuel depth false (acc.push v)

/-- Reads the members of an object up to its closing brace, which is left unread. -/
def readMembers : Nat → Nat → Bool → Array (Text × Value) → Reader (List (Text × Value))
  | 0, _, _, _ => failHere .eofInObject
  | fuel + 1, depth, first, acc => do
    match ← skipBlanks with
    | none => failAhead .eofInObject
    | some b =>
      if b = 0x7D then pure acc.toList
      else do
        let keyStart ← do
          if b = 0x2C ∧ !first then do bump; skipBlanks
          else if first then pure (some b)
          else failAhead .expectedObjectCommaOrEnd
        match keyStart with
        | none => failAhead .eofInValue
        | some k =>
          if k = 0x22 then do
            bump
            let key ← readString (← read).bytes.size.succ #[]
            match ← skipBlanks with
            | some c => if c = 0x3A then bump else failAhead .expectedColon
            | none => failAhead .eofInObject
            let v ← readValue fuel depth
            readMembers fuel depth false (acc.push (key, v))
          else if k = 0x7D then failAhead .trailingComma
          else failAhead .keyNotString

end

/-- Reads a whole text as one value with nothing but blanks after it. -/
def readText : Reader Value := do
  let v ← readValue (2 * (← read).bytes.size + 2) 128
  match ← skipBlanks with
  | some _ => failAhead .trailingCharacters
  | none => pure v

/-- Parses a text in a mode: the value, or the failure. -/
def parseWith (mode : Mode) (text : String) : Except Failure Value :=
  (readText.run ⟨text.toUTF8, mode⟩).run' 0

/-- Parses a text whose value is kept: the value, or the message of the failure. -/
def Value.parse (text : String) : Except String Value :=
  match parseWith .keep text with
  | .ok v => .ok v
  | .error f => .error (f.message text.toUTF8)

/-- The value of a text read in skip mode, when it is JSON: only the syntax is checked, and
strings keep lone surrogates as code units. -/
def Value.read? (text : String) : Option Value := (parseWith .skip text).toOption

end Breadbox.Json
