/-!
# The opcode table

Each of the 151 documented 6510 opcodes names an instruction, an addressing mode and a base
cycle count. Instructions come in four shapes, by what they do with their operand:
`control` instructions use none as a value, `read` instructions consume one byte, `store`
instructions write a register, and `modify` instructions read a byte, change it and write
it back. The other 105 opcode bytes have no entry.

`Opcode.find?` is the table as a function of the byte; `Opcode.decode` looks the same
entries up in an array built once from it (`decode_eq_find?`).
-/

namespace Breadbox

/-- How an instruction finds its operand. -/
inductive AddressMode where
  | implied | accumulator | immediate
  | zeroPage | zeroPageX | zeroPageY
  | absolute | absoluteX | absoluteY
  | indirect | indirectX | indirectY
  | relative
deriving Repr, DecidableEq

/-- The flag test of a conditional branch. -/
inductive Condition where
  | carryClear | carrySet | equal | notEqual | minus | plus | overflowClear | overflowSet
deriving Repr, DecidableEq

/-- Instructions that take no operand value: transfers, stack, flags, counters, branches,
jumps, BRK and NOP. -/
inductive Control where
  | tax | tay | txa | tya | tsx | txs
  | pha | php | pla | plp
  | clc | sec | cli | sei | clv | cld | sed
  | inx | iny | dex | dey
  | branch (cond : Condition)
  | jmp | jsr | rts | rti | brk | nop
deriving Repr, DecidableEq

/-- Instructions that read one operand byte. -/
inductive ReadOp where
  | lda | ldx | ldy | adc | sbc | and | ora | eor | cmp | cpx | cpy | bit
deriving Repr, DecidableEq

/-- The register a store instruction writes. -/
inductive Register where
  | a | x | y
deriving Repr, DecidableEq

/-- Instructions that read, change and write back one byte. -/
inductive ModifyOp where
  | asl | lsr | rol | ror | inc | dec
deriving Repr, DecidableEq

/-- An instruction, by the shape of its operand use. -/
inductive Instruction where
  | control (op : Control)
  | read (op : ReadOp)
  | store (r : Register)
  | modify (op : ModifyOp)
deriving Repr, DecidableEq

/-- One row of the opcode table. `cycles` excludes page-cross and taken-branch penalties. -/
structure Entry where
  instruction : Instruction
  mode : AddressMode
  cycles : Nat
deriving Repr, DecidableEq

namespace Condition

/-- The three-letter mnemonic of the branch on this condition. -/
def mnemonic : Condition → String
  | .plus => "BPL" | .minus => "BMI" | .overflowClear => "BVC" | .overflowSet => "BVS"
  | .carryClear => "BCC" | .carrySet => "BCS" | .notEqual => "BNE" | .equal => "BEQ"

end Condition

namespace Instruction

/-- The assembler mnemonic. -/
def mnemonic : Instruction → String
  | .control op =>
    match op with
    | .tax => "TAX" | .tay => "TAY" | .txa => "TXA" | .tya => "TYA" | .tsx => "TSX"
    | .txs => "TXS" | .pha => "PHA" | .php => "PHP" | .pla => "PLA" | .plp => "PLP"
    | .clc => "CLC" | .sec => "SEC" | .cli => "CLI" | .sei => "SEI" | .clv => "CLV"
    | .cld => "CLD" | .sed => "SED" | .inx => "INX" | .iny => "INY" | .dex => "DEX"
    | .dey => "DEY" | .branch c => c.mnemonic | .jmp => "JMP" | .jsr => "JSR"
    | .rts => "RTS" | .rti => "RTI" | .brk => "BRK" | .nop => "NOP"
  | .read op =>
    match op with
    | .lda => "LDA" | .ldx => "LDX" | .ldy => "LDY" | .adc => "ADC" | .sbc => "SBC"
    | .and => "AND" | .ora => "ORA" | .eor => "EOR" | .cmp => "CMP" | .cpx => "CPX"
    | .cpy => "CPY" | .bit => "BIT"
  | .store r =>
    match r with
    | .a => "STA" | .x => "STX" | .y => "STY"
  | .modify op =>
    match op with
    | .asl => "ASL" | .lsr => "LSR" | .rol => "ROL" | .ror => "ROR" | .inc => "INC"
    | .dec => "DEC"

end Instruction

namespace Opcode

/-- Shorthands for building the table. -/
private def ctl (op : Control) (mode : AddressMode) (cycles : Nat) : Option Entry :=
  some ⟨.control op, mode, cycles⟩
private def rd (op : ReadOp) (mode : AddressMode) (cycles : Nat) : Option Entry :=
  some ⟨.read op, mode, cycles⟩
private def st (r : Register) (mode : AddressMode) (cycles : Nat) : Option Entry :=
  some ⟨.store r, mode, cycles⟩
private def rmw (op : ModifyOp) (mode : AddressMode) (cycles : Nat) : Option Entry :=
  some ⟨.modify op, mode, cycles⟩

/-- The table entry of an opcode byte, if it is a documented opcode. -/
def find? : UInt8 → Option Entry
  -- loads and stores
  | 0xA9 => rd .lda .immediate 2 | 0xA5 => rd .lda .zeroPage 3 | 0xB5 => rd .lda .zeroPageX 4
  | 0xAD => rd .lda .absolute 4 | 0xBD => rd .lda .absoluteX 4 | 0xB9 => rd .lda .absoluteY 4
  | 0xA1 => rd .lda .indirectX 6 | 0xB1 => rd .lda .indirectY 5
  | 0xA2 => rd .ldx .immediate 2 | 0xA6 => rd .ldx .zeroPage 3 | 0xB6 => rd .ldx .zeroPageY 4
  | 0xAE => rd .ldx .absolute 4 | 0xBE => rd .ldx .absoluteY 4
  | 0xA0 => rd .ldy .immediate 2 | 0xA4 => rd .ldy .zeroPage 3 | 0xB4 => rd .ldy .zeroPageX 4
  | 0xAC => rd .ldy .absolute 4 | 0xBC => rd .ldy .absoluteX 4
  | 0x85 => st .a .zeroPage 3 | 0x95 => st .a .zeroPageX 4 | 0x8D => st .a .absolute 4
  | 0x9D => st .a .absoluteX 5 | 0x99 => st .a .absoluteY 5 | 0x81 => st .a .indirectX 6
  | 0x91 => st .a .indirectY 6
  | 0x86 => st .x .zeroPage 3 | 0x96 => st .x .zeroPageY 4 | 0x8E => st .x .absolute 4
  | 0x84 => st .y .zeroPage 3 | 0x94 => st .y .zeroPageX 4 | 0x8C => st .y .absolute 4
  -- arithmetic and compares
  | 0x69 => rd .adc .immediate 2 | 0x65 => rd .adc .zeroPage 3 | 0x75 => rd .adc .zeroPageX 4
  | 0x6D => rd .adc .absolute 4 | 0x7D => rd .adc .absoluteX 4 | 0x79 => rd .adc .absoluteY 4
  | 0x61 => rd .adc .indirectX 6 | 0x71 => rd .adc .indirectY 5
  | 0xE9 => rd .sbc .immediate 2 | 0xE5 => rd .sbc .zeroPage 3 | 0xF5 => rd .sbc .zeroPageX 4
  | 0xED => rd .sbc .absolute 4 | 0xFD => rd .sbc .absoluteX 4 | 0xF9 => rd .sbc .absoluteY 4
  | 0xE1 => rd .sbc .indirectX 6 | 0xF1 => rd .sbc .indirectY 5
  | 0xC9 => rd .cmp .immediate 2 | 0xC5 => rd .cmp .zeroPage 3 | 0xD5 => rd .cmp .zeroPageX 4
  | 0xCD => rd .cmp .absolute 4 | 0xDD => rd .cmp .absoluteX 4 | 0xD9 => rd .cmp .absoluteY 4
  | 0xC1 => rd .cmp .indirectX 6 | 0xD1 => rd .cmp .indirectY 5
  | 0xE0 => rd .cpx .immediate 2 | 0xE4 => rd .cpx .zeroPage 3 | 0xEC => rd .cpx .absolute 4
  | 0xC0 => rd .cpy .immediate 2 | 0xC4 => rd .cpy .zeroPage 3 | 0xCC => rd .cpy .absolute 4
  -- logical
  | 0x29 => rd .and .immediate 2 | 0x25 => rd .and .zeroPage 3 | 0x35 => rd .and .zeroPageX 4
  | 0x2D => rd .and .absolute 4 | 0x3D => rd .and .absoluteX 4 | 0x39 => rd .and .absoluteY 4
  | 0x21 => rd .and .indirectX 6 | 0x31 => rd .and .indirectY 5
  | 0x09 => rd .ora .immediate 2 | 0x05 => rd .ora .zeroPage 3 | 0x15 => rd .ora .zeroPageX 4
  | 0x0D => rd .ora .absolute 4 | 0x1D => rd .ora .absoluteX 4 | 0x19 => rd .ora .absoluteY 4
  | 0x01 => rd .ora .indirectX 6 | 0x11 => rd .ora .indirectY 5
  | 0x49 => rd .eor .immediate 2 | 0x45 => rd .eor .zeroPage 3 | 0x55 => rd .eor .zeroPageX 4
  | 0x4D => rd .eor .absolute 4 | 0x5D => rd .eor .absoluteX 4 | 0x59 => rd .eor .absoluteY 4
  | 0x41 => rd .eor .indirectX 6 | 0x51 => rd .eor .indirectY 5
  | 0x24 => rd .bit .zeroPage 3 | 0x2C => rd .bit .absolute 4
  -- shifts and rotates
  | 0x0A => rmw .asl .accumulator 2 | 0x06 => rmw .asl .zeroPage 5
  | 0x16 => rmw .asl .zeroPageX 6 | 0x0E => rmw .asl .absolute 6 | 0x1E => rmw .asl .absoluteX 7
  | 0x2A => rmw .rol .accumulator 2 | 0x26 => rmw .rol .zeroPage 5
  | 0x36 => rmw .rol .zeroPageX 6 | 0x2E => rmw .rol .absolute 6 | 0x3E => rmw .rol .absoluteX 7
  | 0x4A => rmw .lsr .accumulator 2 | 0x46 => rmw .lsr .zeroPage 5
  | 0x56 => rmw .lsr .zeroPageX 6 | 0x4E => rmw .lsr .absolute 6 | 0x5E => rmw .lsr .absoluteX 7
  | 0x6A => rmw .ror .accumulator 2 | 0x66 => rmw .ror .zeroPage 5
  | 0x76 => rmw .ror .zeroPageX 6 | 0x6E => rmw .ror .absolute 6 | 0x7E => rmw .ror .absoluteX 7
  -- increments and decrements
  | 0xE6 => rmw .inc .zeroPage 5 | 0xF6 => rmw .inc .zeroPageX 6 | 0xEE => rmw .inc .absolute 6
  | 0xFE => rmw .inc .absoluteX 7
  | 0xC6 => rmw .dec .zeroPage 5 | 0xD6 => rmw .dec .zeroPageX 6 | 0xCE => rmw .dec .absolute 6
  | 0xDE => rmw .dec .absoluteX 7
  | 0xE8 => ctl .inx .implied 2 | 0xC8 => ctl .iny .implied 2
  | 0xCA => ctl .dex .implied 2 | 0x88 => ctl .dey .implied 2
  -- transfers
  | 0xAA => ctl .tax .implied 2 | 0xA8 => ctl .tay .implied 2 | 0x8A => ctl .txa .implied 2
  | 0x98 => ctl .tya .implied 2 | 0xBA => ctl .tsx .implied 2 | 0x9A => ctl .txs .implied 2
  -- stack
  | 0x48 => ctl .pha .implied 3 | 0x08 => ctl .php .implied 3
  | 0x68 => ctl .pla .implied 4 | 0x28 => ctl .plp .implied 4
  -- flags
  | 0x18 => ctl .clc .implied 2 | 0x38 => ctl .sec .implied 2 | 0x58 => ctl .cli .implied 2
  | 0x78 => ctl .sei .implied 2 | 0xB8 => ctl .clv .implied 2 | 0xD8 => ctl .cld .implied 2
  | 0xF8 => ctl .sed .implied 2
  -- branches
  | 0x10 => ctl (.branch .plus) .relative 2 | 0x30 => ctl (.branch .minus) .relative 2
  | 0x50 => ctl (.branch .overflowClear) .relative 2
  | 0x70 => ctl (.branch .overflowSet) .relative 2
  | 0x90 => ctl (.branch .carryClear) .relative 2 | 0xB0 => ctl (.branch .carrySet) .relative 2
  | 0xD0 => ctl (.branch .notEqual) .relative 2 | 0xF0 => ctl (.branch .equal) .relative 2
  -- jumps and calls
  | 0x4C => ctl .jmp .absolute 3 | 0x6C => ctl .jmp .indirect 5 | 0x20 => ctl .jsr .absolute 6
  | 0x60 => ctl .rts .implied 6 | 0x40 => ctl .rti .implied 6
  -- system
  | 0x00 => ctl .brk .implied 7 | 0xEA => ctl .nop .implied 2
  | _ => none

/-- The table as an array indexed by opcode byte, built once. -/
def table : Vector (Option Entry) 256 :=
  Vector.ofFn fun i => find? (UInt8.ofNat i.val)

/-- Looks an opcode byte up in the table. -/
def decode (b : UInt8) : Option Entry :=
  have h : b.toNat < 256 := by have := b.toNat_lt; omega
  table[b.toNat]

theorem decode_eq_find? (b : UInt8) : decode b = find? b := by
  simp [decode, table]

/-- The number of opcodes with an entry. -/
def count : Nat :=
  (List.range 256).countP fun i => (find? (UInt8.ofNat i)).isSome

end Opcode

end Breadbox
