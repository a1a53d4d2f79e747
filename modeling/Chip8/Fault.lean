import Chip8.Word

/-!
# Faults

A fault is the reason why the machine could not carry out an instruction. Its
message tells numbers as hexadecimal numerals, in upper-case digits without a
sign and filled up with zeros to a least width.
-/

namespace Chip8.Hexadecimal

def digit (value : Nat) : Char :=
  if value < 10 then Char.ofNat (value + 48) else Char.ofNat (value + 55)

/-- The digits of a number, most significant first, at least one of them. -/
def digits (value : Nat) : List Char :=
  if value < 16 then [digit value] else digits (value / 16) ++ [digit (value % 16)]

/-- The numeral of `value`, with leading zeros up to `width` digits. -/
def padded (width value : Nat) : String :=
  let shown := digits value
  String.ofList (List.replicate (width - shown.length) '0' ++ shown)

/-- A padded numeral behind the mark `0x`; the mark does not count as width. -/
def marked (width value : Nat) : String := "0x" ++ padded width value

end Chip8.Hexadecimal

namespace Chip8

inductive Fault where
  | unknownOpcode (opcode : Word)
  | stackOverflow
  | stackUnderflow
  /-- The first address of the requested range that does not exist. -/
  | outsideMemory (address : Nat)
  | unknownKey (key : Byte)
deriving DecidableEq, Repr

def Fault.message : Fault → String
  | .unknownOpcode opcode => "unknown opcode " ++ Hexadecimal.marked 4 opcode.toNat
  | .stackOverflow => "maximal stack depth exceeded"
  | .stackUnderflow => "tried to return from empty stack"
  | .outsideMemory address =>
      "memory access out of bounds at address " ++ Hexadecimal.marked 4 address
  | .unknownKey key => "key " ++ Hexadecimal.marked 2 key.toNat ++ " is not on the keypad"

end Chip8
