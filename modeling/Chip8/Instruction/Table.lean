import Chip8.Fault
import Chip8.Instruction.Basic

/-!
# The table of opcodes

A pattern names the bits of an opcode that it fixes, and builds an instruction
from the digits of the opcode. The table is cut into sixteen groups by the top
four bits, and decoding looks for the first match within the group of the
opcode.
-/

namespace Chip8

/-- Every opcode is cut in the same way: `FXYN`, where `KK` is the low byte and `NNN` the low twelve
bits. -/
structure Operands where
  group : Fin 16
  x : Register
  y : Register
  n : Byte
  kk : Byte
  nnn : Address
deriving DecidableEq, Repr

def Operands.ofOpcode (opcode : Word) : Operands where
  group := opcode.nibble 12
  x := opcode.nibble 8
  y := opcode.nibble 4
  n := (opcode &&& 0x000F).toUInt8
  kk := (opcode &&& 0x00FF).toUInt8
  nnn := opcode &&& 0x0FFF

structure Pattern where
  mask : Word
  value : Word
  build : Operands → Instruction

namespace Pattern

/-- The opcode agrees with the pattern in the bits that the pattern fixes. -/
def fits (pattern : Pattern) (opcode : Word) : Bool := opcode &&& pattern.mask == pattern.value

def group (pattern : Pattern) : Fin 16 := pattern.value.nibble 12

/-- A pattern that fixes all sixteen bits. -/
def exactly (value : Word) (instruction : Instruction) : Pattern where
  mask := 0xFFFF
  value := value
  build := fun _ => instruction

/-- A pattern that leaves the low twelve bits open. -/
def address (value : Word) (build : Address → Instruction) : Pattern where
  mask := 0xF000
  value := value
  build := fun operands => build operands.nnn

/-- A pattern for a register and the low byte. -/
def byte (value : Word) (build : Register → Byte → Instruction) : Pattern where
  mask := 0xF000
  value := value
  build := fun operands => build operands.x operands.kk

/-- A pattern for two registers that leaves the lowest digit open. -/
def pair (value : Word) (build : Register → Register → Instruction) : Pattern where
  mask := 0xF000
  value := value
  build := fun operands => build operands.x operands.y

/-- A pattern for two registers that fixes the lowest digit. -/
def operation (value : Word) (build : Register → Register → Instruction) : Pattern where
  mask := 0xF00F
  value := value
  build := fun operands => build operands.x operands.y

/-- A pattern for one register that fixes the low byte. -/
def register (value : Word) (build : Register → Instruction) : Pattern where
  mask := 0xF0FF
  value := value
  build := fun operands => build operands.x

end Pattern

/-- All patterns; no opcode fits two of them. -/
def opcodeTable : List Pattern := [
  .exactly 0x00E0 .clear,
  { mask := 0xFFF0, value := 0x00C0, build := fun operands => .scrollDown operands.n },
  .exactly 0x00EE .leave,
  .exactly 0x00FB .scrollRight,
  .exactly 0x00FC .scrollLeft,
  .exactly 0x00FE (.selectMode .low),
  .exactly 0x00FF (.selectMode .high),
  .address 0x1000 .jump,
  .address 0x2000 .enter,
  .byte 0x3000 .skipIfByte,
  .byte 0x4000 .skipUnlessByte,
  .pair 0x5000 .skipIfSame,
  .byte 0x6000 .set,
  .byte 0x7000 .increase,
  .operation 0x8000 (.combine .copy),
  .operation 0x8001 (.combine .or),
  .operation 0x8002 (.combine .and),
  .operation 0x8003 (.combine .xor),
  .operation 0x8004 (.combine .add),
  .operation 0x8005 (.combine .subtract),
  .operation 0x8006 fun x _ => .shiftRight x,
  .operation 0x8007 (.combine .subtractFrom),
  .operation 0x800E fun x _ => .shiftLeft x,
  .pair 0x9000 .skipUnlessSame,
  .address 0xA000 .setIndex,
  .address 0xB000 .jumpBeyond,
  .byte 0xC000 .random,
  { mask := 0xF000, value := 0xD000,
    build := fun operands => .draw operands.x operands.y operands.n },
  .register 0xE09E .skipIfDown,
  .register 0xE0A1 .skipUnlessDown,
  .register 0xF007 .readDelay,
  .register 0xF00A .awaitKey,
  .register 0xF015 .setDelay,
  .register 0xF018 .setSound,
  .register 0xF01E .increaseIndex,
  .register 0xF029 .smallGlyph,
  .register 0xF030 .largeGlyph,
  .register 0xF033 .storeDecimal,
  .register 0xF055 .storeRegisters,
  .register 0xF065 .loadRegisters,
  .register 0xF075 fun _ => .saveRegisters,
  .register 0xF085 fun _ => .restoreRegisters]

/-- The patterns of each group, in the order of the table. -/
def groups : Vector (List Pattern) 16 :=
  Vector.ofFn fun group => opcodeTable.filter fun pattern => pattern.group == group

/-- Reads an opcode. An opcode of group zero that fits no pattern calls a native routine. -/
def Instruction.decode (opcode : Word) : Except Fault Instruction :=
  let operands := Operands.ofOpcode opcode
  match (groups.get operands.group).find? (·.fits opcode) with
  | some pattern => .ok (pattern.build operands)
  | none =>
      if operands.group.val = 0 then .ok (.nativeRoutine operands.nnn)
      else .error (.unknownOpcode opcode)

end Chip8
