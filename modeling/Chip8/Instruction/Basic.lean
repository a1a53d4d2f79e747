import Chip8.Screen.Basic

/-!
# Instructions

What a program can ask of the machine. `x` and `y` name registers.
-/

namespace Chip8

/-- The operations that combine two registers into the first of them. -/
inductive Operation where
  | copy
  | or
  | and
  | xor
  | add
  | subtract
  /-- The second register minus the first. -/
  | subtractFrom
deriving DecidableEq, Repr

namespace Operation

/-- The new value of the first register, from the old values of both. -/
def result (first second : Byte) : Operation → Byte
  | .copy => second
  | .or => first ||| second
  | .and => first &&& second
  | .xor => first ^^^ second
  | .add => first + second
  | .subtract => first - second
  | .subtractFrom => second - first

/-- What the flag register is told: a carry, or that nothing was borrowed. -/
def flag? (first second : Byte) : Operation → Option Bool
  | .add => some (decide (256 ≤ first.toNat + second.toNat))
  | .subtract => some (decide (second ≤ first))
  | .subtractFrom => some (decide (first ≤ second))
  | _ => none

end Operation

inductive Instruction where
  /-- A call into machine code that is not there; it does nothing. -/
  | nativeRoutine (address : Address)
  | clear
  | scrollDown (rows : Byte)
  | scrollRight
  | scrollLeft
  | selectMode (mode : Mode)
  | leave
  | jump (target : Address)
  | enter (target : Address)
  | skipIfByte (x : Register) (value : Byte)
  | skipUnlessByte (x : Register) (value : Byte)
  | skipIfSame (x y : Register)
  | skipUnlessSame (x y : Register)
  | set (x : Register) (value : Byte)
  | increase (x : Register) (value : Byte)
  | combine (operation : Operation) (x y : Register)
  | shiftRight (x : Register)
  | shiftLeft (x : Register)
  | setIndex (address : Address)
  /-- A jump whose target is moved on by V0. -/
  | jumpBeyond (target : Address)
  | random (x : Register) (mask : Byte)
  /-- A sprite of `height` rows; a height of zero draws the square one. -/
  | draw (x y : Register) (height : Byte)
  | skipIfDown (x : Register)
  | skipUnlessDown (x : Register)
  | readDelay (x : Register)
  | awaitKey (x : Register)
  | setDelay (x : Register)
  | setSound (x : Register)
  | increaseIndex (x : Register)
  | smallGlyph (x : Register)
  | largeGlyph (x : Register)
  /-- Stores the three decimal digits of a register. -/
  | storeDecimal (x : Register)
  | storeRegisters (last : Register)
  | loadRegisters (last : Register)
  | saveRegisters
  | restoreRegisters
deriving DecidableEq, Repr

end Chip8
