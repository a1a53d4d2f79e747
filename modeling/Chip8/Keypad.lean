import Chip8.Word

/-!
# The keypad

Sixteen keys, pressed and released from outside. The keypad remembers which
key went down last; a key that is already down does not go down again, and
keys from sixteen on do not exist.
-/

namespace Chip8

structure Keypad where
  down : Vector Bool 16
  /-- The key that went down last, also after its release. -/
  last : Byte
  heldCount : Byte
deriving DecidableEq, Repr

namespace Keypad

def size : Nat := 16

def blank : Keypad where
  down := Vector.replicate 16 false
  last := 0
  heldCount := 0

def hasKey (key : Byte) : Bool := decide (key.toNat < size)

def isDown (keypad : Keypad) (key : Byte) : Bool := keypad.down[key.toNat]?.getD false

def press (keypad : Keypad) (key : Byte) : Keypad :=
  if hasKey key && !keypad.isDown key then
    { down := keypad.down.setIfInBounds key.toNat true
      last := key
      heldCount := keypad.heldCount + 1 }
  else keypad

def release (keypad : Keypad) (key : Byte) : Keypad :=
  if keypad.isDown key then
    { keypad with
      down := keypad.down.setIfInBounds key.toNat false
      heldCount := keypad.heldCount - 1 }
  else keypad

/-- What a program that waits for a key is given, if any key is down. -/
def awaited? (keypad : Keypad) : Option Byte :=
  if 0 < keypad.heldCount then some keypad.last else none

/-- The keys that are down, ascending. -/
def held (keypad : Keypad) : List Nat :=
  (List.range size).filter fun key => keypad.down[key]?.getD false

theorem isDown_eq_false_of_le {keypad : Keypad} {key : Byte} (far : size ≤ key.toNat) :
    keypad.isDown key = false := by
  have absent : keypad.down[key.toNat]? = none := Vector.getElem?_eq_none far
  rw [isDown, absent]
  rfl

/-- A key that does not exist changes nothing. -/
theorem press_of_le {keypad : Keypad} {key : Byte} (far : size ≤ key.toNat) :
    keypad.press key = keypad := by
  have absent : hasKey key = false := decide_eq_false (Nat.not_lt.mpr far)
  simp only [press, absent, Bool.false_and, Bool.false_eq_true, if_false]

theorem release_of_le {keypad : Keypad} {key : Byte} (far : size ≤ key.toNat) :
    keypad.release key = keypad := by
  simp only [release, isDown_eq_false_of_le far, Bool.false_eq_true, if_false]

end Keypad

end Chip8
