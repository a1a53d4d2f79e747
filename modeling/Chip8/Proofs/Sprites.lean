import Chip8.Proofs.Drawing
import Chip8.Proofs.Stepping

/-!
# Sprites in memory

The sprite that a draw opcode asks for, told bit by bit from memory: a row is
one byte of eight columns, or two bytes of sixteen if the last digit of the
opcode is zero. Rows that would lie below the screen are not asked for.
-/

namespace Chip8

namespace Word

theorem toNat_lastDigit (opcode : Word) :
    (opcode &&& 0x000F).toUInt8.toNat = opcode.toNat % 16 := by
  have digit : opcode.toNat &&& 15 = opcode.toNat % 16 := Nat.and_two_pow_sub_one_eq_mod _ 4
  have small : opcode.toNat % 16 < 16 := Nat.mod_lt _ (by decide)
  rw [UInt16.toNat_toUInt8, UInt16.toNat_and]
  change (opcode.toNat &&& 15) % 256 = opcode.toNat % 16
  omega

theorem testBit_ofBytes_single (byte : Byte) (bit : Nat) :
    (Word.ofBytes [byte]).toNat.testBit bit = byte.toNat.testBit bit := by
  simp [Word.ofBytes]

/-- The low eight bits of two bytes are those of the second one. -/
theorem testBit_ofBytes_pair (high low : Byte) {bit : Nat} (inside : bit < 16) :
    (Word.ofBytes [high, low]).toNat.testBit bit =
      if bit < 8 then low.toNat.testBit bit else high.toNat.testBit (bit - 8) := by
  rw [Word.ofBytes_pair, UInt16.toNat_or, UInt16.toNat_shiftLeft, Nat.testBit_or,
    Nat.testBit_mod_two_pow, Nat.testBit_shiftLeft, UInt8.toNat_toUInt16, UInt8.toNat_toUInt16]
  by_cases lower : bit < 8
  · simp [lower]
  · have above : low.toNat < 2 ^ bit :=
      Nat.lt_of_lt_of_le low.toNat_lt (Nat.pow_le_pow_right (by decide) (Nat.not_lt.mp lower))
    simp [lower, inside, Nat.not_lt.mp lower, Nat.testBit_lt_two_pow above]

end Word

namespace Memory

/-- A row of a block of rows is a block of its own. -/
theorem row_of_block (memory : Memory) (start : Nat) {count width down : Nat} (row : down < count) :
    ((memory.block start (count * width)).drop (down * width)).take width =
      memory.block (start + down * width) width := by
  have fits : down * width + width ≤ count * width := by
    calc down * width + width = (down + 1) * width := (Nat.succ_mul _ _).symm
      _ ≤ count * width := Nat.mul_le_mul_right _ row
  apply List.ext_getElem
  · simp only [List.length_take, List.length_drop, length_block]
    omega
  · intro offset inside inside'
    simp [block, Nat.add_assoc]

end Memory

namespace Machine

/-! ## What a draw opcode asks for -/

def spriteWidth (machine : Machine) : Nat := if machine.operandN = 0 then 16 else 8

def spriteHeight (machine : Machine) : Nat :=
  if machine.operandN = 0 then 16 else machine.operandN

def spriteRowBytes (machine : Machine) : Nat := if machine.operandN = 0 then 2 else 1

/-- The column of the screen where the sprite begins. -/
def spriteLeft (machine : Machine) : Nat :=
  (machine.value machine.operandX).toNat % machine.screen.width

/-- The row of the screen where the sprite begins. -/
def spriteTop (machine : Machine) : Nat :=
  (machine.value machine.operandY).toNat % machine.screen.height

/-- How many rows of the sprite lie above the bottom edge. -/
def spriteRows (machine : Machine) : Nat :=
  min machine.spriteHeight (machine.screen.height - machine.spriteTop)

/-- How many bytes are asked for: only those of the rows above the bottom edge. -/
def spriteDemand (machine : Machine) : Nat := machine.spriteRows * machine.spriteRowBytes

/-- Whether memory sets the bit of the sprite in a column and a row, counted from its corner. -/
def spriteBit (machine : Machine) (column down : Nat) : Bool :=
  decide (column < machine.spriteWidth ∧ down < machine.spriteHeight) &&
    (machine.memory.byte (machine.index.toNat + down * machine.spriteRowBytes +
      column / 8)).toNat.testBit (7 - column % 8)

/-- Whether the sprite has a set bit on a position of the screen. -/
def spriteAt (machine : Machine) (px py : Nat) : Bool :=
  decide (machine.spriteLeft ≤ px ∧ machine.spriteTop ≤ py) &&
    machine.spriteBit (px - machine.spriteLeft) (py - machine.spriteTop)

/-! ## What drawing makes of it -/

variable {machine : Machine}

/-- The shape of the sprite that the opcode asks for. -/
def spriteShape (machine : Machine) : Sprite.Shape :=
  Sprite.Shape.ofHeight (machine.opcode &&& 0x000F).toUInt8

theorem spriteShape_eq :
    machine.spriteShape = ⟨machine.spriteWidth, machine.spriteHeight⟩ := by
  unfold spriteShape Sprite.Shape.ofHeight spriteWidth spriteHeight
  have digit : (machine.opcode &&& 0x000F).toUInt8.toNat = machine.operandN :=
    Word.toNat_lastDigit _
  have zero_iff : (machine.opcode &&& 0x000F).toUInt8 = 0 ↔ machine.operandN = 0 := by
    rw [← UInt8.toNat_inj, digit]
    rfl
  by_cases square : machine.operandN = 0
  · rw [if_pos (zero_iff.mpr square), if_pos square, if_pos square]
  · rw [if_neg (fun zero => square (zero_iff.mp zero)), if_neg square, if_neg square, digit]

theorem spriteShape_rowBytes : machine.spriteShape.rowBytes = machine.spriteRowBytes := by
  rw [spriteShape_eq]
  unfold Sprite.Shape.rowBytes spriteWidth spriteRowBytes
  split
  · exact (by decide : 16 / 8 = 2)
  · exact (by decide : 8 / 8 = 1)

theorem shownRows_operands :
    machine.shownRows machine.operandY machine.spriteShape = machine.spriteRows := by
  unfold shownRows
  rw [spriteShape_eq]
  rfl

theorem spriteLength_operands :
    machine.spriteLength machine.operandY (machine.opcode &&& 0x000F).toUInt8 =
      machine.spriteDemand :=
  congrArg₂ (· * ·) shownRows_operands spriteShape_rowBytes

theorem decode_draw (form : machine.opcode &&& 0xF000 = 0xD000) :
    Instruction.decode machine.opcode =
      .ok (.draw machine.operandX machine.operandY (machine.opcode &&& 0x000F).toUInt8) :=
  decode_eq_draw_iff.mpr ⟨form, rfl, rfl, rfl⟩

theorem spriteTop_lt : machine.spriteTop < machine.screen.height :=
  Nat.mod_lt _ machine.screen.height_pos

theorem spriteRows_le : machine.spriteRows ≤ machine.spriteHeight := Nat.min_le_left _ _

/-- At least one byte is asked for, wherever the sprite is drawn. -/
theorem spriteDemand_pos (machine : Machine) : 0 < machine.spriteDemand := by
  have top := machine.spriteTop_lt
  unfold spriteDemand spriteRows spriteHeight spriteRowBytes
  apply Nat.mul_pos
  · split <;> omega
  · split <;> decide

/-- The bits of a row that is put together from its bytes are those of its bytes. -/
theorem testBit_row {column down : Nat} (narrow : column < machine.spriteWidth) :
    (Word.ofBytes (machine.memory.block
        (machine.index.toNat + down * machine.spriteRowBytes)
        machine.spriteRowBytes)).toNat.testBit (machine.spriteWidth - 1 - column) =
      (machine.memory.byte (machine.index.toNat + down * machine.spriteRowBytes +
        column / 8)).toNat.testBit (7 - column % 8) := by
  unfold spriteWidth at narrow ⊢
  unfold spriteRowBytes
  split at narrow
  · next square =>
      rw [if_pos square, if_pos square]
      change (Word.ofBytes [_, _]).toNat.testBit _ = _
      rw [Word.testBit_ofBytes_pair _ _ (by omega)]
      by_cases left : column < 8
      · rw [if_neg (by omega), Nat.div_eq_of_lt left, Nat.mod_eq_of_lt left]
        congr 1
        omega
      · rw [if_pos (by omega), show column / 8 = 1 by omega,
          show 16 - 1 - column = 7 - column % 8 by omega]
  · next flat =>
      rw [if_neg flat, if_neg flat]
      change (Word.ofBytes [_]).toNat.testBit _ = _
      rw [Word.testBit_ofBytes_single, Nat.div_eq_of_lt narrow, Nat.mod_eq_of_lt narrow]

/-- The sprite that is put together from the bytes of its first rows. -/
def spriteOfRows (machine : Machine) (count : Nat) : Sprite :=
  machine.spriteShape.sprite count
    (machine.memory.block machine.index.toNat (count * machine.spriteRowBytes))

theorem spriteOfRows_rows (count : Nat) :
    (machine.spriteOfRows count).rows = (List.range count).map fun down =>
      Word.ofBytes (machine.memory.block
        (machine.index.toNat + down * machine.spriteRowBytes) machine.spriteRowBytes) := by
  unfold spriteOfRows Sprite.Shape.sprite
  dsimp only
  rw [spriteShape_rowBytes]
  apply List.map_congr_left
  intro down mem
  rw [Memory.row_of_block _ _ (List.mem_range.mp mem)]

theorem spriteOfRows_width (count : Nat) :
    (machine.spriteOfRows count).width = machine.spriteWidth := by
  unfold spriteOfRows Sprite.Shape.sprite
  rw [spriteShape_eq]

theorem isSet_spriteOfRows {count column down : Nat} (short : count ≤ machine.spriteHeight)
    (row : down < count) :
    (machine.spriteOfRows count).isSet column down = machine.spriteBit column down := by
  unfold Sprite.isSet Sprite.bit spriteBit
  rw [spriteOfRows_width, spriteOfRows_rows, List.getElem?_map, List.getElem?_range row]
  by_cases narrow : column < machine.spriteWidth
  · have inside : column < machine.spriteWidth ∧ down < machine.spriteHeight := ⟨narrow, by omega⟩
    simp only [narrow, inside, and_self, decide_true, Bool.true_and, Option.map_some,
      Option.any_some, testBit_row narrow]
  · simp only [narrow, false_and, decide_false, Bool.false_and]

theorem isSet_spriteOfRows_of_le {count column down : Nat} (far : count ≤ down) :
    (machine.spriteOfRows count).isSet column down = false := by
  unfold Sprite.isSet
  rw [spriteOfRows_rows, List.getElem?_eq_none (by simpa using far)]
  exact Bool.and_false _

end Machine

end Chip8
