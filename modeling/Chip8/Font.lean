import Chip8.Word

/-!
# The built-in fonts

Two sets of sixteen glyphs, one for each hexadecimal digit. A glyph is a list
of rows of eight cells, topmost first, the leftmost cell in the highest bit.
-/

namespace Chip8

structure Font where
  /-- Where the first glyph stands in memory. -/
  offset : Address
  /-- The number of bytes of one glyph. -/
  height : Word
  glyphs : List Byte
deriving DecidableEq, Repr

namespace Font

/-- Where the glyph of `digit` starts; digits above fifteen point past the font. -/
def addressOf (font : Font) (digit : Byte) : Address :=
  font.offset + digit.toUInt16 * font.height

def small : Font where
  offset := 0x000
  height := 5
  glyphs := [
    0xF0, 0x90, 0x90, 0x90, 0xF0,
    0x20, 0x60, 0x20, 0x20, 0x70,
    0xF0, 0x10, 0xF0, 0x80, 0xF0,
    0xF0, 0x10, 0xF0, 0x10, 0xF0,
    0x90, 0x90, 0xF0, 0x10, 0x10,
    0xF0, 0x80, 0xF0, 0x10, 0xF0,
    0xF0, 0x80, 0xF0, 0x90, 0xF0,
    0xF0, 0x10, 0x20, 0x40, 0x40,
    0xF0, 0x90, 0xF0, 0x90, 0xF0,
    0xF0, 0x90, 0xF0, 0x10, 0xF0,
    0xF0, 0x90, 0xF0, 0x90, 0x90,
    0xE0, 0x90, 0xE0, 0x90, 0xE0,
    0xF0, 0x80, 0x80, 0x80, 0xF0,
    0xE0, 0x90, 0x90, 0x90, 0xE0,
    0xF0, 0x80, 0xF0, 0x80, 0xF0,
    0xF0, 0x80, 0xF0, 0x80, 0x80]

def large : Font where
  offset := 0x050
  height := 10
  glyphs := [
    0x7C, 0x82, 0x82, 0x82, 0x82, 0x82, 0x82, 0x82, 0x7C, 0x00,
    0x08, 0x18, 0x38, 0x08, 0x08, 0x08, 0x08, 0x08, 0x3C, 0x00,
    0x7C, 0x82, 0x02, 0x02, 0x04, 0x18, 0x20, 0x40, 0xFE, 0x00,
    0x7C, 0x82, 0x02, 0x02, 0x3C, 0x02, 0x02, 0x82, 0x7C, 0x00,
    0x84, 0x84, 0x84, 0x84, 0xFE, 0x04, 0x04, 0x04, 0x04, 0x00,
    0xFE, 0x80, 0x80, 0x80, 0xFC, 0x02, 0x02, 0x82, 0x7C, 0x00,
    0x7C, 0x82, 0x80, 0x80, 0xFC, 0x82, 0x82, 0x82, 0x7C, 0x00,
    0xFE, 0x02, 0x04, 0x08, 0x10, 0x20, 0x20, 0x20, 0x20, 0x00,
    0x7C, 0x82, 0x82, 0x82, 0x7C, 0x82, 0x82, 0x82, 0x7C, 0x00,
    0x7C, 0x82, 0x82, 0x82, 0x7E, 0x02, 0x02, 0x82, 0x7C, 0x00,
    0x10, 0x28, 0x44, 0x82, 0x82, 0xFE, 0x82, 0x82, 0x82, 0x00,
    0xFC, 0x82, 0x82, 0x82, 0xFC, 0x82, 0x82, 0x82, 0xFC, 0x00,
    0x7C, 0x82, 0x80, 0x80, 0x80, 0x80, 0x80, 0x82, 0x7C, 0x00,
    0xFC, 0x82, 0x82, 0x82, 0x82, 0x82, 0x82, 0x82, 0xFC, 0x00,
    0xFE, 0x80, 0x80, 0x80, 0xF8, 0x80, 0x80, 0x80, 0xFE, 0x00,
    0xFE, 0x80, 0x80, 0x80, 0xF8, 0x80, 0x80, 0x80, 0x80, 0x00]

theorem small_length : small.glyphs.length = 80 := by simp [small]

theorem large_length : large.glyphs.length = 160 := by simp [large]

section Addresses

variable {font : Font} (room : font.offset.toNat + 255 * font.height.toNat < 65536)

include room

/-- As long as the glyph of the largest byte has an address, no distance wraps around. -/
theorem toNat_distance (digit : Byte) :
    (digit.toUInt16 * font.height).toNat = digit.toNat * font.height.toNat := by
  have low : digit.toNat * font.height.toNat ≤ 255 * font.height.toNat :=
    Nat.mul_le_mul_right _ (Nat.le_of_lt_succ digit.toNat_lt)
  rw [UInt16.toNat_mul, UInt8.toNat_toUInt16]
  exact Nat.mod_eq_of_lt (by omega)

theorem toNat_addressOf (digit : Byte) :
    (font.addressOf digit).toNat = font.offset.toNat + digit.toNat * font.height.toNat := by
  have low : digit.toNat * font.height.toNat ≤ 255 * font.height.toNat :=
    Nat.mul_le_mul_right _ (Nat.le_of_lt_succ digit.toNat_lt)
  rw [addressOf, UInt16.toNat_add, toNat_distance room]
  exact Nat.mod_eq_of_lt (by omega)

end Addresses

end Font

end Chip8
