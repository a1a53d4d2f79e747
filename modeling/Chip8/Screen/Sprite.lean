import Chip8.Screen.Basic

/-!
# Drawing sprites

A sprite is a stack of rows of bits. Its origin wraps around the screen, the
rest of it is clipped at the right and the bottom edge, and each of its set
bits turns one cell over. Drawing also tells whether it switched a cell off.
-/

namespace Chip8

structure Sprite where
  /-- How many of the lowest bits of each row belong to the sprite. -/
  width : Nat
  rows : List Word
deriving DecidableEq, Repr

namespace Sprite

/-- The bit of a row in a column, counted from the left of the sprite. -/
def bit (sprite : Sprite) (row : Word) (column : Nat) : Bool :=
  row.toNat.testBit (sprite.width - 1 - column)

/-- The columns in which a row is set, of those that fit into `room` columns. -/
def columns (sprite : Sprite) (room : Nat) (row : Word) : List Nat :=
  (List.range (min sprite.width room)).filter (sprite.bit row)

/-- The set bits as column and row of the sprite, of those that fit into the room. -/
def spots (sprite : Sprite) (roomRight roomDown : Nat) : List (Nat × Nat) :=
  (sprite.rows.take roomDown).zipIdx.flatMap fun (row, down) =>
    (sprite.columns roomRight row).map fun column => (column, down)

end Sprite

/-- The size of a drawn sprite: a height of zero asks for the square one. -/
structure Sprite.Shape where
  width : Nat
  height : Nat
deriving DecidableEq, Repr

namespace Sprite.Shape

def ofHeight (height : Byte) : Shape :=
  if height = 0 then ⟨16, 16⟩ else ⟨8, height.toNat⟩

def rowBytes (shape : Shape) : Nat := shape.width / 8

/-- Reads the first `count` rows of a sprite from its bytes. -/
def sprite (shape : Shape) (count : Nat) (bytes : List Byte) : Sprite where
  width := shape.width
  rows := (List.range count).map fun down =>
    Word.ofBytes ((bytes.drop (down * shape.rowBytes)).take shape.rowBytes)

theorem width_ofHeight_le (height : Byte) : (ofHeight height).width ≤ 16 := by
  unfold ofHeight
  split
  · exact Nat.le_refl 16
  · exact (by decide : 8 ≤ 16)

theorem rowBytes_ofHeight_pos (height : Byte) : 0 < (ofHeight height).rowBytes := by
  unfold ofHeight
  split
  · exact (by decide : 0 < 16 / 8)
  · exact (by decide : 0 < 8 / 8)

end Sprite.Shape

namespace Screen

/-- The array positions of the cells that a sprite turns over. -/
def covered (screen : Screen) (x y : Byte) (sprite : Sprite) : List Nat :=
  let left := x.toNat % screen.width
  let top := y.toNat % screen.height
  (sprite.spots (screen.width - left) (screen.height - top)).map fun (column, down) =>
    screen.position (left + column) (top + down)

/-- Turns one cell over and takes note if it was lit. -/
def touch (drawn : Array Byte × Bool) (index : Nat) : Array Byte × Bool :=
  let cell := drawn.1[index]?.getD 0
  (drawn.1.modify index (· ^^^ 1), drawn.2 || cell != 0)

/-- Draws a sprite; the flag tells whether a lit cell was switched off on the way. -/
def draw (screen : Screen) (x y : Byte) (sprite : Sprite) : Screen × Bool :=
  let drawn := (screen.covered x y sprite).foldl touch (screen.cells, false)
  ({ screen with cells := drawn.1 }, drawn.2)

theorem size_foldl_touch (indices : List Nat) (drawn : Array Byte × Bool) :
    (indices.foldl touch drawn).1.size = drawn.1.size := by
  induction indices generalizing drawn with
  | nil => rfl
  | cons index rest ih => rw [List.foldl_cons, ih, touch, Array.size_modify]

/-- Turning cells over keeps them zero or one. -/
theorem binary_foldl_touch (indices : List Nat) (drawn : Array Byte × Bool)
    (binary : ∀ cell ∈ drawn.1, cell = 0 ∨ cell = 1) :
    ∀ cell ∈ (indices.foldl touch drawn).1, cell = 0 ∨ cell = 1 := by
  induction indices generalizing drawn with
  | nil => exact binary
  | cons index rest ih =>
      apply ih
      intro cell mem
      obtain ⟨place, bound, rfl⟩ := Array.getElem_of_mem mem
      simp only [touch, Array.getElem_modify]
      split
      · rcases binary _ (Array.getElem_mem _) with dark | lit
        · exact .inr (by rw [dark]; rfl)
        · exact .inl (by rw [lit]; rfl)
      · exact binary _ (Array.getElem_mem _)

theorem draw_wellFormed {screen : Screen} (formed : screen.WellFormed) (x y : Byte)
    (sprite : Sprite) : (screen.draw x y sprite).1.WellFormed where
  size_cells := (size_foldl_touch _ _).trans formed.size_cells
  binary := binary_foldl_touch _ _ formed.binary

end Screen

end Chip8
