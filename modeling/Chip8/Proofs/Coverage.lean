import Chip8.Proofs.Checked.Screen
import Chip8.Proofs.Drawing

/-!
# What a sprite covers

Told without a walk over its bits, a sprite meets the positions of the screen on
which it has a set bit. Drawing turns these over and no others, and collides if
one of them was lit. Bits that come to lie right of the screen or below it, and
bits of a row above the width of the sprite, make no difference.
-/

namespace Chip8

/-- The bit of a sprite in a column and a row, a missing row being empty. -/
def Sprite.bitAt (sprite : Sprite) (column down : Nat) : Bool :=
  (sprite.rows[down]?.getD 0).toNat.testBit (sprite.width - 1 - column)

theorem Sprite.isSet_eq (sprite : Sprite) (column down : Nat) :
    sprite.isSet column down = (decide (column < sprite.width) && sprite.bitAt column down) := by
  unfold isSet bitAt
  cases sprite.rows[down]? with
  | none => simp
  | some row => rfl

theorem Sprite.lt_length_of_bitAt {sprite : Sprite} {column down : Nat}
    (set : sprite.bitAt column down = true) : down < sprite.rows.length := by
  by_contra beyond
  rw [bitAt, List.getElem?_eq_none (Nat.le_of_not_lt beyond)] at set
  simp at set

namespace Screen

variable {screen : Screen} {x y : Byte} {sprite : Sprite} {px py : Nat}

/-- A sprite that is drawn at `x` and `y` has a set bit on a position. Its corner wraps around the
screen, the rest of it does not. -/
structure Meets (screen : Screen) (x y : Byte) (sprite : Sprite) (px py : Nat) : Prop where
  right : x.toNat % screen.width ≤ px
  narrow : px < x.toNat % screen.width + sprite.width
  below : y.toNat % screen.height ≤ py
  short : py < y.toNat % screen.height + sprite.rows.length
  set : sprite.bitAt (px - x.toNat % screen.width) (py - y.toNat % screen.height) = true

theorem covers_iff :
    screen.covers x y sprite px py = true ↔ screen.Meets x y sprite px py := by
  rw [covers, Sprite.isSet_eq]
  simp only [Bool.and_eq_true, decide_eq_true_eq]
  constructor
  · rintro ⟨⟨right, below⟩, narrow, set⟩
    have short := Sprite.lt_length_of_bitAt set
    exact ⟨right, by omega, below, by omega, set⟩
  · rintro ⟨right, narrow, below, -, set⟩
    exact ⟨⟨right, below⟩, by omega, set⟩

/-- Sprites that meet the same positions of the screen are drawn alike. -/
theorem draw_congr (formed : screen.WellFormed) {x' y' : Byte} {other : Sprite}
    (same : ∀ px py, px < screen.width → py < screen.height →
      screen.covers x' y' other px py = screen.covers x y sprite px py) :
    screen.draw x' y' other = screen.draw x y sprite := by
  have picture : (screen.draw x' y' other).1 = (screen.draw x y sprite).1 := by
    apply (draw_wellFormed formed x y sprite).eq_of_isLit (draw_wellFormed formed x' y' other) rfl
    intro px py inside above
    rw [isLit_draw formed inside above, isLit_draw formed inside above, same px py inside above]
  have collision : (screen.draw x' y' other).2 = (screen.draw x y sprite).2 := by
    rw [Bool.eq_iff_iff, draw_collision_iff, draw_collision_iff]
    apply exists₂_congr
    intro px py
    apply and_congr_right
    rintro ⟨inside, above⟩
    rw [same px py inside above]
  exact Prod.ext picture collision

/-- What drawing a sprite at `x` and `y` comes to. -/
structure DrawsMet (screen : Screen) (x y : Byte) (sprite : Sprite) : Prop where
  /-- Row by row and with each access checked, drawing comes to an end. -/
  completes : screen.draw? x y sprite = some (screen.draw x y sprite)
  turned : ∀ px py, px < screen.width → py < screen.height → screen.Meets x y sprite px py →
    (screen.draw x y sprite).1.isLit px py = !screen.isLit px py
  kept : ∀ px py, px < screen.width → py < screen.height → ¬ screen.Meets x y sprite px py →
    (screen.draw x y sprite).1.isLit px py = screen.isLit px py
  collides : (screen.draw x y sprite).2 = true ↔
    ∃ px py, (px < screen.width ∧ py < screen.height) ∧ screen.Meets x y sprite px py ∧
      screen.isLit px py = true
  /-- Of the rows only the bits matter that belong to the sprite and come to lie on the screen. -/
  unseen : ∀ rows : List Word,
    (∀ column down, column < sprite.width → column < screen.width - x.toNat % screen.width →
      down < screen.height - y.toNat % screen.height →
        { sprite with rows := rows }.bitAt column down = sprite.bitAt column down) →
      screen.draw x y { sprite with rows := rows } = screen.draw x y sprite
  mode : (screen.draw x y sprite).1.mode = screen.mode
  size : (screen.draw x y sprite).1.cells.size = screen.cells.size
  formed : (screen.draw x y sprite).1.WellFormed

/-- Rows that have the same bits on the screen meet the same positions there. -/
theorem covers_of_bitAt {rows : List Word}
    (agree : ∀ column down, column < sprite.width →
      column < screen.width - x.toNat % screen.width →
      down < screen.height - y.toNat % screen.height →
        { sprite with rows := rows }.bitAt column down = sprite.bitAt column down)
    (inside : px < screen.width) (above : py < screen.height) :
    screen.covers x y { sprite with rows := rows } px py = screen.covers x y sprite px py := by
  have left := Nat.mod_lt x.toNat screen.width_pos
  have top := Nat.mod_lt y.toNat screen.height_pos
  rw [covers, covers, Sprite.isSet_eq, Sprite.isSet_eq]
  by_cases narrow : px - x.toNat % screen.width < sprite.width
  · rw [agree _ _ narrow (by omega) (by omega)]
  · simp only [narrow, decide_false, Bool.false_and]

/-- Drawing a sprite turns over the positions of the screen that it meets, and collides if one of
them was lit. -/
theorem draw_met (formed : screen.WellFormed) (narrow : sprite.width ≤ 16) :
    screen.DrawsMet x y sprite where
  completes := draw?_eq formed narrow x y
  turned := by
    intro px py inside above meets
    rw [isLit_draw formed inside above, covers_iff.mpr meets, Bool.xor_true]
  kept := by
    intro px py inside above apart
    have uncovered : screen.covers x y sprite px py = false := by
      rw [Bool.eq_false_iff]
      intro covers
      exact apart (covers_iff.mp covers)
    rw [isLit_draw formed inside above, uncovered, Bool.xor_false]
  collides := by
    rw [draw_collision_iff]
    simp only [covers_iff, and_comm]
  unseen := by
    intro rows agree
    apply draw_congr formed
    intro px py inside above
    exact covers_of_bitAt agree inside above
  mode := rfl
  size := size_foldl_touch _ _
  formed := draw_wellFormed formed x y sprite

/-- A sprite four columns wide in the last corner of a screen on which something is lit, with more
bits and rows than there is room for. -/
theorem draw_met_corner :
    let screen := ((blank .low).draw 60 30 ⟨8, [0xFF, 0xFF]⟩).1
    let sprite := Sprite.mk 4 [0xFFF9, 0x0006, 0xFFFF]
    (screen.WellFormed ∧ sprite.width ≤ 16 ∧ screen.Meets 126 255 sprite 62 31) ∧
      screen.DrawsMet 126 255 sprite := by
  intro screen sprite
  have formed : screen.WellFormed := draw_wellFormed (blank_wellFormed .low) _ _ _
  have narrow : sprite.width ≤ 16 := by decide
  have meets : screen.Meets 126 255 sprite 62 31 := by
    constructor <;> decide
  exact ⟨⟨formed, narrow, meets⟩, draw_met formed narrow⟩

end Screen

end Chip8
