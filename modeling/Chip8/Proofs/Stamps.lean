import Mathlib.Data.Nat.Bits
import Chip8.Proofs.Checked.Screen
import Chip8.Proofs.Drawing

/-!
# Sprites drawn one over another

Each sprite turns over the positions that it covers, and where it clips depends
on the mode of the screen alone. After any number of them a position is turned
over if an odd number covers it; so their order does not matter, and drawing all
of them twice changes nothing.
-/

namespace Chip8

open Checked

/-- A sprite and where it is drawn. -/
structure Stamp where
  x : Byte
  y : Byte
  sprite : Sprite
deriving DecidableEq, Repr

namespace Screen

variable {screen : Screen} {stamps : List Stamp} {x y : Byte} {sprite : Sprite} {px py : Nat}

def stamp (screen : Screen) (stamp : Stamp) : Screen :=
  (screen.draw stamp.x stamp.y stamp.sprite).1

def stamp? (screen : Screen) (stamp : Stamp) : Option Screen :=
  (screen.draw? stamp.x stamp.y stamp.sprite).map Prod.fst

/-- The screen with sprites drawn on it, one after another. -/
def stamped (screen : Screen) (stamps : List Stamp) : Screen := stamps.foldl stamp screen

/-- How many of the sprites cover a position. -/
def layers (screen : Screen) (stamps : List Stamp) (px py : Nat) : Nat :=
  stamps.countP fun stamp => screen.covers stamp.x stamp.y stamp.sprite px py

theorem mode_stamped (screen : Screen) (stamps : List Stamp) :
    (screen.stamped stamps).mode = screen.mode := by
  induction stamps generalizing screen with
  | nil => rfl
  | cons stamp rest ih => exact ih (screen.stamp stamp)

theorem stamped_wellFormed (formed : screen.WellFormed) (stamps : List Stamp) :
    (screen.stamped stamps).WellFormed := by
  induction stamps generalizing screen with
  | nil => exact formed
  | cons stamp rest ih => exact ih (draw_wellFormed formed _ _ _)

/-- With each access checked, drawing the sprites comes to an end. -/
theorem foldlM_stamp?_eq (formed : screen.WellFormed)
    (narrow : ∀ stamp ∈ stamps, stamp.sprite.width ≤ 16) :
    stamps.foldlM stamp? screen = some (screen.stamped stamps) := by
  apply foldlM_eq_some WellFormed formed
  intro screen formed stamp mem
  have drawn := draw?_eq formed (narrow stamp mem) stamp.x stamp.y
  exact ⟨by rw [stamp?, drawn]; rfl, draw_wellFormed formed _ _ _⟩

theorem bodd_layers_nil (screen : Screen) (px py : Nat) : (screen.layers [] px py).bodd = false :=
  Nat.bodd_zero

theorem bodd_layers_cons (screen : Screen) (stamp : Stamp) (rest : List Stamp) (px py : Nat) :
    (screen.layers (stamp :: rest) px py).bodd =
      (screen.covers stamp.x stamp.y stamp.sprite px py ^^ (screen.layers rest px py).bodd) := by
  rw [layers, List.countP_cons, Nat.bodd_add, Bool.xor_comm]
  cases screen.covers stamp.x stamp.y stamp.sprite px py <;> rfl

theorem bodd_layers_append_self (screen : Screen) (stamps : List Stamp) (px py : Nat) :
    (screen.layers (stamps ++ stamps) px py).bodd = false := by
  rw [layers, List.countP_append, Nat.bodd_add, Bool.xor_self]

/-- A position ends up turned over if an odd number of sprites covers it. -/
theorem isLit_stamped (formed : screen.WellFormed) (stamps : List Stamp)
    (inside : px < screen.width) (above : py < screen.height) :
    (screen.stamped stamps).isLit px py =
      (screen.isLit px py ^^ (screen.layers stamps px py).bodd) := by
  induction stamps generalizing screen with
  | nil =>
      rw [bodd_layers_nil, Bool.xor_false]
      rfl
  | cons stamp rest ih =>
      have later : ((screen.stamp stamp).stamped rest).isLit px py =
          ((screen.stamp stamp).isLit px py ^^ ((screen.stamp stamp).layers rest px py).bodd) :=
        ih (draw_wellFormed formed _ _ _) inside above
      -- Where the rest covers is a matter of the mode, which the first sprite keeps.
      have layers : (screen.stamp stamp).layers rest px py = screen.layers rest px py := rfl
      have first : (screen.stamp stamp).isLit px py =
          (screen.isLit px py ^^ screen.covers stamp.x stamp.y stamp.sprite px py) :=
        isLit_draw formed inside above
      calc (screen.stamped (stamp :: rest)).isLit px py
          = ((screen.stamp stamp).isLit px py ^^ (screen.layers rest px py).bodd) := by
            rw [← layers]
            exact later
        _ = (screen.isLit px py ^^ (screen.layers (stamp :: rest) px py).bodd) := by
            rw [first, Bool.xor_assoc, bodd_layers_cons]

/-- Only the parity of what covers each position of the screen makes a difference. -/
theorem stamped_congr (formed : screen.WellFormed) {other : List Stamp}
    (same : ∀ px py, px < screen.width → py < screen.height →
      (screen.layers other px py).bodd = (screen.layers stamps px py).bodd) :
    screen.stamped other = screen.stamped stamps := by
  have mode := mode_stamped screen stamps
  apply (stamped_wellFormed formed stamps).eq_of_isLit (stamped_wellFormed formed other)
    ((mode_stamped screen other).trans mode.symm)
  intro px py inside above
  rw [width, mode] at inside
  rw [height, mode] at above
  rw [isLit_stamped formed _ inside above, isLit_stamped formed _ inside above,
    same px py inside above]

/-- A sprite drawn again collides where the first time it lit a position. -/
theorem draw_draw_collision_iff (formed : screen.WellFormed) :
    ((screen.draw x y sprite).1.draw x y sprite).2 = true ↔
      ∃ px py, (px < screen.width ∧ py < screen.height) ∧ screen.covers x y sprite px py = true ∧
        screen.isLit px py = false := by
  rw [draw_collision_iff]
  apply exists₂_congr
  intro px py
  apply and_congr_right
  rintro ⟨inside, above⟩
  have covers : (screen.draw x y sprite).1.covers x y sprite px py =
      screen.covers x y sprite px py := rfl
  rw [covers, isLit_draw formed inside above, and_comm]
  apply and_congr_right
  intro covered
  rw [covered, Bool.xor_true, Bool.not_eq_true']

theorem dark_of_covers (clear : (screen.draw x y sprite).2 = false) (inside : px < screen.width)
    (above : py < screen.height) (covers : screen.covers x y sprite px py = true) :
    screen.isLit px py = false := by
  rw [Bool.eq_false_iff] at clear ⊢
  intro lit
  exact clear (draw_collision_iff.mpr ⟨px, py, ⟨inside, above⟩, lit, covers⟩)

/-- What drawing sprites one over another comes to. -/
structure StampsCompose (screen : Screen) (stamps : List Stamp) : Prop where
  /-- Row by row and with each access checked, drawing comes to an end. -/
  completes : stamps.foldlM stamp? screen = some (screen.stamped stamps)
  formed : (screen.stamped stamps).WellFormed
  mode : (screen.stamped stamps).mode = screen.mode
  parity : ∀ px py, px < screen.width → py < screen.height →
    (screen.stamped stamps).isLit px py =
      (screen.isLit px py ^^ (screen.layers stamps px py).bodd)
  permuted : ∀ other : List Stamp, other.Perm stamps →
    screen.stamped other = screen.stamped stamps
  undone : screen.stamped (stamps ++ stamps) = screen
  /-- A sprite drawn again at once collides if it covers a position that was dark before. -/
  repeated : ∀ (x y : Byte) (sprite : Sprite),
    ((screen.draw x y sprite).1.draw x y sprite).2 = true ↔
      ∃ px py, (px < screen.width ∧ py < screen.height) ∧ screen.covers x y sprite px py = true ∧
        screen.isLit px py = false
  /-- So if it did not collide the first time, it does if it covers any position at all. -/
  fresh : ∀ (x y : Byte) (sprite : Sprite), (screen.draw x y sprite).2 = false →
    (((screen.draw x y sprite).1.draw x y sprite).2 = true ↔
      ∃ px py, (px < screen.width ∧ py < screen.height) ∧ screen.covers x y sprite px py = true)

/-- Sprites compose by parity and in any order. -/
theorem stamps_compose (formed : screen.WellFormed)
    (narrow : ∀ stamp ∈ stamps, stamp.sprite.width ≤ 16) : screen.StampsCompose stamps where
  completes := foldlM_stamp?_eq formed narrow
  formed := stamped_wellFormed formed stamps
  mode := mode_stamped screen stamps
  parity := by
    intro px py inside above
    exact isLit_stamped formed stamps inside above
  permuted := by
    intro other same
    apply stamped_congr formed
    intro px py _ _
    rw [layers, layers, same.countP_eq]
  undone := by
    have cancelled : screen.stamped (stamps ++ stamps) = screen.stamped [] := by
      apply stamped_congr formed
      intro px py _ _
      rw [bodd_layers_append_self, bodd_layers_nil]
    exact cancelled
  repeated := by
    intro x y sprite
    exact draw_draw_collision_iff formed
  fresh := by
    intro x y sprite clear
    rw [draw_draw_collision_iff formed]
    apply exists₂_congr
    intro px py
    apply and_congr_right
    intro within
    apply and_iff_left_of_imp
    intro covered
    exact dark_of_covers clear within.1 within.2 covered

/-- Two sprites that overlap, one of them cut off at the last corner, on a screen on which
something is lit. -/
theorem stamps_compose_overlapping :
    let screen := ((blank .high).draw 1 0 ⟨8, [0xA5]⟩).1
    let stamps := [Stamp.mk 0 0 ⟨8, [0xF0, 0x90]⟩, ⟨2, 1, ⟨16, [0xFFFF]⟩⟩, ⟨127, 255, ⟨4, [9, 6]⟩⟩]
    (screen.WellFormed ∧ ∀ stamp ∈ stamps, stamp.sprite.width ≤ 16) ∧
      screen.StampsCompose stamps := by
  intro screen stamps
  have formed : screen.WellFormed := draw_wellFormed (blank_wellFormed .high) _ _ _
  have narrow : ∀ stamp ∈ stamps, stamp.sprite.width ≤ 16 := by decide
  exact ⟨⟨formed, narrow⟩, stamps_compose formed narrow⟩

/-- A sprite that first switches off all it covers does not collide when it is drawn again. -/
theorem draw_draw_of_lit :
    let sprite := Sprite.mk 8 [0x80]
    let screen := ((blank .low).draw 0 0 sprite).1
    screen.WellFormed ∧
      ¬ (((screen.draw 0 0 sprite).1.draw 0 0 sprite).2 = true ↔
        ∃ px py, (px < screen.width ∧ py < screen.height) ∧
          screen.covers 0 0 sprite px py = true) := by
  intro sprite screen
  have formed : screen.WellFormed := draw_wellFormed (blank_wellFormed .low) _ _ _
  have covered : screen.covers 0 0 sprite 0 0 = true := by decide
  have dark : ((screen.draw 0 0 sprite).1.draw 0 0 sprite).2 = false := by decide +kernel
  refine ⟨formed, fun claimed => ?_⟩
  have collides := claimed.mpr ⟨0, 0, by decide, covered⟩
  rw [dark] at collides
  cases collides

end Screen

end Chip8
