import Mathlib.Data.List.Nodup
import Chip8.Screen.Sprite

/-!
# Drawing on the screen

Drawing walks over the set bits of a sprite one by one. No position is walked
over twice, so the picture afterwards is the old one with exactly the covered
positions turned over, and the collision that is noted on the way is an overlap
with the picture before.
-/

namespace Chip8

namespace Sprite

/-- Whether a sprite has its bit set in a column and a row, counted from its corner. -/
def isSet (sprite : Sprite) (column down : Nat) : Bool :=
  decide (column < sprite.width) && sprite.rows[down]?.any fun row => sprite.bit row column

theorem mem_columns_iff {sprite : Sprite} {room : Nat} {row : Word} {column : Nat} :
    column ∈ sprite.columns room row ↔
      (column < sprite.width ∧ column < room) ∧ sprite.bit row column = true := by
  rw [columns, List.mem_filter, List.mem_range, Nat.lt_min]

theorem mem_spots_iff {sprite : Sprite} {right below column down : Nat} :
    (column, down) ∈ sprite.spots right below ↔
      (column < right ∧ down < below) ∧ sprite.isSet column down = true := by
  simp only [spots, List.mem_flatMap, List.mem_map, Prod.exists, List.mk_mem_zipIdx_iff_getElem?,
    mem_columns_iff, Prod.mk.injEq, isSet, Bool.and_eq_true, decide_eq_true_eq, Option.any_eq_true]
  constructor
  · rintro ⟨row, down, found, column, ⟨⟨narrow, inside⟩, set⟩, rfl, rfl⟩
    rw [List.getElem?_take, Option.ite_none_right_eq_some] at found
    exact ⟨⟨inside, found.1⟩, narrow, row, found.2, set⟩
  · rintro ⟨⟨inside, above⟩, narrow, row, found, set⟩
    refine ⟨row, down, ?_, column, ⟨⟨narrow, inside⟩, set⟩, rfl, rfl⟩
    rw [List.getElem?_take, Option.ite_none_right_eq_some]
    exact ⟨above, found⟩

theorem spots_nodup (sprite : Sprite) (right below : Nat) : (sprite.spots right below).Nodup := by
  unfold spots
  rw [List.nodup_flatMap]
  constructor
  · rintro ⟨row, down⟩ -
    apply List.Nodup.map
    · intro column column' same
      exact (Prod.mk.inj same).1
    · exact List.Nodup.filter _ List.nodup_range
  · -- Two rows of a sprite differ in their number, and so do all of their spots.
    have numbered : ((sprite.rows.take below).zipIdx.map Prod.snd).Nodup := by
      rw [List.zipIdx_map_snd]
      exact List.nodup_range'
    refine (List.pairwise_map.mp numbered).imp ?_
    rintro ⟨row, down⟩ ⟨row', down'⟩ apart spot mem mem'
    obtain ⟨column, -, rfl⟩ := List.mem_map.mp mem
    obtain ⟨column', -, same⟩ := List.mem_map.mp mem'
    exact apart (Prod.mk.inj same).2.symm

end Sprite

namespace Screen

theorem position_inj {screen : Screen} {px py px' py' : Nat} (inside : px < screen.width)
    (inside' : px' < screen.width) (same : screen.position px py = screen.position px' py') :
    px = px' ∧ py = py' := by
  unfold position at same
  rw [Nat.mul_comm py, Nat.mul_comm py'] at same
  have column := congrArg (· % screen.width) same
  have row := congrArg (· / screen.width) same
  simp only [Nat.mul_add_mod, Nat.mod_eq_of_lt inside, Nat.mod_eq_of_lt inside'] at column
  simp only [Nat.mul_add_div screen.width_pos, Nat.div_eq_of_lt inside,
    Nat.div_eq_of_lt inside', Nat.add_zero] at row
  exact ⟨column, row⟩

/-- Whether a sprite that is drawn at `x` and `y` has a set bit on a position: the corner wraps
around the screen, the rest does not. -/
def covers (screen : Screen) (x y : Byte) (sprite : Sprite) (px py : Nat) : Bool :=
  let left := x.toNat % screen.width
  let top := y.toNat % screen.height
  (decide (left ≤ px) && decide (top ≤ py)) && sprite.isSet (px - left) (py - top)

variable {screen : Screen} {x y : Byte} {sprite : Sprite}

theorem mem_covered_iff {index : Nat} :
    index ∈ screen.covered x y sprite ↔
      ∃ px py, (px < screen.width ∧ py < screen.height) ∧
        screen.covers x y sprite px py = true ∧ screen.position px py = index := by
  have left := Nat.mod_lt x.toNat screen.width_pos
  have top := Nat.mod_lt y.toNat screen.height_pos
  simp only [covered, List.mem_map, Prod.exists, Sprite.mem_spots_iff, covers, Bool.and_eq_true,
    decide_eq_true_eq]
  constructor
  · rintro ⟨column, down, ⟨⟨inside, above⟩, set⟩, rfl⟩
    refine ⟨x.toNat % screen.width + column, y.toNat % screen.height + down,
      ⟨by omega, by omega⟩, ⟨⟨by omega, by omega⟩, ?_⟩, rfl⟩
    rw [Nat.add_sub_cancel_left, Nat.add_sub_cancel_left]
    exact set
  · rintro ⟨px, py, ⟨inside, above⟩, ⟨⟨right, under⟩, set⟩, rfl⟩
    refine ⟨px - x.toNat % screen.width, py - y.toNat % screen.height,
      ⟨⟨by omega, by omega⟩, set⟩, ?_⟩
    rw [Nat.add_sub_cancel' right, Nat.add_sub_cancel' under]

theorem position_mem_covered_iff {px py : Nat} (inside : px < screen.width)
    (above : py < screen.height) :
    screen.position px py ∈ screen.covered x y sprite ↔
      screen.covers x y sprite px py = true := by
  rw [mem_covered_iff]
  constructor
  · rintro ⟨px', py', ⟨inside', -⟩, covers, same⟩
    obtain ⟨rfl, rfl⟩ := position_inj inside' inside same
    exact covers
  · intro covers
    exact ⟨px, py, ⟨inside, above⟩, covers, rfl⟩

theorem covered_nodup (screen : Screen) (x y : Byte) (sprite : Sprite) :
    (screen.covered x y sprite).Nodup := by
  apply List.Nodup.map_on _ (sprite.spots_nodup _ _)
  rintro ⟨column, down⟩ mem ⟨column', down'⟩ mem' same
  obtain ⟨⟨inside, -⟩, -⟩ := Sprite.mem_spots_iff.mp mem
  obtain ⟨⟨inside', -⟩, -⟩ := Sprite.mem_spots_iff.mp mem'
  obtain ⟨columns, rows⟩ := position_inj (by omega) (by omega) same
  rw [Prod.mk.injEq]
  exact ⟨Nat.add_left_cancel columns, Nat.add_left_cancel rows⟩

theorem foldl_touch_of_not_mem {indices : List Nat} {place : Nat} (absent : place ∉ indices)
    (drawn : Array Byte × Bool) : (indices.foldl touch drawn).1[place]? = drawn.1[place]? := by
  induction indices generalizing drawn with
  | nil => rfl
  | cons index rest ih =>
      rw [List.mem_cons, not_or] at absent
      rw [List.foldl_cons, ih absent.2, touch, Array.getElem?_modify, if_neg (Ne.symm absent.1)]

/-- A cell that is walked over is turned over, and only once. -/
theorem foldl_touch_of_mem {indices : List Nat} (nodup : indices.Nodup) {place : Nat}
    (mem : place ∈ indices) (drawn : Array Byte × Bool) :
    (indices.foldl touch drawn).1[place]? = drawn.1[place]?.map (· ^^^ 1) := by
  induction indices generalizing drawn with
  | nil => cases mem
  | cons index rest ih =>
      obtain ⟨fresh, nodup⟩ := List.nodup_cons.mp nodup
      rw [List.foldl_cons]
      rcases List.mem_cons.mp mem with rfl | later
      · rw [foldl_touch_of_not_mem fresh, touch, Array.getElem?_modify, if_pos rfl]
      · have other : index ≠ place := fun same => fresh (same ▸ later)
        rw [ih nodup later, touch, Array.getElem?_modify, if_neg other]

/-- As no cell is walked over twice, what is noted on the way is what was lit before. -/
theorem foldl_touch_collision {indices : List Nat} (nodup : indices.Nodup)
    (drawn : Array Byte × Bool) :
    (indices.foldl touch drawn).2 = true ↔
      drawn.2 = true ∨ ∃ index ∈ indices, drawn.1[index]?.getD 0 ≠ 0 := by
  induction indices generalizing drawn with
  | nil => simp
  | cons index rest ih =>
      obtain ⟨fresh, nodup⟩ := List.nodup_cons.mp nodup
      have untouched : ∀ other ∈ rest, (touch drawn index).1[other]? = drawn.1[other]? := by
        intro other mem
        have apart : index ≠ other := fun same => fresh (same ▸ mem)
        rw [touch, Array.getElem?_modify, if_neg apart]
      rw [List.foldl_cons, ih nodup]
      simp only [List.exists_mem_cons_iff]
      rw [← or_assoc]
      apply or_congr
      · simp [touch]
      · apply exists_congr
        intro other
        apply and_congr_right
        intro mem
        rw [untouched other mem]

theorem isLit_eq (screen : Screen) (px py : Nat) :
    screen.isLit px py = (screen.cells[screen.position px py]?.getD 0 != 0) := by
  unfold isLit cell?
  cases screen.cells[screen.position px py]? <;> rfl

theorem eq_of_binary {cell other : Byte} (binary : cell = 0 ∨ cell = 1)
    (binary' : other = 0 ∨ other = 1) (lit : (other != 0) = (cell != 0)) : other = cell := by
  rcases binary with rfl | rfl
  · rcases binary' with rfl | rfl
    · rfl
    · cases lit
  · rcases binary' with rfl | rfl
    · cases lit
    · rfl

/-- The place of a cell is the position of its column and row. -/
theorem position_mod_div (screen : Screen) (place : Nat) :
    screen.position (place % screen.width) (place / screen.width) = place := by
  rw [position, Nat.mul_comm]
  exact Nat.div_add_mod place screen.width

/-- Two well-formed screens of one mode on which the same positions are lit are the same. -/
theorem WellFormed.eq_of_isLit {other : Screen} (formed : screen.WellFormed)
    (formed' : other.WellFormed) (mode : other.mode = screen.mode)
    (lit : ∀ px py, px < screen.width → py < screen.height →
      other.isLit px py = screen.isLit px py) : other = screen := by
  have width : other.width = screen.width := congrArg Mode.width mode
  have size : other.cells.size = screen.cells.size := by
    rw [formed.size_cells, formed'.size_cells, width, height, height, mode]
  have cells : other.cells = screen.cells := by
    apply Array.ext size
    intro place inside' inside
    have low : place / screen.width < screen.height := by
      rw [Nat.div_lt_iff_lt_mul screen.width_pos, Nat.mul_comm, ← formed.size_cells]
      exact inside
    have same := lit (place % screen.width) (place / screen.width)
      (Nat.mod_lt _ screen.width_pos) low
    have position : other.position (place % screen.width) (place / screen.width) = place := by
      rw [← width]
      exact other.position_mod_div place
    rw [isLit_eq, isLit_eq, position, screen.position_mod_div,
      Array.getElem?_eq_getElem inside, Array.getElem?_eq_getElem inside'] at same
    exact eq_of_binary (formed.binary _ (Array.getElem_mem inside))
      (formed'.binary _ (Array.getElem_mem inside')) same
  change Screen.mk other.mode other.cells = ⟨screen.mode, screen.cells⟩
  rw [mode, cells]

/-- Drawing turns over the covered positions of the screen and no others. -/
theorem isLit_draw (formed : screen.WellFormed) {px py : Nat} (inside : px < screen.width)
    (above : py < screen.height) :
    (screen.draw x y sprite).1.isLit px py =
      (screen.isLit px py ^^ screen.covers x y sprite px py) := by
  have cells : (screen.draw x y sprite).1.isLit px py =
      (((screen.covered x y sprite).foldl touch (screen.cells, false)).1[
        screen.position px py]?.getD 0 != 0) := isLit_eq _ _ _
  have present : screen.position px py < screen.cells.size :=
    formed.position_lt_size inside above
  rw [cells, isLit_eq]
  cases covers : screen.covers x y sprite px py with
  | true =>
      have mem := (position_mem_covered_iff inside above).mpr covers
      rw [foldl_touch_of_mem (covered_nodup _ _ _ _) mem, Array.getElem?_eq_getElem present]
      rcases formed.binary _ (Array.getElem_mem present) with dark | lit
      · rw [dark]
        rfl
      · rw [lit]
        rfl
  | false =>
      have absent : screen.position px py ∉ screen.covered x y sprite := by
        intro mem
        rw [position_mem_covered_iff inside above, covers] at mem
        cases mem
      rw [foldl_touch_of_not_mem absent, Bool.xor_false]

/-- Drawing collides just when it covers a position that was lit. -/
theorem draw_collision_iff :
    (screen.draw x y sprite).2 = true ↔
      ∃ px py, (px < screen.width ∧ py < screen.height) ∧ screen.isLit px py = true ∧
        screen.covers x y sprite px py = true := by
  have walked := foldl_touch_collision (screen.covered_nodup x y sprite) (screen.cells, false)
  refine walked.trans ?_
  simp only [Bool.false_eq_true, false_or, mem_covered_iff, isLit_eq, bne_iff_ne]
  constructor
  · rintro ⟨index, ⟨px, py, within, covers, rfl⟩, lit⟩
    exact ⟨px, py, within, lit, covers⟩
  · rintro ⟨px, py, within, lit, covers⟩
    exact ⟨_, ⟨px, py, within, covers, rfl⟩, lit⟩

end Screen

end Chip8
