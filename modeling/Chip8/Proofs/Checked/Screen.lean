import Chip8.Screen.Sprite
import Chip8.Proofs.Checked.Operations

/-!
# The screen with every access checked

Scrolling is a matter of moves inside one array and of rows cut out of it, and
drawing a matter of single cells. Here each of these is carried out on the
array with its index or range checked. On a well-formed screen no check fails,
and the picture is the one that is meant.
-/

namespace Chip8

open Checked

/-- The bit of a row in a column, by shifting the row. -/
def Sprite.bit? (sprite : Sprite) (row : Word) (column : Nat) : Option Bool := do
  let last ← difference? sprite.width 1
  let amount ← difference? last column
  let shifted ← shifted? row amount
  some (shifted &&& 1 != 0)

namespace Screen

/-- Moves the first cells of a list on by some places and darkens the places that become free. -/
def slide? (kept step : Nat) (cells : List Byte) : Option (List Byte) := do
  let moved ← move? cells 0 kept step
  put? moved 0 (List.replicate step 0)

def scrollDown? (screen : Screen) (rows : Nat) : Option Screen := do
  let cells := screen.cells.toList
  let shift := min (rows * screen.width) cells.length
  let kept ← difference? cells.length shift
  let moved ← slide? kept shift cells
  some { screen with cells := moved.toArray }

/-- Moves the cells of one row to the right and darkens the first of them. -/
def rowRight? (width : Nat) (row : List Byte) : Option (List Byte) := do
  let kept ← difference? width sidewaysStep
  slide? kept sidewaysStep row

/-- Moves the cells of one row to the left and darkens the last of them. -/
def rowLeft? (width : Nat) (row : List Byte) : Option (List Byte) := do
  let kept ← difference? row.length sidewaysStep
  let moved ← move? row sidewaysStep kept 0
  let start ← difference? width sidewaysStep
  let freed ← difference? moved.length start
  put? moved start (List.replicate freed 0)

/-- Cuts the cells into rows and moves each of them. -/
def moveRows? (screen : Screen) (row? : Nat → List Byte → Option (List Byte)) :
    Option Screen := do
  let rows ← pieces? screen.width screen.cells.toList
  let moved ← rows.mapM (row? screen.width)
  some { screen with cells := moved.flatten.toArray }

def scrollRight? (screen : Screen) : Option Screen := screen.moveRows? rowRight?

def scrollLeft? (screen : Screen) : Option Screen := screen.moveRows? rowLeft?

/-- Turns one cell over, which must be there, and takes note if it was lit. -/
def touch? (drawn : Array Byte × Bool) (index : Nat) : Option (Array Byte × Bool) := do
  let cell ← drawn.1[index]?
  some (drawn.1.setIfInBounds index (cell ^^^ 1), drawn.2 || cell != 0)

/-- Draws one row of a sprite from a column on, as far as the right edge. -/
def drawRow? (screen : Screen) (sprite : Sprite) (left line : Nat) (row : Word)
    (drawn : Array Byte × Bool) : Option (Array Byte × Bool) :=
  let reached := (List.range sprite.width).takeWhile fun column =>
    decide (left + column < screen.width)
  reached.foldlM (fun drawn column => do
    let set ← sprite.bit? row column
    if set then touch? drawn (screen.position (left + column) line) else some drawn) drawn

/-- Draws a sprite row by row, as far as the bottom edge. -/
def draw? (screen : Screen) (x y : Byte) (sprite : Sprite) : Option (Screen × Bool) := do
  let left ← remainder? x.toNat screen.width
  let top ← remainder? y.toNat screen.height
  let reached := sprite.rows.zipIdx.takeWhile fun row => decide (top + row.2 < screen.height)
  let drawn ← reached.foldlM (fun drawn row =>
    screen.drawRow? sprite left (top + row.2) row.1 drawn) (screen.cells, false)
  some ({ screen with cells := drawn.1 }, drawn.2)

end Screen

/-! ## Scrolling -/

namespace Screen

variable {screen : Screen} {row : List Byte}

theorem slide?_eq {kept step : Nat} {cells : List Byte} (size : kept + step = cells.length) :
    slide? kept step cells = some (List.replicate step 0 ++ cells.take kept) := by
  have moved : move? cells 0 kept step = some (cells.take step ++ cells.take kept) := by
    rw [move?_of_le (by omega) (by omega), List.drop_zero,
      List.drop_eq_nil_of_le (by omega : cells.length ≤ step + kept), List.append_nil]
  have head : (cells.take step).length = step := List.length_take_of_le (by omega)
  have room : 0 + (List.replicate step (0 : Byte)).length ≤
      (cells.take step ++ cells.take kept).length := by
    rw [List.length_replicate, List.length_append, head]
    omega
  rw [slide?, bind_of_passes moved, put?_of_le room, List.take_zero, List.nil_append,
    Nat.zero_add, List.length_replicate, List.drop_left' head]

theorem scrollDown?_eq (screen : Screen) (rows : Nat) :
    screen.scrollDown? rows = some (screen.scrollDown rows) := by
  unfold scrollDown? scrollDown
  dsimp only
  rw [Array.length_toList]
  generalize shifted : min (rows * screen.width) screen.cells.size = shift
  have low : shift ≤ screen.cells.size := shifted ▸ Nat.min_le_right _ _
  have size : screen.cells.size - shift + shift = screen.cells.toList.length :=
    Nat.sub_add_cancel low
  rw [bind_of_passes (difference?_of_le low), bind_of_passes (slide?_eq size)]
  congr 2
  apply Array.ext'
  rw [Array.toList_append, Array.toList_replicate, Array.toList_extract]
  rfl

theorem rowRight?_eq {width : Nat} (step : sidewaysStep ≤ width) (size : row.length = width) :
    rowRight? width row =
      some (List.replicate sidewaysStep 0 ++ row.take (width - sidewaysStep)) := by
  rw [rowRight?, bind_of_passes (difference?_of_le step),
    slide?_eq (by rw [size, Nat.sub_add_cancel step])]

theorem rowLeft?_eq {width : Nat} (step : sidewaysStep ≤ width) (size : row.length = width) :
    rowLeft? width row = some (row.drop sidewaysStep ++ List.replicate sidewaysStep 0) := by
  subst size
  have tail : (row.drop sidewaysStep).length = row.length - sidewaysStep := List.length_drop
  have moved : move? row sidewaysStep (row.length - sidewaysStep) 0 =
      some (row.drop sidewaysStep ++ row.drop (row.length - sidewaysStep)) := by
    rw [move?_of_le (by omega) (by omega), List.take_zero, List.nil_append, Nat.zero_add,
      List.take_of_length_le (by omega)]
  have size : (row.drop sidewaysStep ++ row.drop (row.length - sidewaysStep)).length =
      row.length := by
    rw [List.length_append, tail, List.length_drop]
    omega
  have freed : row.length - (row.length - sidewaysStep) = sidewaysStep := by omega
  have room : row.length - sidewaysStep + (List.replicate sidewaysStep (0 : Byte)).length ≤
      (row.drop sidewaysStep ++ row.drop (row.length - sidewaysStep)).length := by
    rw [List.length_replicate, size]
    omega
  rw [rowLeft?, bind_of_passes (difference?_of_le step), bind_of_passes moved,
    bind_of_passes (difference?_of_le step), size,
    bind_of_passes (difference?_of_le (Nat.sub_le _ _)), freed, put?_of_le room,
    List.take_left' tail, List.length_replicate, Nat.sub_add_cancel step,
    List.drop_eq_nil_of_le (Nat.le_of_eq size), List.append_nil]

/-- The cells of one line of the screen. -/
def rowAt (screen : Screen) (line : Nat) : List Byte :=
  piece screen.cells.toList screen.width line

/-- Where each row moves as in another picture of the same mode, the rows move to that picture. -/
theorem moveRows?_eq (formed : screen.WellFormed) {row? : Nat → List Byte → Option (List Byte)}
    {moved : Array Byte} (size : moved.size = screen.cells.size)
    (passes : ∀ line < screen.height, row? screen.width (screen.rowAt line) =
      some ({ screen with cells := moved }.rowAt line)) :
    screen.moveRows? row? = some { screen with cells := moved } := by
  have area : screen.cells.size = screen.height * screen.width := by
    rw [formed.size_cells, Nat.mul_comm]
  have rows : ((List.range screen.height).map screen.rowAt).mapM (row? screen.width) =
      some ((List.range screen.height).map (piece moved.toList screen.width)) := by
    rw [List.mapM_map]
    exact mapM_eq_some fun line mem => passes line (List.mem_range.mp mem)
  rw [moveRows?, bind_of_passes (pieces?_of_length screen.width_pos area)]
  refine (bind_of_passes rows).trans ?_
  rw [flatten_pieces, List.take_of_length_le (Nat.le_of_eq (size.trans area))]

theorem length_row (formed : screen.WellFormed) {line : Nat} (low : line < screen.height) :
    (screen.rowAt line).length = screen.width := by
  apply length_piece
  rw [Array.length_toList, formed.size_cells, ← Nat.succ_mul, Nat.mul_comm screen.width]
  exact Nat.mul_le_mul_right screen.width low

/-- A cell of a row is the cell at its place. -/
theorem getElem?_row (formed : screen.WellFormed) {line column : Nat}
    (low : line < screen.height) (inside : column < screen.width) :
    (screen.rowAt line)[column]? =
      some (screen.cells[line * screen.width + column]?.getD 0) := by
  have present : line * screen.width + column < screen.cells.size :=
    formed.position_lt_size inside low
  rw [rowAt, getElem?_piece inside, Array.getElem?_toList, Array.getElem?_eq_getElem present]
  rfl

/-- A list is a row of a computed picture if each of its cells is computed from its place. -/
theorem eq_row_mapIdx (formed : screen.WellFormed) {line : Nat} (low : line < screen.height)
    {value : Nat → Byte} {cells : List Byte} (size : cells.length = screen.width)
    (agree : ∀ column < screen.width,
      cells[column]? = some (value (line * screen.width + column))) :
    cells = { screen with cells := screen.cells.mapIdx fun place _ => value place }.rowAt line := by
  apply List.ext_getElem?
  intro column
  by_cases inside : column < screen.width
  · have present : line * screen.width + column < screen.cells.size :=
      formed.position_lt_size inside low
    refine (agree column inside).trans (Eq.trans ?_ (getElem?_piece inside).symm)
    rw [Array.getElem?_toList, Array.getElem?_mapIdx, Array.getElem?_eq_getElem present]
    rfl
  · have beyond := Nat.le_of_not_lt inside
    rw [List.getElem?_eq_none (by rwa [size])]
    exact (List.getElem?_take_eq_none beyond).symm

theorem scrollRight?_eq (formed : screen.WellFormed) :
    screen.scrollRight? = some screen.scrollRight := by
  have step := sidewaysStep_le_width screen
  refine moveRows?_eq formed Array.size_mapIdx fun line low => ?_
  have size := length_row formed low
  rw [rowRight?_eq step size]
  congr 1
  apply eq_row_mapIdx formed low
  · rw [List.length_append, List.length_replicate, List.length_take, size]
    omega
  · intro column inside
    rw [Nat.mul_add_mod_of_lt inside]
    by_cases freed : column < sidewaysStep
    · rw [if_pos freed, List.getElem?_append_left (by rwa [List.length_replicate]),
        List.getElem?_replicate_of_lt freed]
    · have old : column - sidewaysStep < screen.width := Nat.lt_of_le_of_lt (Nat.sub_le _ _) inside
      rw [if_neg freed, List.getElem?_append_right (by rw [List.length_replicate]; omega),
        List.length_replicate, List.getElem?_take_of_lt (by omega), getElem?_row formed low old,
        Nat.add_sub_assoc (Nat.le_of_not_lt freed)]

theorem scrollLeft?_eq (formed : screen.WellFormed) :
    screen.scrollLeft? = some screen.scrollLeft := by
  have step := sidewaysStep_le_width screen
  refine moveRows?_eq formed Array.size_mapIdx fun line low => ?_
  have size := length_row formed low
  have kept : ((screen.rowAt line).drop sidewaysStep).length = screen.width - sidewaysStep := by
    rw [List.length_drop, size]
  rw [rowLeft?_eq step size]
  congr 1
  apply eq_row_mapIdx formed low
  · rw [List.length_append, List.length_replicate, kept, Nat.sub_add_cancel step]
  · intro column inside
    rw [Nat.mul_add_mod_of_lt inside]
    by_cases freed : screen.width - sidewaysStep ≤ column
    · rw [if_pos freed, List.getElem?_append_right (by rwa [kept]), kept,
        List.getElem?_replicate_of_lt (by omega)]
    · have old : sidewaysStep + column < screen.width := by omega
      rw [if_neg freed, List.getElem?_append_left (by rw [kept]; omega), List.getElem?_drop,
        getElem?_row formed low old, Nat.add_assoc, Nat.add_comm column]

end Screen

/-! ## Drawing -/

theorem lowestBit_shifted (word : Word) {amount : Nat} (small : amount < 16) :
    (word >>> .ofNat amount &&& 1 != 0) = word.toNat.testBit amount := by
  have low : (word >>> .ofNat amount &&& 1).toNat = 1 &&& word.toNat >>> amount := by
    rw [UInt16.toNat_and, UInt16.toNat_shiftRight, UInt16.toNat_ofNat_of_lt' (Nat.lt_trans small (by decide)),
      Nat.mod_eq_of_lt small, Nat.and_comm]
    rfl
  rw [Nat.testBit, ← low, Bool.eq_iff_iff, bne_iff_ne, bne_iff_ne, ne_eq, ne_eq,
    ← UInt16.toNat_inj]
  rfl

theorem Sprite.bit?_eq {sprite : Sprite} (narrow : sprite.width ≤ 16) (row : Word) {column : Nat}
    (inside : column < sprite.width) : sprite.bit? row column = some (sprite.bit row column) := by
  have small : sprite.width - 1 - column < 16 := by omega
  rw [bit?, bind_of_passes (difference?_of_le (by omega)),
    bind_of_passes (difference?_of_le (by omega)), bind_of_passes (shifted?_of_lt small)]
  congr 1
  exact lowestBit_shifted row small

/-- Counting up to a limit stops at the limit. -/
theorem takeWhile_range (start count limit : Nat) :
    (List.range count).takeWhile (fun offset => decide (start + offset < limit)) =
      List.range (min count (limit - start)) := by
  induction count with
  | zero => rw [Nat.zero_min]; rfl
  | succ count ih =>
      rw [List.range_succ, List.takeWhile_append, ih, List.length_range, List.length_range]
      by_cases room : count ≤ limit - start
      · rw [if_pos (Nat.min_eq_left room), List.takeWhile_cons]
        by_cases fits : start + count < limit
        · rw [Nat.min_eq_left (by omega : count + 1 ≤ limit - start), List.range_succ,
            if_pos (decide_eq_true fits)]
          rfl
        · rw [if_neg (by simpa using fits), List.append_nil,
            show min (count + 1) (limit - start) = count by omega]
      · rw [if_neg (by omega), show min (count + 1) (limit - start) = min count (limit - start) by
          omega]

/-- Numbered rows up to a limit are the rows that fit, numbered. -/
theorem takeWhile_zipIdx (rows : List Word) (first top limit : Nat) :
    (rows.zipIdx first).takeWhile (fun row => decide (top + row.2 < limit)) =
      (rows.take (limit - top - first)).zipIdx first := by
  induction rows generalizing first with
  | nil => rw [List.take_nil]; rfl
  | cons row rest ih =>
      rw [List.zipIdx_cons, List.takeWhile_cons, ih]
      by_cases fits : top + first < limit
      · rw [if_pos (decide_eq_true fits),
          show limit - top - first = limit - top - (first + 1) + 1 by omega, List.take_succ_cons,
          List.zipIdx_cons]
      · rw [if_neg (by simpa using fits), show limit - top - first = 0 by omega]
        rfl

namespace Screen

variable {screen : Screen} {sprite : Sprite}

theorem touch?_eq {drawn : Array Byte × Bool} {index : Nat} (inside : index < drawn.1.size) :
    touch? drawn index = some (touch drawn index) := by
  have found := Array.getElem?_eq_getElem inside
  have turned : drawn.1.setIfInBounds index (drawn.1[index] ^^^ 1) =
      drawn.1.modify index (· ^^^ 1) := by
    apply Array.ext
    · rw [Array.size_setIfInBounds, Array.size_modify]
    · intro place _ _
      rw [Array.getElem_setIfInBounds, Array.getElem_modify]
      split
      · next same => subst same; rfl
      · rfl
  rw [touch?, bind_of_passes found, turned, touch, found]
  rfl

theorem drawRow?_eq (formed : screen.WellFormed) (narrow : sprite.width ≤ 16) (left : Nat)
    {line : Nat} (low : line < screen.height) (row : Word) {drawn : Array Byte × Bool}
    (size : drawn.1.size = screen.cells.size) :
    screen.drawRow? sprite left line row drawn =
      some (((sprite.columns (screen.width - left) row).map fun column =>
        screen.position (left + column) line).foldl touch drawn) := by
  rw [Sprite.columns, List.foldl_map, List.foldl_filter, drawRow?, takeWhile_range]
  apply foldlM_eq_some (fun drawn => drawn.1.size = screen.cells.size) size
  intro drawn size column mem
  have fits := List.mem_range.mp mem
  have inside : screen.position (left + column) line < drawn.1.size := by
    rw [size]
    exact formed.position_lt_size (by omega) low
  rw [bind_of_passes (Sprite.bit?_eq narrow row (by omega))]
  cases sprite.bit row column with
  | false => exact ⟨rfl, size⟩
  | true => exact ⟨touch?_eq inside, (size_foldl_touch [_] drawn).trans size⟩

theorem draw?_eq (formed : screen.WellFormed) (narrow : sprite.width ≤ 16) (x y : Byte) :
    screen.draw? x y sprite = some (screen.draw x y sprite) := by
  have rows : ((sprite.rows.take (screen.height - y.toNat % screen.height)).zipIdx.foldlM
      (fun drawn row => screen.drawRow? sprite (x.toNat % screen.width)
        (y.toNat % screen.height + row.2) row.1 drawn) (screen.cells, false)) =
      some ((screen.covered x y sprite).foldl touch (screen.cells, false)) := by
    rw [covered, Sprite.spots, List.foldl_map, List.foldl_flatMap]
    apply foldlM_eq_some (fun drawn => drawn.1.size = screen.cells.size) rfl
    intro drawn size row mem
    have low : y.toNat % screen.height + row.2 < screen.height := by
      have bound := List.snd_lt_of_mem_zipIdx mem
      rw [List.length_take] at bound
      omega
    rw [drawRow?_eq formed narrow _ low row.1 size, List.foldl_map, List.foldl_map]
    refine ⟨rfl, ?_⟩
    rw [← List.foldl_map, size_foldl_touch, size]
  rw [draw?, bind_of_passes (remainder?_of_pos screen.width_pos),
    bind_of_passes (remainder?_of_pos screen.height_pos), takeWhile_zipIdx, Nat.sub_zero,
    bind_of_passes rows]
  rfl

end Screen

end Chip8
