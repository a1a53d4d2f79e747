import Chip8.Word

/-!
# The screen

A grid of cells, one byte each, kept row after row in one array; a cell is lit
unless it is zero. Scrolling drops what leaves the screen, and every change of
mode starts with a dark screen.
-/

namespace Chip8

/-- The mode of the screen, 64 by 32 cells or 128 by 64. -/
inductive Mode where
  | low
  | high
deriving DecidableEq, Repr

namespace Mode

def width : Mode → Nat
  | .low => 64
  | .high => 128

def height : Mode → Nat
  | .low => 32
  | .high => 64

end Mode

structure Screen where
  mode : Mode
  cells : Array Byte
deriving DecidableEq, Repr

namespace Screen

def width (screen : Screen) : Nat := screen.mode.width

def height (screen : Screen) : Nat := screen.mode.height

/-- The screen has one cell for each position of its mode, and no cell holds
anything but zero or one. -/
structure WellFormed (screen : Screen) : Prop where
  size_cells : screen.cells.size = screen.width * screen.height
  binary : ∀ cell ∈ screen.cells, cell = 0 ∨ cell = 1

/-- The number of columns by which the picture moves sideways. -/
def sidewaysStep : Nat := 4

def blank (mode : Mode) : Screen where
  mode := mode
  cells := Array.replicate (mode.width * mode.height) 0

/-- Where the cell of column `x` and row `y` stands in the array. -/
def position (screen : Screen) (x y : Nat) : Nat := y * screen.width + x

/-- Whether the cell at a position is lit, if the array reaches that far. -/
def cell? (screen : Screen) (x y : Nat) : Option Bool :=
  screen.cells[screen.position x y]?.map (· != 0)

def isLit (screen : Screen) (x y : Nat) : Bool := (screen.cell? x y).getD false

def litCount (screen : Screen) : Nat := screen.cells.countP (· != 0)

def clear (screen : Screen) : Screen :=
  { screen with cells := screen.cells.map fun _ => 0 }

/-- Moves the picture down. The cells of the rows are counted by a natural number, so the count
never wraps; one that 64 bits cannot hold is more than the screen has. -/
def scrollDown (screen : Screen) (rows : Nat) : Screen :=
  let shift := min (rows * screen.width) screen.cells.size
  { screen with
    cells := Array.replicate shift 0 ++ screen.cells.extract 0 (screen.cells.size - shift) }

def scrollRight (screen : Screen) : Screen :=
  { screen with
    cells := screen.cells.mapIdx fun index _ =>
      if index % screen.width < sidewaysStep then 0
      else screen.cells[index - sidewaysStep]?.getD 0 }

def scrollLeft (screen : Screen) : Screen :=
  { screen with
    cells := screen.cells.mapIdx fun index _ =>
      if screen.width - sidewaysStep ≤ index % screen.width then 0
      else screen.cells[index + sidewaysStep]?.getD 0 }

theorem width_pos (screen : Screen) : 0 < screen.width := by
  unfold width
  cases screen.mode <;> decide

theorem height_pos (screen : Screen) : 0 < screen.height := by
  unfold height
  cases screen.mode <;> decide

theorem sidewaysStep_le_width (screen : Screen) : sidewaysStep ≤ screen.width := by
  unfold width
  cases screen.mode <;> decide

theorem position_lt {screen : Screen} {px py : Nat} (inside : px < screen.width)
    (above : py < screen.height) : screen.position px py < screen.width * screen.height := by
  unfold position
  calc py * screen.width + px
      < py * screen.width + screen.width := Nat.add_lt_add_left inside _
    _ = screen.width * (py + 1) := by rw [Nat.mul_succ, Nat.mul_comm]
    _ ≤ screen.width * screen.height := Nat.mul_le_mul_left _ above

theorem WellFormed.position_lt_size {screen : Screen} (formed : screen.WellFormed) {px py : Nat}
    (inside : px < screen.width) (above : py < screen.height) :
    screen.position px py < screen.cells.size :=
  formed.size_cells ▸ position_lt inside above

theorem blank_wellFormed (mode : Mode) : (blank mode).WellFormed where
  size_cells := by simp [blank, width, height]
  binary := by
    intro cell mem
    exact .inl (Array.eq_of_mem_replicate mem)

theorem clear_wellFormed {screen : Screen} (formed : screen.WellFormed) :
    screen.clear.WellFormed where
  size_cells := by simpa [clear, width, height] using formed.size_cells
  binary := by
    intro cell mem
    obtain ⟨old, -, dark⟩ := Array.mem_map.mp mem
    exact .inl dark.symm

/-- A cell that is looked up in a well-formed screen is zero or one, also where there is none. -/
theorem WellFormed.binary_getD {screen : Screen} (formed : screen.WellFormed) (index : Nat) :
    screen.cells[index]?.getD 0 = 0 ∨ screen.cells[index]?.getD 0 = 1 := by
  cases found : screen.cells[index]? with
  | none => exact .inl rfl
  | some cell => exact formed.binary cell (Array.mem_of_getElem? found)

theorem scrollDown_wellFormed {screen : Screen} (formed : screen.WellFormed) (rows : Nat) :
    (screen.scrollDown rows).WellFormed where
  size_cells := by
    have size := formed.size_cells
    unfold scrollDown width height at *
    simp only [Array.size_append, Array.size_replicate, Array.size_extract]
    omega
  binary := by
    intro cell mem
    rcases Array.mem_append.mp mem with new | moved
    · exact .inl (Array.eq_of_mem_replicate new)
    · obtain ⟨index, bound, rfl⟩ := Array.mem_extract_iff_getElem.mp moved
      exact formed.binary _ (Array.getElem_mem _)

theorem scrollRight_wellFormed {screen : Screen} (formed : screen.WellFormed) :
    screen.scrollRight.WellFormed where
  size_cells := by simpa [scrollRight, width, height] using formed.size_cells
  binary := by
    intro cell mem
    obtain ⟨index, bound, rfl⟩ := Array.mem_mapIdx.mp mem
    split
    · exact .inl rfl
    · exact formed.binary_getD _

theorem scrollLeft_wellFormed {screen : Screen} (formed : screen.WellFormed) :
    screen.scrollLeft.WellFormed where
  size_cells := by simpa [scrollLeft, width, height] using formed.size_cells
  binary := by
    intro cell mem
    obtain ⟨index, bound, rfl⟩ := Array.mem_mapIdx.mp mem
    split
    · exact .inl rfl
    · exact formed.binary_getD _

end Screen

end Chip8
