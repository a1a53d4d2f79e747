import Chip8.Proofs.Checked.Screen
import Chip8.Proofs.Drawing

/-!
# Scrolling along a path

Each scroll moves every position by the same way, and what it moves off the
screen is gone. So a position is lit after some scrolls if the path that ends
there began at a lit position and has never left the screen.
-/

namespace Chip8

open Checked

/-- The ways in which the picture moves. -/
inductive Scroll where
  | left
  | right
  | down (rows : Nat)
deriving DecidableEq, Repr

/-- The way to go, counted in cells of a screen that wide, is a number of 64 bits. -/
def Scroll.Fits (width : Nat) : Scroll → Prop
  | .down rows => rows * width < 18446744073709551616
  | _ => True

/-- A column and a row, which may lie outside the screen. -/
structure Spot where
  column : Int
  row : Int
deriving DecidableEq, Repr

namespace Spot

def ofPosition (px py : Nat) : Spot := ⟨px, py⟩

def move (spot : Spot) : Scroll → Spot
  | .left => { spot with column := spot.column - 4 }
  | .right => { spot with column := spot.column + 4 }
  | .down rows => { spot with row := spot.row + rows }

/-- Where a spot gets to along a path. -/
def follow (spot : Spot) (scrolls : List Scroll) : Spot := scrolls.foldl move spot

/-- A spot that is a position of the screen. -/
structure OnScreen (spot : Spot) (mode : Mode) : Prop where
  column_nonneg : 0 ≤ spot.column
  column_lt : spot.column < mode.width
  row_nonneg : 0 ≤ spot.row
  row_lt : spot.row < mode.height

/-- A path from one spot to another that leaves the screen after no part of it. -/
structure Reaches (start : Spot) (mode : Mode) (scrolls : List Scroll) (finish : Spot) : Prop where
  arrives : start.follow scrolls = finish
  stays : ∀ before, before <+: scrolls → (start.follow before).OnScreen mode

variable {start finish : Spot} {mode : Mode} {scroll : Scroll} {scrolls : List Scroll}

theorem onScreen_ofPosition {px py : Nat} (inside : px < mode.width) (above : py < mode.height) :
    (ofPosition px py).OnScreen mode :=
  ⟨Int.natCast_nonneg px, Int.ofNat_lt.mpr inside, Int.natCast_nonneg py, Int.ofNat_lt.mpr above⟩

theorem ofPosition_inj {px py qx qy : Nat} (same : ofPosition qx qy = ofPosition px py) :
    qx = px ∧ qy = py := by
  simpa only [ofPosition, Spot.mk.injEq, Int.ofNat_inj] using same

theorem move_left_iff {px py qx qy : Nat} :
    (ofPosition qx qy).move .left = ofPosition px py ↔ qx = px + 4 ∧ qy = py := by
  simp only [move, ofPosition, Spot.mk.injEq]
  omega

theorem move_right_iff {px py qx qy : Nat} :
    (ofPosition qx qy).move .right = ofPosition px py ↔ qx + 4 = px ∧ qy = py := by
  simp only [move, ofPosition, Spot.mk.injEq]
  omega

theorem move_down_iff {px py qx qy rows : Nat} :
    (ofPosition qx qy).move (.down rows) = ofPosition px py ↔ qx = px ∧ qy + rows = py := by
  simp only [move, ofPosition, Spot.mk.injEq]
  omega

theorem OnScreen.exists_position (onScreen : start.OnScreen mode) :
    ∃ px py, (px < mode.width ∧ py < mode.height) ∧ start = ofPosition px py := by
  obtain ⟨right, inside, below, above⟩ := onScreen
  obtain ⟨px, column⟩ := Int.eq_ofNat_of_zero_le right
  obtain ⟨py, row⟩ := Int.eq_ofNat_of_zero_le below
  refine ⟨px, py, ⟨by omega, by omega⟩, ?_⟩
  change Spot.mk start.column start.row = ⟨px, py⟩
  rw [column, row]

theorem reaches_nil_iff : start.Reaches mode [] finish ↔ start = finish ∧ start.OnScreen mode := by
  constructor
  · rintro ⟨arrives, stays⟩
    exact ⟨arrives, stays [] List.prefix_rfl⟩
  · rintro ⟨arrives, onScreen⟩
    refine ⟨arrives, fun before part => ?_⟩
    rw [List.prefix_nil.mp part]
    exact onScreen

theorem reaches_cons_iff : start.Reaches mode (scroll :: scrolls) finish ↔
    start.OnScreen mode ∧ (start.move scroll).Reaches mode scrolls finish := by
  constructor
  · rintro ⟨arrives, stays⟩
    refine ⟨stays [] List.nil_prefix, arrives, fun before part => ?_⟩
    exact stays (scroll :: before) (List.cons_prefix_cons.mpr ⟨rfl, part⟩)
  · rintro ⟨onScreen, arrives, stays⟩
    refine ⟨arrives, fun before part => ?_⟩
    rcases List.prefix_cons_iff.mp part with rfl | ⟨rest, rfl, shorter⟩
    · exact onScreen
    · exact stays rest shorter

theorem Reaches.onScreen (reaches : start.Reaches mode scrolls finish) : start.OnScreen mode :=
  reaches.stays [] List.nil_prefix

end Spot

namespace Screen

variable {screen : Screen} {scrolls : List Scroll} {px py rows : Nat}

def scroll (screen : Screen) : Scroll → Screen
  | .left => screen.scrollLeft
  | .right => screen.scrollRight
  | .down rows => screen.scrollDown rows

/-- Scrolls with each access checked. The rows to go down are counted in cells, by a number that
must fit into 64 bits. -/
def scroll? (screen : Screen) : Scroll → Option Screen
  | .left => screen.scrollLeft?
  | .right => screen.scrollRight?
  | .down rows => do
      let _ ← wide? (rows * screen.width)
      screen.scrollDown? rows

/-- The screen after one scroll after another. -/
def scrolled (screen : Screen) (scrolls : List Scroll) : Screen := scrolls.foldl scroll screen

/-! ## One scroll -/

theorem isLit_of_cell {cell : Byte} (found : screen.cells[screen.position px py]? = some cell) :
    screen.isLit px py = (cell != 0) := by
  rw [isLit_eq, found, Option.getD_some]

/-- A cell that a scroll computes from its place in the array. -/
theorem isLit_mapIdx (formed : screen.WellFormed) (value : Nat → Byte) (inside : px < screen.width)
    (above : py < screen.height) :
    { screen with cells := screen.cells.mapIdx fun place _ => value place }.isLit px py =
      (value (screen.position px py) != 0) := by
  have present : screen.position px py < screen.cells.size := formed.position_lt_size inside above
  apply isLit_of_cell
  refine Array.getElem?_mapIdx.trans ?_
  change Option.map _ screen.cells[screen.position px py]? = _
  rw [Array.getElem?_eq_getElem present]
  rfl

theorem position_mod (inside : px < screen.width) : screen.position px py % screen.width = px :=
  Nat.mul_add_mod_of_lt inside

theorem isLit_scrollRight (formed : screen.WellFormed) (inside : px < screen.width)
    (above : py < screen.height) :
    screen.scrollRight.isLit px py =
      (decide (sidewaysStep ≤ px) && screen.isLit (px - sidewaysStep) py) := by
  refine (isLit_mapIdx formed _ inside above).trans ?_
  rw [position_mod inside, isLit_eq]
  by_cases freed : px < sidewaysStep
  · rw [if_pos freed, decide_eq_false (Nat.not_le_of_lt freed)]
    rfl
  · have old := Nat.le_of_not_lt freed
    rw [if_neg freed, decide_eq_true old, Bool.true_and, position, position,
      Nat.add_sub_assoc old]

theorem isLit_scrollLeft (formed : screen.WellFormed) (inside : px < screen.width)
    (above : py < screen.height) :
    screen.scrollLeft.isLit px py =
      (decide (px + sidewaysStep < screen.width) && screen.isLit (px + sidewaysStep) py) := by
  have step := sidewaysStep_le_width screen
  refine (isLit_mapIdx formed _ inside above).trans ?_
  rw [position_mod inside, isLit_eq]
  by_cases freed : screen.width - sidewaysStep ≤ px
  · rw [if_pos freed, decide_eq_false (by omega)]
    rfl
  · rw [if_neg freed, decide_eq_true (by omega), Bool.true_and, position, position, Nat.add_assoc]

/-- The rows that come free are dark, the others come from above. -/
theorem getElem?_scrollDown {place : Nat} (present : place < screen.cells.size) :
    (screen.scrollDown rows).cells[place]? =
      if place < rows * screen.width then some 0
      else screen.cells[place - rows * screen.width]? := by
  change (Array.replicate (min (rows * screen.width) screen.cells.size) 0 ++
    screen.cells.extract 0
      (screen.cells.size - min (rows * screen.width) screen.cells.size))[place]? = _
  by_cases freed : place < rows * screen.width
  · have early : place < min (rows * screen.width) screen.cells.size := Nat.lt_min.mpr ⟨freed, present⟩
    rw [if_pos freed, Array.getElem?_append_left (by rwa [Array.size_replicate]),
      Array.getElem?_replicate, if_pos early]
  · have shift : min (rows * screen.width) screen.cells.size = rows * screen.width := by omega
    rw [if_neg freed, shift, Array.getElem?_append_right (by rw [Array.size_replicate]; omega),
      Array.size_replicate, Array.getElem?_extract, Nat.zero_add, if_pos (by omega)]

theorem isLit_scrollDown (formed : screen.WellFormed) (inside : px < screen.width)
    (above : py < screen.height) :
    (screen.scrollDown rows).isLit px py =
      (decide (rows ≤ py) && screen.isLit px (py - rows)) := by
  have found := @getElem?_scrollDown _ rows _ (formed.position_lt_size inside above)
  by_cases old : rows ≤ py
  · have place : screen.position px py = rows * screen.width + screen.position px (py - rows) := by
      rw [position, position, ← Nat.add_assoc, ← Nat.add_mul, Nat.add_sub_cancel' old]
    rw [place, if_neg (by omega), Nat.add_sub_cancel_left, ← place] at found
    rw [decide_eq_true old, Bool.true_and, isLit_eq, isLit_eq, ← found]
    rfl
  · have freed : screen.position px py < rows * screen.width := by
      have next : (py + 1) * screen.width ≤ rows * screen.width :=
        Nat.mul_le_mul_right screen.width (Nat.lt_of_not_le old)
      rw [Nat.succ_mul] at next
      unfold position
      omega
    rw [if_pos freed] at found
    rw [decide_eq_false old, Bool.false_and]
    exact isLit_of_cell found

/-- What one scroll shows at a position was lit where the scroll came from. -/
theorem isLit_scroll_iff (formed : screen.WellFormed) (scroll : Scroll) (inside : px < screen.width)
    (above : py < screen.height) :
    (screen.scroll scroll).isLit px py = true ↔
      ∃ qx qy, (qx < screen.width ∧ qy < screen.height) ∧ screen.isLit qx qy = true ∧
        (Spot.ofPosition qx qy).move scroll = Spot.ofPosition px py := by
  cases scroll with
  | left =>
      rw [scroll, isLit_scrollLeft formed inside above, Bool.and_eq_true, decide_eq_true_eq]
      simp only [Spot.move_left_iff]
      constructor
      · rintro ⟨stays, lit⟩
        exact ⟨px + sidewaysStep, py, ⟨stays, above⟩, lit, rfl, rfl⟩
      · rintro ⟨qx, qy, ⟨stays, -⟩, lit, rfl, rfl⟩
        exact ⟨stays, lit⟩
  | right =>
      rw [scroll, isLit_scrollRight formed inside above, Bool.and_eq_true, decide_eq_true_eq]
      simp only [Spot.move_right_iff]
      constructor
      · rintro ⟨old, lit⟩
        have start : px - sidewaysStep < screen.width := Nat.lt_of_le_of_lt (Nat.sub_le _ _) inside
        exact ⟨px - sidewaysStep, py, ⟨start, above⟩, lit, Nat.sub_add_cancel old, rfl⟩
      · rintro ⟨qx, qy, -, lit, rfl, rfl⟩
        exact ⟨Nat.le_add_left sidewaysStep qx, lit⟩
  | down rows =>
      rw [scroll, isLit_scrollDown formed inside above, Bool.and_eq_true, decide_eq_true_eq]
      simp only [Spot.move_down_iff]
      constructor
      · rintro ⟨old, lit⟩
        have start : py - rows < screen.height := Nat.lt_of_le_of_lt (Nat.sub_le _ _) above
        exact ⟨px, py - rows, ⟨inside, start⟩, lit, rfl, Nat.sub_add_cancel old⟩
      · rintro ⟨qx, qy, -, lit, rfl, rfl⟩
        rw [Nat.add_sub_cancel]
        exact ⟨Nat.le_add_left rows qy, lit⟩

/-! ## One scroll after another -/

theorem mode_scroll (screen : Screen) (scroll : Scroll) :
    (screen.scroll scroll).mode = screen.mode := by
  cases scroll <;> rfl

theorem mode_scrolled (screen : Screen) (scrolls : List Scroll) :
    (screen.scrolled scrolls).mode = screen.mode := by
  induction scrolls generalizing screen with
  | nil => rfl
  | cons scroll rest ih => exact (ih (screen.scroll scroll)).trans (mode_scroll screen scroll)

theorem width_scrolled (screen : Screen) (scrolls : List Scroll) :
    (screen.scrolled scrolls).width = screen.width :=
  congrArg Mode.width (mode_scrolled screen scrolls)

theorem height_scrolled (screen : Screen) (scrolls : List Scroll) :
    (screen.scrolled scrolls).height = screen.height :=
  congrArg Mode.height (mode_scrolled screen scrolls)

theorem scroll_wellFormed (formed : screen.WellFormed) (scroll : Scroll) :
    (screen.scroll scroll).WellFormed := by
  cases scroll with
  | left => exact scrollLeft_wellFormed formed
  | right => exact scrollRight_wellFormed formed
  | down rows => exact scrollDown_wellFormed formed rows

theorem scrolled_wellFormed (formed : screen.WellFormed) (scrolls : List Scroll) :
    (screen.scrolled scrolls).WellFormed := by
  induction scrolls generalizing screen with
  | nil => exact formed
  | cons scroll rest ih => exact ih (scroll_wellFormed formed scroll)

/-- A position is lit after some scrolls if a path that never leaves the screen leads to it from
a position that was lit before. -/
theorem isLit_scrolled_iff (formed : screen.WellFormed) (scrolls : List Scroll)
    (inside : px < screen.width) (above : py < screen.height) :
    (screen.scrolled scrolls).isLit px py = true ↔
      ∃ qx qy, (qx < screen.width ∧ qy < screen.height) ∧ screen.isLit qx qy = true ∧
        (Spot.ofPosition qx qy).Reaches screen.mode scrolls (Spot.ofPosition px py) := by
  induction scrolls generalizing screen with
  | nil =>
      constructor
      · intro lit
        have onScreen := Spot.onScreen_ofPosition inside above
        exact ⟨px, py, ⟨inside, above⟩, lit, Spot.reaches_nil_iff.mpr ⟨rfl, onScreen⟩⟩
      · rintro ⟨qx, qy, -, lit, reaches⟩
        obtain ⟨same, -⟩ := Spot.reaches_nil_iff.mp reaches
        obtain ⟨rfl, rfl⟩ := Spot.ofPosition_inj same
        exact lit
  | cons scroll rest ih =>
      have mode := mode_scroll screen scroll
      have width : (screen.scroll scroll).width = screen.width := congrArg Mode.width mode
      have height : (screen.scroll scroll).height = screen.height := congrArg Mode.height mode
      have later := ih (scroll_wellFormed formed scroll) (width ▸ inside) (height ▸ above)
      rw [width, height, mode] at later
      refine Iff.trans later ?_
      constructor
      · rintro ⟨rx, ry, ⟨inside', above'⟩, lit, reaches⟩
        obtain ⟨qx, qy, within, lit, moved⟩ :=
          (isLit_scroll_iff formed scroll inside' above').mp lit
        refine ⟨qx, qy, within, lit, Spot.reaches_cons_iff.mpr ?_⟩
        exact ⟨Spot.onScreen_ofPosition within.1 within.2, moved ▸ reaches⟩
      · rintro ⟨qx, qy, within, lit, reaches⟩
        obtain ⟨-, reaches⟩ := Spot.reaches_cons_iff.mp reaches
        obtain ⟨rx, ry, within', moved⟩ := reaches.onScreen.exists_position
        refine ⟨rx, ry, within', ?_, moved ▸ reaches⟩
        exact (isLit_scroll_iff formed scroll within'.1 within'.2).mpr ⟨qx, qy, within, lit, moved⟩

/-! ## Round trips and other orders -/

theorem scrolled_append (screen : Screen) (first second : List Scroll) :
    screen.scrolled (first ++ second) = (screen.scrolled first).scrolled second :=
  List.foldl_append

theorem isLit_rights (formed : screen.WellFormed) (count : Nat) (inside : px < screen.width)
    (above : py < screen.height) :
    (screen.scrolled (List.replicate count .right)).isLit px py =
      (decide (4 * count ≤ px) && screen.isLit (px - 4 * count) py) := by
  induction count generalizing screen with
  | zero => exact (Bool.true_and _).symm
  | succ count ih =>
      have later : (screen.scrollRight.scrolled (List.replicate count .right)).isLit px py =
          (decide (4 * count ≤ px) && screen.scrollRight.isLit (px - 4 * count) py) :=
        ih (scrollRight_wellFormed formed) inside above
      have first : screen.scrollRight.isLit (px - 4 * count) py =
          (decide (4 ≤ px - 4 * count) && screen.isLit (px - 4 * count - 4) py) :=
        isLit_scrollRight formed (Nat.lt_of_le_of_lt (Nat.sub_le _ _) inside) above
      have both : (decide (4 * count ≤ px) && decide (4 ≤ px - 4 * count)) =
          decide (4 * (count + 1) ≤ px) := by
        rw [← Bool.decide_and]
        exact decide_eq_decide.mpr (by omega)
      rw [List.replicate_succ]
      refine later.trans ?_
      rw [first, ← Bool.and_assoc, both, Nat.sub_sub]
      rfl

theorem isLit_lefts (formed : screen.WellFormed) (count : Nat) (inside : px < screen.width)
    (above : py < screen.height) :
    (screen.scrolled (List.replicate count .left)).isLit px py =
      (decide (px + 4 * count < screen.width) && screen.isLit (px + 4 * count) py) := by
  induction count generalizing screen with
  | zero =>
      rw [Nat.mul_zero, Nat.add_zero, decide_eq_true inside]
      exact (Bool.true_and _).symm
  | succ count ih =>
      have later : (screen.scrollLeft.scrolled (List.replicate count .left)).isLit px py =
          (decide (px + 4 * count < screen.width) &&
            screen.scrollLeft.isLit (px + 4 * count) py) :=
        ih (scrollLeft_wellFormed formed) inside above
      rw [List.replicate_succ]
      refine later.trans ?_
      by_cases reached : px + 4 * count < screen.width
      · have first : screen.scrollLeft.isLit (px + 4 * count) py =
            (decide (px + 4 * count + 4 < screen.width) &&
              screen.isLit (px + 4 * count + 4) py) :=
          isLit_scrollLeft formed reached above
        rw [first, decide_eq_true reached, Bool.true_and]
        rfl
      · rw [decide_eq_false reached, decide_eq_false (by omega)]
        rfl

theorem isLit_rights_lefts (formed : screen.WellFormed) (count : Nat) (inside : px < screen.width)
    (above : py < screen.height) :
    (screen.scrolled (List.replicate count .right ++ List.replicate count .left)).isLit px py =
      (decide (px + 4 * count < screen.width) && screen.isLit px py) := by
  rw [scrolled_append, isLit_lefts (scrolled_wellFormed formed _) count
    (by rwa [width_scrolled]) (by rwa [height_scrolled]), width_scrolled]
  by_cases kept : px + 4 * count < screen.width
  · rw [isLit_rights formed count kept above, decide_eq_true (Nat.le_add_left _ _), Bool.true_and,
      Nat.add_sub_cancel]
  · rw [decide_eq_false kept, Bool.false_and, Bool.false_and]

theorem isLit_lefts_rights (formed : screen.WellFormed) (count : Nat) (inside : px < screen.width)
    (above : py < screen.height) :
    (screen.scrolled (List.replicate count .left ++ List.replicate count .right)).isLit px py =
      (decide (4 * count ≤ px) && screen.isLit px py) := by
  rw [scrolled_append, isLit_rights (scrolled_wellFormed formed _) count
    (by rwa [width_scrolled]) (by rwa [height_scrolled])]
  by_cases kept : 4 * count ≤ px
  · rw [isLit_lefts formed count (Nat.lt_of_le_of_lt (Nat.sub_le _ _) inside) above,
      Nat.sub_add_cancel kept, decide_eq_true inside, Bool.true_and]
  · rw [decide_eq_false kept, Bool.false_and, Bool.false_and]

theorem scrolled_congr (formed : screen.WellFormed) {other : List Scroll}
    (same : ∀ px py, px < screen.width → py < screen.height →
      (screen.scrolled other).isLit px py = (screen.scrolled scrolls).isLit px py) :
    screen.scrolled other = screen.scrolled scrolls := by
  apply (scrolled_wellFormed formed scrolls).eq_of_isLit (scrolled_wellFormed formed other)
    ((mode_scrolled screen other).trans (mode_scrolled screen scrolls).symm)
  intro px py inside above
  rw [width_scrolled] at inside
  rw [height_scrolled] at above
  exact same px py inside above

theorem scrolled_down_down (formed : screen.WellFormed) (first second : Nat) :
    screen.scrolled [.down first, .down second] = screen.scrolled [.down (first + second)] := by
  apply scrolled_congr formed
  intro px py inside above
  have start : py - second < screen.height := Nat.lt_of_le_of_lt (Nat.sub_le _ _) above
  have both : (decide (second ≤ py) && decide (first ≤ py - second)) =
      decide (first + second ≤ py) := by
    rw [← Bool.decide_and]
    exact decide_eq_decide.mpr (by omega)
  change ((screen.scrollDown first).scrollDown second).isLit px py =
    (screen.scrollDown (first + second)).isLit px py
  rw [isLit_scrollDown (scrollDown_wellFormed formed first) inside above,
    isLit_scrollDown formed inside start, isLit_scrollDown formed inside above, ← Bool.and_assoc,
    both, Nat.sub_sub, Nat.add_comm second]

theorem scrolled_down_right (formed : screen.WellFormed) (rows : Nat) :
    screen.scrolled [.down rows, .right] = screen.scrolled [.right, .down rows] := by
  apply scrolled_congr formed
  intro px py inside above
  change (screen.scrollDown rows).scrollRight.isLit px py =
    (screen.scrollRight.scrollDown rows).isLit px py
  rw [isLit_scrollRight (scrollDown_wellFormed formed rows) inside above,
    isLit_scrollDown (scrollRight_wellFormed formed) inside above,
    isLit_scrollDown formed (Nat.lt_of_le_of_lt (Nat.sub_le _ _) inside) above,
    isLit_scrollRight formed inside (Nat.lt_of_le_of_lt (Nat.sub_le _ _) above), Bool.and_left_comm]

theorem scrolled_down_left (formed : screen.WellFormed) (rows : Nat) :
    screen.scrolled [.down rows, .left] = screen.scrolled [.left, .down rows] := by
  apply scrolled_congr formed
  intro px py inside above
  change (screen.scrollDown rows).scrollLeft.isLit px py =
    (screen.scrollLeft.scrollDown rows).isLit px py
  rw [isLit_scrollLeft (scrollDown_wellFormed formed rows) inside above,
    isLit_scrollDown (scrollLeft_wellFormed formed) inside above,
    isLit_scrollLeft formed inside (Nat.lt_of_le_of_lt (Nat.sub_le _ _) above)]
  by_cases kept : px + sidewaysStep < screen.width
  · rw [isLit_scrollDown formed kept above, Bool.and_left_comm]
    rfl
  · have gone : (screen.scrollDown rows).width = screen.width := rfl
    rw [gone, decide_eq_false kept, Bool.false_and, Bool.false_and, Bool.and_false]

theorem isLit_blank (mode : Mode) (px py : Nat) : (blank mode).isLit px py = false := by
  rw [isLit_eq]
  cases found : (blank mode).cells[(blank mode).position px py]? with
  | none => rfl
  | some cell =>
      have dark : cell = 0 := Array.eq_of_mem_replicate (Array.mem_of_getElem? found)
      rw [dark]
      rfl

theorem scrolled_down_of_height_le (formed : screen.WellFormed) (past : screen.height ≤ rows) :
    screen.scrolled [.down rows] = blank screen.mode := by
  apply (blank_wellFormed screen.mode).eq_of_isLit (scrollDown_wellFormed formed rows) rfl
  intro px py inside above
  have gone : ¬ rows ≤ py := Nat.not_le_of_lt (Nat.lt_of_lt_of_le above past)
  rw [isLit_scrollDown formed inside above, isLit_blank, decide_eq_false gone, Bool.false_and]

/-! ## What scrolling comes to -/

theorem scroll?_eq (formed : screen.WellFormed) {scroll : Scroll} (fits : scroll.Fits screen.width) :
    screen.scroll? scroll = some (screen.scroll scroll) := by
  cases scroll with
  | left => exact scrollLeft?_eq formed
  | right => exact scrollRight?_eq formed
  | down rows => exact (bind_of_passes (wide?_of_lt fits)).trans (scrollDown?_eq screen rows)

/-- With each access checked, one scroll after another comes to an end. -/
theorem foldlM_scroll?_eq (formed : screen.WellFormed)
    (fits : ∀ scroll ∈ scrolls, scroll.Fits screen.width) :
    scrolls.foldlM scroll? screen = some (screen.scrolled scrolls) := by
  apply foldlM_eq_some (fun other => other.WellFormed ∧ other.mode = screen.mode) ⟨formed, rfl⟩
  rintro other ⟨formed, mode⟩ scroll mem
  have width : other.width = screen.width := congrArg Mode.width mode
  exact ⟨scroll?_eq formed (width ▸ fits scroll mem), scroll_wellFormed formed scroll,
    (mode_scroll other scroll).trans mode⟩

/-- What scrolling comes to. -/
structure ScrollsAlongPaths (screen : Screen) : Prop where
  /-- With each access checked, scrolling comes to an end. -/
  completes : ∀ scrolls : List Scroll, (∀ scroll ∈ scrolls, scroll.Fits screen.width) →
    scrolls.foldlM scroll? screen = some (screen.scrolled scrolls)
  formed : ∀ scrolls, (screen.scrolled scrolls).WellFormed
  mode : ∀ scrolls, (screen.scrolled scrolls).mode = screen.mode
  /-- What is lit came along a path that has never left the screen, by scrolls of any number of
  rows. -/
  paths : ∀ scrolls px py, px < screen.width → py < screen.height →
    ((screen.scrolled scrolls).isLit px py = true ↔
      ∃ qx qy, (qx < screen.width ∧ qy < screen.height) ∧ screen.isLit qx qy = true ∧
        (Spot.ofPosition qx qy).Reaches screen.mode scrolls (Spot.ofPosition px py))
  /-- All scrolls to the right come first and as many to the left after them, not in turns. -/
  rights_lefts : ∀ count px py, px < screen.width → py < screen.height →
    (screen.scrolled (List.replicate count .right ++ List.replicate count .left)).isLit px py =
      (decide (px + 4 * count < screen.width) && screen.isLit px py)
  /-- The other way round: all scrolls to the left come first. -/
  lefts_rights : ∀ count px py, px < screen.width → py < screen.height →
    (screen.scrolled (List.replicate count .left ++ List.replicate count .right)).isLit px py =
      (decide (4 * count ≤ px) && screen.isLit px py)
  /-- Rows are added up as natural numbers, also where 64 bits cannot hold their cells. -/
  down_down : ∀ first second,
    screen.scrolled [.down first, .down second] = screen.scrolled [.down (first + second)]
  past : ∀ rows, screen.height ≤ rows → screen.scrolled [.down rows] = blank screen.mode
  down_right : ∀ rows,
    screen.scrolled [.down rows, .right] = screen.scrolled [.right, .down rows]
  down_left : ∀ rows, screen.scrolled [.down rows, .left] = screen.scrolled [.left, .down rows]

/-- Scrolling moves each position along its path and drops it where the path leaves the screen. -/
theorem scrolls_along_paths (formed : screen.WellFormed) : screen.ScrollsAlongPaths where
  completes := by
    intro scrolls fits
    exact foldlM_scroll?_eq formed fits
  formed := scrolled_wellFormed formed
  mode := mode_scrolled screen
  paths := by
    intro scrolls px py inside above
    exact isLit_scrolled_iff formed scrolls inside above
  rights_lefts := by
    intro count px py inside above
    exact isLit_rights_lefts formed count inside above
  lefts_rights := by
    intro count px py inside above
    exact isLit_lefts_rights formed count inside above
  down_down := scrolled_down_down formed
  past := by
    intro rows past
    exact scrolled_down_of_height_le formed past
  down_right := scrolled_down_right formed
  down_left := scrolled_down_left formed

/-- A picture that reaches up to the last column and the last row of the screen. -/
theorem scrolls_along_paths_edge :
    let screen := ((blank .low).draw 56 30 ⟨8, [0xFF, 0x81]⟩).1
    screen.WellFormed ∧ screen.isLit 63 31 = true ∧ screen.ScrollsAlongPaths := by
  intro screen
  have formed : screen.WellFormed := draw_wellFormed (blank_wellFormed .low) _ _ _
  have lit : screen.isLit 63 31 = true := by
    rw [isLit_draw (blank_wellFormed .low) (by decide) (by decide), isLit_blank]
    decide
  exact ⟨formed, lit, scrolls_along_paths formed⟩

end Screen

end Chip8
