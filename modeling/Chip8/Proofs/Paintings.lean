import Chip8.Screen.Picture
import Chip8.Proofs.Control
import Chip8.Proofs.Footprint
import Chip8.Proofs.Soundness

/-!
# What the screen shows after all that was painted

A screen is switched, cleared, scrolled and drawn on, and nothing else happens
to it. After any of that it is in the mode selected last, has a cell for each
position of that mode, and its picture shows these cells.
-/

namespace Chip8

/-- What can be done to a screen. -/
inductive Painting where
  | select (mode : Mode)
  | clear
  /-- By any number of rows, whether or not 64 bits can hold the number of their cells. -/
  | scrollDown (rows : Nat)
  | scrollRight
  | scrollLeft
  | draw (x y : Byte) (sprite : Sprite)
deriving DecidableEq, Repr

namespace Painting

def mode? : Painting → Option Mode
  | .select mode => some mode
  | _ => none

/-- The mode that was selected last, or the first one if none was. -/
def selected (first : Mode) (paintings : List Painting) : Mode :=
  (paintings.filterMap mode?).getLast?.getD first

theorem selected_cons (first : Mode) (painting : Painting) (paintings : List Painting) :
    selected first (painting :: paintings) = selected (painting.mode?.getD first) paintings := by
  unfold selected
  cases switched : painting.mode? with
  | none => rw [List.filterMap_cons_none switched, Option.getD_none]
  | some mode =>
      rw [List.filterMap_cons_some switched, List.getLast?_cons, Option.getD_some, Option.getD_some]

end Painting

namespace Screen

variable {screen : Screen} {mode : Mode}

def paint (screen : Screen) : Painting → Screen
  | .select mode => blank mode
  | .clear => screen.clear
  | .scrollDown rows => screen.scrollDown rows
  | .scrollRight => screen.scrollRight
  | .scrollLeft => screen.scrollLeft
  | .draw x y sprite => (screen.draw x y sprite).1

def painted (screen : Screen) (paintings : List Painting) : Screen := paintings.foldl paint screen

theorem paint_wellFormed (formed : screen.WellFormed) (painting : Painting) :
    (screen.paint painting).WellFormed := by
  cases painting with
  | select mode => exact blank_wellFormed mode
  | clear => exact clear_wellFormed formed
  | scrollDown rows => exact scrollDown_wellFormed formed rows
  | scrollRight => exact scrollRight_wellFormed formed
  | scrollLeft => exact scrollLeft_wellFormed formed
  | draw x y sprite => exact draw_wellFormed formed x y sprite

theorem painted_wellFormed (formed : screen.WellFormed) (paintings : List Painting) :
    (screen.painted paintings).WellFormed := by
  induction paintings generalizing screen with
  | nil => exact formed
  | cons painting rest ih => exact ih (paint_wellFormed formed painting)

theorem mode_paint (screen : Screen) (painting : Painting) :
    (screen.paint painting).mode = painting.mode?.getD screen.mode := by
  cases painting <;> rfl

theorem mode_painted (screen : Screen) (paintings : List Painting) :
    (screen.painted paintings).mode = Painting.selected screen.mode paintings := by
  induction paintings generalizing screen with
  | nil => rfl
  | cons painting rest ih =>
      rw [Painting.selected_cons, ← mode_paint]
      exact ih _

/-! ## The screen and its picture -/

/-- A screen is in a mode, and its picture shows what its cells hold. -/
structure ConsistentIn (screen : Screen) (mode : Mode) : Prop where
  current : screen.mode = mode
  size_cells : screen.cells.size = mode.width * mode.height
  binary : ∀ cell ∈ screen.cells, cell = 0 ∨ cell = 1
  width : screen.picture.width = mode.width
  height : screen.picture.height = mode.height
  size_pixels : screen.picture.pixels.size = mode.width * mode.height
  pixels : ∀ pixel ∈ screen.picture.pixels, pixel = 0 ∨ pixel = 0xFFFFFFFF
  /-- Every position of the mode has a cell and a pixel, and they agree. -/
  lookup : ∀ x y, x < mode.width → y < mode.height →
    ∃ lit, screen.cell? x y = some lit ∧ screen.picture.isLit? x y = some lit

/-- No cell is lit, and the picture has no lit pixel. -/
structure Dark (screen : Screen) : Prop where
  cells : screen.litCount = 0
  pixels : ∀ pixel ∈ screen.picture.pixels, pixel = Picture.darkPixel

theorem picture_isLit? (screen : Screen) (x y : Nat) :
    screen.picture.isLit? x y = screen.cell? x y := by
  have pixel_ne (cell : Byte) :
      ((if cell = 0 then Picture.darkPixel else Picture.litPixel) != Picture.darkPixel) =
        (cell != 0) := by
    by_cases dark : cell = 0
    · rw [if_pos dark, dark]
      rfl
    · rw [if_neg dark, bne_iff_ne.mpr dark]
      rfl
  rw [Picture.isLit?, cell?]
  change (screen.cells.map _)[screen.position x y]?.map _ = _
  rw [Array.getElem?_map, Option.map_map]
  exact congrArg (fun lit => screen.cells[screen.position x y]?.map lit) (funext pixel_ne)

theorem WellFormed.consistentIn (formed : screen.WellFormed) :
    screen.ConsistentIn screen.mode where
  current := rfl
  size_cells := formed.size_cells
  binary := formed.binary
  width := rfl
  height := rfl
  size_pixels := (Array.size_map ..).trans formed.size_cells
  pixels := by
    intro pixel mem
    obtain ⟨cell, -, rfl⟩ := Array.mem_map.mp mem
    split
    · exact .inl rfl
    · exact .inr rfl
  lookup := by
    intro x y inside above
    have bound : screen.position x y < screen.cells.size := formed.position_lt_size inside above
    rw [picture_isLit?, cell?, Array.getElem?_eq_getElem bound]
    exact ⟨_, rfl, rfl⟩

theorem painted_consistentIn (formed : screen.WellFormed) (paintings : List Painting) :
    (screen.painted paintings).ConsistentIn (Painting.selected screen.mode paintings) :=
  mode_painted screen paintings ▸ (painted_wellFormed formed paintings).consistentIn

theorem blank_dark (mode : Mode) : (blank mode).Dark where
  cells := by
    apply Array.countP_eq_zero.mpr
    intro cell mem
    rw [Array.eq_of_mem_replicate mem]
    decide
  pixels := by
    intro pixel mem
    obtain ⟨cell, old, rfl⟩ := Array.mem_map.mp mem
    exact if_pos (Array.eq_of_mem_replicate old)

end Screen

namespace Machine

variable {start machine : Machine} {action : Action} {actions : List Action} {mode : Mode}

/-- What an instruction does to the screen, if anything. -/
def paintingOf? (machine : Machine) : Instruction → Option Painting
  | .clear => some .clear
  | .scrollDown rows => some (.scrollDown rows.toNat)
  | .scrollRight => some .scrollRight
  | .scrollLeft => some .scrollLeft
  | .selectMode mode => some (.select mode)
  | .draw x y height =>
      some (.draw (machine.value x) (machine.value y) (machine.shownSprite y height))
  | _ => none

/-- What an action does to the screen: only a step that succeeds can do something. -/
def painting? (machine : Machine) : Action → Option Painting
  | .step => match machine.step.fault? with
      | none => machine.pending?.bind machine.paintingOf?
      | some _ => none
  | _ => none

/-- All that is done to the screen in the course of a history. -/
def paintings : Machine → List Action → List Painting
  | _, [] => []
  | machine, action :: rest =>
      (machine.painting? action).toList ++ paintings (machine.perform action) rest

theorem repainted_eq (machine : Machine) (instruction : Instruction) :
    machine.repainted instruction =
      machine.screen.painted (machine.paintingOf? instruction).toList := by
  cases instruction <;> rfl

theorem Carries.painting? {instruction : Instruction} (carries : machine.Carries instruction) :
    machine.painting? .step = machine.paintingOf? instruction := by
  obtain ⟨pending, done⟩ := carries_iff.mp carries
  rw [Machine.painting?, done, pending]
  rfl

theorem step_screen (machine : Machine) :
    machine.step.machine.screen = machine.screen.painted (machine.painting? .step).toList := by
  cases failed : machine.step.fault? with
  | some fault =>
      rw [part_of_fault failed Machine.screen rfl, painting?, failed]
      rfl
  | none =>
      obtain ⟨instruction, carries⟩ := exists_carries failed
      rw [carries.machine_eq, carries.painting?]
      exact (machine.advance.shows_effect instruction).screen.trans (repainted_eq _ _)

theorem perform_screen (machine : Machine) (action : Action) :
    (machine.perform action).screen =
      machine.screen.painted (machine.painting? action).toList := by
  cases action with
  | step => exact step_screen machine
  | load rom =>
      obtain ⟨memory, same⟩ := machine.perform_load rom
      rw [same]
      rfl
  | _ => rfl

/-- The screen holds what was painted on it, in order. -/
theorem run_screen (machine : Machine) (actions : List Action) :
    (machine.run actions).screen = machine.screen.painted (machine.paintings actions) := by
  induction actions generalizing machine with
  | nil => rfl
  | cons action rest ih =>
      change ((machine.perform action).run rest).screen = _
      rw [ih, perform_screen, paintings, Screen.painted, Screen.painted, Screen.painted,
        List.foldl_append]

/-- The mode is selected by the steps that carry a switch out, and by nothing else. -/
theorem painting?_eq_select_iff :
    machine.painting? action = some (.select mode) ↔
      action = .step ∧ machine.Carries (.selectMode mode) := by
  constructor
  · intro painting
    cases action with
    | step =>
        cases failed : machine.step.fault? with
        | some fault =>
            rw [painting?, failed] at painting
            cases painting
        | none =>
            obtain ⟨instruction, carries⟩ := exists_carries failed
            rw [carries.painting?] at painting
            cases instruction with
            | selectMode other =>
                obtain rfl := Painting.select.inj (Option.some.inj painting)
                exact ⟨rfl, carries⟩
            | _ => cases painting
    | _ => cases painting
  · rintro ⟨rfl, carries⟩
    exact carries.painting?

theorem screen_of_selectMode (pending : machine.pending? = some (.selectMode mode)) :
    machine.step.fault? = none ∧ machine.step.machine.screen = Screen.blank mode := by
  have carries := carries_of_pending pending rfl
  refine ⟨carries.done, ?_⟩
  rw [step_screen, carries.painting?]
  rfl

/-- Whatever has happened to a machine, its screen is in the mode selected last and its picture
shows the cells; and so it is for a screen on its own. A switch of the mode always succeeds and
leaves the screen dark. -/
theorem screen_consistent {random : RandomSource} {rom : Rom}
    (booted : boot random rom = .ok start) (actions : List Action) :
    (start.run actions).screen.ConsistentIn (Painting.selected .low (start.paintings actions)) ∧
      (∀ mode, (start.run actions).pending? = some (.selectMode mode) →
        (start.run actions).step.fault? = none ∧
          (start.run actions).step.machine.screen.mode = mode ∧
          (start.run actions).step.machine.screen.Dark) ∧
      ∀ first paintings,
        ((Screen.blank first).painted paintings).ConsistentIn
            (Painting.selected first paintings) ∧
          ∀ mode, (((Screen.blank first).painted paintings).paint (.select mode)).Dark := by
  have blank : start.screen = Screen.blank .low := by
    rw [eq_of_boot booted]
    rfl
  refine ⟨?_, ?_, ?_⟩
  · rw [run_screen, blank]
    exact Screen.painted_consistentIn (Screen.blank_wellFormed .low) _
  · intro mode pending
    obtain ⟨done, dark⟩ := screen_of_selectMode pending
    rw [dark]
    exact ⟨done, rfl, Screen.blank_dark mode⟩
  · intro first paintings
    exact ⟨Screen.painted_consistentIn (Screen.blank_wellFormed first) paintings, Screen.blank_dark⟩

/-- A program that switches to the high mode, and the screen once it has done so. -/
theorem screen_consistent_high :
    let start := { blank (.ofSeed 0) with
      memory := firmware.overlay loadAddress.toNat [0x00, 0xFF] }
    boot (.ofSeed 0) [0x00, 0xFF] = .ok start ∧
      Painting.selected .low (start.paintings [.step]) = .high ∧
      (start.run [.step]).screen.ConsistentIn
        (Painting.selected .low (start.paintings [.step])) := by
  intro start
  have booted : boot (.ofSeed 0) [0x00, 0xFF] = .ok start := rfl
  have pending : start.pending? = some (.selectMode .high) := pending?_of_boot booted
  have painting : start.painting? .step = some (.select .high) :=
    (carries_of_pending pending rfl).painting?
  refine ⟨booted, ?_, (screen_consistent booted [.step]).1⟩
  rw [paintings, painting]
  rfl

end Machine

end Chip8
