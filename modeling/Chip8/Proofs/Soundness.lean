import Chip8.Machine.History
import Chip8.Proofs.Hindrance
import Chip8.Proofs.Keys

/-!
# Machines stay sound

Only a few instructions repaint the screen, and none touches the keypad. So on
every machine that some history leads to, the screen is well formed and the
keypad has counted its keys.
-/

namespace Chip8.Machine

variable {machine : Machine}

/-- The screen that an instruction leaves behind if nothing hinders it. -/
def repainted (machine : Machine) : Instruction → Screen
  | .clear => machine.screen.clear
  | .scrollDown rows => machine.screen.scrollDown rows.toNat
  | .scrollRight => machine.screen.scrollRight
  | .scrollLeft => machine.screen.scrollLeft
  | .selectMode mode => Screen.blank mode
  | .draw x y height => (machine.drawn x y height).1
  | _ => machine.screen

/-- A machine that shows a screen and has its old keypad. -/
structure Shows (before : Machine) (screen : Screen) (after : Machine) : Prop where
  screen : after.screen = screen
  keypad : after.keypad = before.keypad

theorem shows_skipWhen (machine : Machine) (condition : Bool) :
    machine.Shows machine.screen (machine.skipWhen condition) := by
  cases condition <;> exact ⟨rfl, rfl⟩

theorem shows_awaitKey (machine : Machine) (x : Register) :
    machine.Shows machine.screen (machine.awaitKey x) := by
  unfold awaitKey
  cases machine.keypad.awaited? <;> exact ⟨rfl, rfl⟩

theorem shows_increaseIndex (machine : Machine) (x : Register) :
    machine.Shows machine.screen (machine.increaseIndex x) := by
  unfold increaseIndex
  dsimp only
  split <;> exact ⟨rfl, rfl⟩

theorem shows_effect (machine : Machine) (instruction : Instruction) :
    machine.Shows (machine.repainted instruction) (machine.effect instruction) := by
  cases instruction with
  | skipIfByte x value => exact shows_skipWhen machine _
  | skipUnlessByte x value => exact shows_skipWhen machine _
  | skipIfSame x y => exact shows_skipWhen machine _
  | skipUnlessSame x y => exact shows_skipWhen machine _
  | skipIfDown x => exact shows_skipWhen machine _
  | skipUnlessDown x => exact shows_skipWhen machine _
  | awaitKey x => exact shows_awaitKey machine x
  | increaseIndex x => exact shows_increaseIndex machine x
  | combine operation x y => cases operation <;> exact ⟨rfl, rfl⟩
  | loadRegisters last =>
      rw [effect_loadRegisters]
      exact ⟨rfl, rfl⟩
  | _ => exact ⟨rfl, rfl⟩

theorem repainted_wellFormed (formed : machine.screen.WellFormed) (instruction : Instruction) :
    (machine.repainted instruction).WellFormed := by
  cases instruction with
  | clear => exact Screen.clear_wellFormed formed
  | scrollDown rows => exact Screen.scrollDown_wellFormed formed _
  | scrollRight => exact Screen.scrollRight_wellFormed formed
  | scrollLeft => exact Screen.scrollLeft_wellFormed formed
  | selectMode mode => exact Screen.blank_wellFormed mode
  | draw x y height => exact Screen.draw_wellFormed formed _ _ _
  | _ => exact formed

/-! ## Soundness -/

structure Sound (machine : Machine) : Prop where
  screen : machine.screen.WellFormed
  keypad : machine.keypad.Counted

theorem execute_sound (sound : machine.Sound) (instruction : Instruction) :
    (machine.execute instruction).machine.Sound := by
  cases hindered : machine.hindrance? instruction with
  | none =>
      have shows := machine.shows_effect instruction
      rw [execute_of_clear hindered]
      exact ⟨shows.screen ▸ repainted_wellFormed sound.screen instruction,
        shows.keypad ▸ sound.keypad⟩
  | some fault =>
      rw [execute_of_hindrance hindered]
      exact sound

theorem advance_sound (sound : machine.Sound) : machine.advance.Sound :=
  ⟨sound.screen, sound.keypad⟩

theorem step_sound (sound : machine.Sound) : machine.step.machine.Sound := by
  unfold step
  split
  · exact sound
  · split
    · exact advance_sound sound
    · exact execute_sound (advance_sound sound) _

theorem perform_sound (sound : machine.Sound) (action : Action) :
    (machine.perform action).Sound := by
  cases action with
  | step => exact step_sound sound
  | tick => exact ⟨sound.screen, sound.keypad⟩
  | press key => exact ⟨sound.screen, sound.keypad.press key⟩
  | release key => exact ⟨sound.screen, sound.keypad.release key⟩
  | load rom =>
      obtain ⟨memory, same⟩ := machine.perform_load rom
      rw [same]
      exact ⟨sound.screen, sound.keypad⟩

theorem boot_sound {random : RandomSource} {rom : Rom} (booted : boot random rom = .ok machine) :
    machine.Sound := by
  obtain rfl := eq_of_boot booted
  exact ⟨Screen.blank_wellFormed .low, Keypad.blank_counted⟩

/-- Every machine that some history leads to is sound. -/
theorem Reachable.sound (reachable : machine.Reachable) : machine.Sound := by
  induction reachable with
  | boot booted => exact boot_sound booted
  | perform action _ ih => exact perform_sound ih action

end Chip8.Machine
