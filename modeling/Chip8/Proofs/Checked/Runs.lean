import Chip8.Proofs.Checked.Machine
import Chip8.Runner

/-!
# Runs in which every operation is checked

Steps, programs put in place and key events pass their checks on every sound
machine and leave a sound one behind. So every history from the start of a
program passes its checks to the end, and so does every run of a runner.
-/

namespace Chip8

open Checked

namespace Machine

variable {machine : Machine}

/-- The machine after an action with every operation checked. -/
def perform? (machine : Machine) : Action → Option Machine
  | .step => do
      let outcome ← machine.step?
      some outcome.machine
  | .tick => some machine.tick
  | .press key => do
      let keypad ← machine.keypad.press? key
      some { machine with keypad := keypad }
  | .release key => do
      let keypad ← machine.keypad.release? key
      some { machine with keypad := keypad }
  | .load rom => do
      let loaded ← machine.load? rom
      some loaded.machine

def run? (machine : Machine) (actions : List Action) : Option Machine :=
  actions.foldlM perform? machine

theorem perform?_eq (sound : machine.Sound) (action : Action) :
    machine.perform? action = some (machine.perform action) := by
  cases action with
  | step => exact bind_of_passes (step?_eq sound)
  | tick => rfl
  | press key => exact bind_of_passes (Keypad.press?_eq sound.keypad key)
  | release key => exact bind_of_passes (Keypad.release?_eq sound.keypad key)
  | load rom => exact bind_of_passes (load?_eq machine rom)

theorem run?_eq (sound : machine.Sound) (actions : List Action) :
    machine.run? actions = some (machine.run actions) :=
  foldlM_eq_some Sound sound fun _ sound action _ =>
    ⟨perform?_eq sound action, perform_sound sound action⟩

end Machine

namespace Runner

variable {runner : Runner}

/-- One turn of a runner whose machine steps with every operation checked. -/
def turn? (runner : Runner) (reading : Reading) : Option (Runner × Progress) :=
  if reading.stop then some (runner, .stopped)
  else do
    let outcome ← runner.machine.step?
    let stepped := { runner with machine := outcome.machine }
    some <| match outcome.fault? with
      | some fault => (stepped, .failed fault)
      | none => (stepped.count reading.elapsed, .running)

def run? : Runner → List Reading → Option (Runner × Progress)
  | runner, [] => some (runner, .running)
  | runner, reading :: rest => do
      let turned ← runner.turn? reading
      match turned with
      | (next, .running) => run? next rest
      | ended => some ended

theorem turn?_eq (sound : runner.machine.Sound) (reading : Reading) :
    runner.turn? reading = some (runner.turn reading) := by
  unfold turn? turn
  cases reading.stop with
  | true => rfl
  | false => exact bind_of_passes (Machine.step?_eq sound)

theorem machine_count (runner : Runner) (elapsed : Nanoseconds) :
    (runner.count elapsed).machine = runner.machine := by
  unfold count
  split <;> rfl

theorem turn_sound (sound : runner.machine.Sound) (reading : Reading) :
    (runner.turn reading).1.machine.Sound := by
  unfold turn
  cases reading.stop with
  | true => exact sound
  | false =>
      have stepped := Machine.step_sound sound
      cases outcome : runner.machine.step.fault? with
      | some fault => simpa [outcome] using stepped
      | none => simpa [outcome, machine_count] using stepped

theorem run?_eq (sound : runner.machine.Sound) (readings : List Reading) :
    runner.run? readings = some (runner.run readings) := by
  induction readings generalizing runner with
  | nil => rfl
  | cons reading rest ih =>
      have left := turn_sound sound reading
      rw [run?, bind_of_passes (turn?_eq sound reading), run]
      generalize runner.turn reading = turned at left ⊢
      obtain ⟨next, progress⟩ := turned
      cases progress with
      | running => exact ih left
      | stopped => rfl
      | failed fault => rfl

end Runner

namespace Machine

/-- Whatever is asked of the machine next, no check fails, and what is asked for is done. -/
structure PassesChecks (machine : Machine) : Prop where
  step : machine.step? = some machine.step
  load : ∀ rom, machine.load? rom = some (machine.load rom)
  press : ∀ key, machine.keypad.press? key = some (machine.keypad.press key)
  release : ∀ key, machine.keypad.release? key = some (machine.keypad.release key)
  run : ∀ (speed : UInt32) (readings : List Reading),
    (Runner.start machine speed).run? readings = some ((Runner.start machine speed).run readings)

theorem Sound.passesChecks {machine : Machine} (sound : machine.Sound) : machine.PassesChecks where
  step := step?_eq sound
  load := load?_eq machine
  press := Keypad.press?_eq sound.keypad
  release := Keypad.release?_eq sound.keypad
  run speed := @Runner.run?_eq (Runner.start machine speed) sound

/-- A program that fits starts a machine, whatever its random bytes are, and no history of that
machine, faults included, comes to an operation that goes wrong. -/
theorem start_passesChecks (random : RandomSource) (rom : Rom) (fits : rom.length ≤ 3584) :
    ∃ start, boot? random rom = some (.ok start) ∧ boot random rom = .ok start ∧
      ∀ actions, start.run? actions = some (start.run actions) ∧
        (start.run actions).PassesChecks := by
  have booted := boot_of_fits random fits
  refine ⟨_, (boot?_eq random rom).trans (congrArg some booted), booted, fun actions => ?_⟩
  have reachable := Reachable.boot booted
  exact ⟨run?_eq reachable.sound actions, (reachable.run actions).sound.passesChecks⟩

/-- A program that draws, with keys that exist and one that does not. -/
theorem start_passesChecks_drawing :
    ∃ start, boot (.ofSeed 8) [0xD0, 0x15] = .ok start ∧ ∃ after,
      start.run? [.press 0x0F, .press 0x0F, .press 0x20, .step, .step, .release 0x0F] =
        some after ∧ after.PassesChecks := by
  obtain ⟨start, -, booted, passes⟩ := start_passesChecks (.ofSeed 8) [0xD0, 0x15] (by decide)
  exact ⟨start, booted, _, passes _⟩

end Machine

end Chip8
