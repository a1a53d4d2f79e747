import Chip8.Proofs.Programs
import Chip8.Runner

/-!
# Past the end of memory

An opcode is two bytes, so none can be fetched from the last address on. A
machine whose program counter has got there fails in every step, always with the
same fault, and nothing else that happens to it moves the program counter. It
never comes back, not even with another program in place.
-/

namespace Chip8.Machine

variable {machine : Machine}

/-- The program counter has passed the last place in memory that has room for an opcode. -/
def RanOff (machine : Machine) : Prop := 0x0FFE < machine.programCounter.toNat

theorem not_fetches_iff : ¬ machine.Fetches ↔ machine.RanOff := by
  have size : Memory.size = 4096 := rfl
  unfold Fetches RanOff
  omega

namespace RanOff

theorem step (off : machine.RanOff) :
    machine.step = .failed machine (.outsideMemory (max machine.programCounter.toNat 0x1000)) :=
  step_of_not_fetches (not_fetches_iff.mpr off)

/-- An action reaches the memory, the keypad and the timers at most. -/
theorem perform (off : machine.RanOff) (action : Action) :
    ∃ memory keypad timers, machine.perform action =
      { machine with memory := memory, keypad := keypad, timers := timers } := by
  cases action with
  | step => exact ⟨_, _, _, congrArg Outcome.machine off.step⟩
  | load rom =>
      obtain ⟨memory, same⟩ := machine.perform_load rom
      exact ⟨memory, _, _, same⟩
  | _ => exact ⟨_, _, _, rfl⟩

theorem run (off : machine.RanOff) (actions : List Action) :
    ∃ memory keypad timers, machine.run actions =
      { machine with memory := memory, keypad := keypad, timers := timers } := by
  induction actions generalizing machine with
  | nil => exact ⟨_, _, _, rfl⟩
  | cons action rest ih =>
      obtain ⟨memory, keypad, timers, performed⟩ := off.perform action
      have still : (machine.perform action).RanOff := by
        rw [performed]
        exact off
      obtain ⟨memory', keypad', timers', ran⟩ := ih still
      refine ⟨memory', keypad', timers', ?_⟩
      rw [run_cons, ran, performed]

theorem counter_run (off : machine.RanOff) (actions : List Action) :
    (machine.run actions).programCounter = machine.programCounter := by
  obtain ⟨memory, keypad, timers, ran⟩ := off.run actions
  rw [ran]

theorem still_off (off : machine.RanOff) (actions : List Action) :
    (machine.run actions).RanOff := by
  rw [RanOff, off.counter_run]
  exact off

theorem runner_run (off : machine.RanOff) (speed : UInt32) (elapsed : Nanoseconds)
    (rest : List Reading) :
    (Runner.start machine speed).run (⟨false, elapsed⟩ :: rest) =
      (Runner.start machine speed,
        .failed (.outsideMemory (max machine.programCounter.toNat 0x1000))) := by
  have failed := congrArg Outcome.fault? off.step
  have same := congrArg Outcome.machine off.step
  rw [Runner.run_of_fault failed]
  change (Runner.start machine.step.machine speed, _) = _
  rw [same]
  rfl

end RanOff

/-- What becomes of a machine in a history all of whose steps fail with the same fault. -/
structure StaysOff (machine : Machine) (actions : List Action) (fault : Fault) : Prop where
  /-- A step of the history changes nothing at all. -/
  steps : ∀ n, actions[n]? = some .step →
    (machine.run (actions.take n)).step = .failed (machine.run (actions.take n)) fault
  /-- What is not a step reaches the memory, the keypad and the timers at most. -/
  frozen : ∃ memory keypad timers, machine.run actions =
    { machine with memory := memory, keypad := keypad, timers := timers }
  /-- A runner whose stop flag is down fails as soon as it takes its first step. -/
  runner : ∀ speed elapsed rest,
    (Runner.start (machine.run actions) speed).run (⟨false, elapsed⟩ :: rest) =
      (Runner.start (machine.run actions) speed, .failed fault)

/-- A machine that has run off the end of memory stays there for good; any other one finds an opcode
where its program counter is. -/
theorem off_memory_for_good (machine : Machine) :
    (machine.RanOff → ∀ actions, machine.StaysOff actions
      (.outsideMemory (max machine.programCounter.toNat 0x1000))) ∧
    (machine.programCounter.toNat ≤ 0x0FFE → ∃ opcode, machine.fetch = .ok opcode) := by
  constructor
  · intro off actions
    have counter := off.counter_run
    constructor
    case steps =>
      intro n _
      rw [(off.still_off _).step, counter]
    case frozen => exact off.run actions
    case runner =>
      intro speed elapsed rest
      rw [(off.still_off actions).runner_run, counter]
  · intro inside
    have fetches : machine.Fetches := by
      by_contra beyond
      exact absurd (not_fetches_iff.mp beyond) (Nat.not_lt.mpr inside)
    exact ⟨machine.opcode, fetch_of_fetches fetches⟩

/-- Jumps as far beyond the last address as a jump can lead. -/
def leapingProgram : Rom := [0x60, 0xFF, 0xBF, 0xFF]

theorem leaping_runs_off (stands : machine.StandsIn leapingProgram 0) :
    (machine.run [.step, .step]).programCounter = 0x10FE := by
  have sets : Instruction.decode 0x60FF = .ok (.set 0 0xFF) := rfl
  have jumps : Instruction.decode 0xBFFF = .ok (.jumpBeyond 0x0FFF) := rfl
  have first := stands.step (by decide) (by decide) sets
  have second : machine.step.machine.StandsIn leapingProgram 2 := by
    rw [first]
    exact stands.onward (by decide) rfl rfl
  have value : machine.step.machine.value firstRegister = 0xFF := by
    rw [first]
    exact value_setRegister_self _ _ _
  rw [run_cons, run_cons, perform_step, perform_step]
  generalize machine.step.machine = next at second value ⊢
  rw [second.step (by decide) (by decide) jumps]
  have target : (0x0FFF : Address) + (next.value firstRegister).toUInt16 = 0x10FE := by
    rw [value]
    decide
  exact target

/-- Off the end at the highest address of all, even when another program is put in place. -/
theorem off_memory_for_good_leap :
    let start := { blank (.ofSeed 0) with
      memory := firmware.overlay loadAddress.toNat leapingProgram }
    let machine := start.run [.step, .step]
    let actions := [.step, .load [0x12, 0x00], .tick, .step, .press 4, .step]
    Reachable machine ∧ machine.programCounter = 0x10FE ∧ machine.RanOff ∧
      machine.StaysOff actions (.outsideMemory 0x10FE) := by
  intro start machine actions
  have booted : boot (.ofSeed 0) leapingProgram = .ok start := rfl
  have reachable : Reachable machine := (Reachable.boot booted).run _
  have counter : machine.programCounter = 0x10FE := leaping_runs_off (standsIn_of_boot booted)
  have off : machine.RanOff := by
    rw [RanOff, counter]
    decide
  have stays := (off_memory_for_good machine).1 off actions
  rw [counter] at stays
  exact ⟨reachable, counter, off, stays⟩

end Chip8.Machine
