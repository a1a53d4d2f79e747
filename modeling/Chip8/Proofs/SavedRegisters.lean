import Chip8.Proofs.Footprint
import Chip8.Proofs.LastEvent
import Chip8.Proofs.Programs

/-!
# Registers that are kept aside

A machine keeps one copy of its registers aside, which a program can make and
take back. The opcodes for both have room for a register, but each concerns all
sixteen of them. No fault, no other program and no number of times that the copy
is taken back makes a difference to it.
-/

namespace Chip8.Machine

variable {start machine : Machine} {actions : List Action} {action : Action}

/-- The action is a step that makes a copy of the registers, whatever register its opcode names. -/
def Saves (machine : Machine) (action : Action) : Prop :=
  action = .step ∧ machine.Fetches ∧ machine.opcode &&& 0xF0FF = 0xF075

/-- The next step takes the copy back, whatever register its opcode names. -/
structure Restores (machine : Machine) : Prop where
  fetches : machine.Fetches
  form : machine.opcode &&& 0xF0FF = 0xF085

/-! ## One action -/

theorem saved_of_saves (saves : machine.Saves action) :
    (machine.perform action).saved = machine.registers := by
  obtain ⟨rfl, fetches, form⟩ := saves
  have mem : Pattern.register 0xF075 (fun _ => .saveRegisters) ∈ opcodeTable := by
    simp [opcodeTable]
  rw [perform_step, step_of_decode fetches (decode_of_form mem form)]
  rfl

/-- A step that changes the copy makes a new one. -/
theorem saves_of_saved_ne (changed : machine.step.machine.saved ≠ machine.saved) :
    machine.Saves .step := by
  have leaves : machine.Leaves .saved :=
    leaves_of_ne Machine.saved (fun _ _ _ => rfl) rfl changed
  obtain ⟨done, form, listed, fits⟩ := leaves
  obtain rfl := List.mem_singleton.mp listed
  obtain ⟨instruction, carries⟩ := exists_carries done
  exact ⟨rfl, carries.fetches, fits⟩

theorem saved_of_not_saves (other : ¬ machine.Saves action) :
    (machine.perform action).saved = machine.saved := by
  cases action with
  | step =>
      by_contra changed
      exact other (saves_of_saved_ne changed)
  | load rom =>
      obtain ⟨memory, same⟩ := machine.perform_load rom
      rw [same]
  | _ => rfl

theorem Restores.step (restores : machine.Restores) :
    machine.step = .done { machine.advance with registers := machine.saved } := by
  have mem : Pattern.register 0xF085 (fun _ => .restoreRegisters) ∈ opcodeTable := by
    simp [opcodeTable]
  exact step_of_decode restores.fetches (decode_of_form mem restores.form)

theorem Restores.registers (restores : machine.Restores) :
    machine.step.machine.registers = machine.saved := by
  rw [restores.step]
  rfl

/-! ## Histories -/

/-- The copy stays as long as no step makes a new one. -/
theorem saved_run (never : ∀ n, ¬ start.HappensAt actions Saves n) :
    (start.run actions).saved = start.saved := by
  induction actions generalizing start with
  | nil => rfl
  | cons action rest ih =>
      obtain ⟨other, later⟩ := never_cons_iff.mp never
      exact (ih later).trans (saved_of_not_saves other)

/-- What a history leaves aside: zeros as long as no step has made a copy, and then the registers of
the machine whose step made the last one. -/
inductive KeepsAside (start : Machine) (actions : List Action) (kept : Registers) : Prop where
  | unsaved (never : ∀ n, ¬ start.HappensAt actions Saves n) (zero : ∀ v, kept.get v = 0)
  | saved (n : Nat) (last : start.HappensLastAt actions Saves n)
      (same : kept = (start.run (actions.take n)).registers)

theorem run_keepsAside (fresh : start.saved = Registers.blank) (actions : List Action) :
    start.KeepsAside actions (start.run actions).saved := by
  rcases start.never_or_happensLastAt actions Saves with never | ⟨n, last⟩
  · refine .unsaved never ?_
    intro v
    rw [saved_run never, fresh]
    exact Vector.getElem_replicate v.isLt
  · refine .saved n last ?_
    obtain ⟨action, here, saves⟩ := last.happens
    rw [← run_take_drop start actions (n + 1), saved_run last.never_behind, run_take_succ here,
      saved_of_saves saves]

/-- What a step that takes registers back comes to after a history. -/
structure TakesBack (start : Machine) (actions : List Action) : Prop where
  succeeds : (start.run actions).step.fault? = none
  registers : start.KeepsAside actions (start.run actions).step.machine.registers
  /-- A later step gets the same registers back, however often they are taken back until then, if no
  step in between makes a new copy. -/
  again : ∀ more, (∀ n, ¬ (start.run actions).HappensAt more Saves n) →
    ((start.run actions).run more).Restores →
      ((start.run actions).run more).step.machine.registers =
        (start.run actions).step.machine.registers

/-- Whatever has happened to a machine, the registers that it takes back are those of which it made
a copy last. -/
theorem saved_registers_survive {random : RandomSource} {rom : Rom}
    (booted : boot random rom = .ok start) (restores : (start.run actions).Restores) :
    start.TakesBack actions := by
  have fresh : start.saved = Registers.blank := by
    rw [eq_of_boot booted]
    rfl
  constructor
  case succeeds => rw [restores.step]; rfl
  case registers =>
    rw [restores.registers]
    exact run_keepsAside fresh actions
  case again =>
    intro more never restores'
    rw [restores'.registers, restores.registers]
    exact saved_run never

/-- Sets a register to five, saves all, sets it to nine, and takes all back. -/
def keepingProgram : Rom := [0x60, 0x05, 0xF3, 0x75, 0x60, 0x09, 0xF4, 0x85]

theorem keeping_sets (stands : machine.StandsIn keepingProgram 0) :
    machine.step.machine.StandsIn keepingProgram 2 ∧ machine.step.machine.value 0 = 5 := by
  have decoded : Instruction.decode 0x6005 = .ok (.set 0 5) := rfl
  rw [stands.step (by decide) (by decide) decoded]
  exact ⟨stands.onward (by decide) rfl rfl, value_setRegister_self _ _ _⟩

theorem keeping_saves (stands : machine.StandsIn keepingProgram 2) :
    machine.step.machine.StandsIn keepingProgram 4 ∧
      machine.step.machine.saved = machine.registers := by
  have decoded : Instruction.decode 0xF375 = .ok .saveRegisters := rfl
  rw [stands.step (by decide) (by decide) decoded]
  exact ⟨stands.onward (by decide) rfl rfl, rfl⟩

/-- A key goes down, the register is overwritten, and a tick passes. -/
def keepingPause : List Action := [.press 3, .step, .tick]

theorem keeping_pauses (stands : machine.StandsIn keepingProgram 4) :
    (machine.run keepingPause).Restores ∧ (machine.run keepingPause).value 0 = 9 ∧
      (machine.run keepingPause).saved = machine.saved := by
  have decoded : Instruction.decode 0x6009 = .ok (.set 0 9) := rfl
  have held : (machine.press 3).StandsIn keepingProgram 4 :=
    ⟨stands.fits, stands.counter, stands.program⟩
  have step := held.step (by decide) (by decide) decoded
  have last : ((machine.press 3).advance.setRegister 0 9).tick.StandsIn keepingProgram 6 :=
    held.onward (by decide) rfl rfl
  have opcode := last.opcode (by decide)
  have run : machine.run keepingPause =
      ((machine.press 3).advance.setRegister 0 9).tick := by
    rw [keepingPause, run_cons, run_cons, run_cons, perform_step]
    exact congrArg (fun outcome : Outcome => outcome.machine.tick) step
  rw [run]
  refine ⟨⟨last.fetches (by decide), ?_⟩, value_setRegister_self _ _ _, rfl⟩
  exact (congrArg (· &&& 0xF0FF) opcode).trans (by decide)

def keepingHistory : List Action := .step :: .step :: keepingPause

theorem keeping_restores (stands : machine.StandsIn keepingProgram 0) :
    (machine.run keepingHistory).Restores ∧ (machine.run keepingHistory).value 0 = 9 ∧
      (machine.run keepingHistory).step.machine.value 0 = 5 := by
  obtain ⟨second, five⟩ := keeping_sets stands
  obtain ⟨third, saved⟩ := keeping_saves second
  have copied : machine.step.machine.step.machine.saved.get 0 = 5 :=
    (congrArg (Vector.get · 0) saved).trans five
  rw [keepingHistory, run_cons, run_cons, perform_step, perform_step]
  generalize machine.step.machine.step.machine = later at third copied ⊢
  obtain ⟨restores, nine, kept⟩ := keeping_pauses third
  have registers := restores.registers.trans kept
  exact ⟨restores, nine, (congrArg (Vector.get · 0) registers).trans copied⟩

/-- The register is five when it is saved, nine when all are taken back, and then five again. -/
theorem saved_registers_survive_overwritten :
    let start := { blank (.ofSeed 0) with
      memory := firmware.overlay loadAddress.toNat keepingProgram }
    boot (.ofSeed 0) keepingProgram = .ok start ∧ (start.run keepingHistory).Restores ∧
      start.TakesBack keepingHistory ∧ (start.run keepingHistory).value 0 = 9 ∧
      (start.run keepingHistory).step.machine.value 0 = 5 := by
  intro start
  have booted : boot (.ofSeed 0) keepingProgram = .ok start := rfl
  obtain ⟨restores, nine, five⟩ := keeping_restores (standsIn_of_boot booted)
  exact ⟨booted, restores, saved_registers_survive booted restores, nine, five⟩

end Chip8.Machine
