import Chip8.Proofs.Marks

/-!
# The footprint of a step

A step changes a part of the machine only when it succeeds and its opcode has
one of the forms that leave a mark there. A step that fails changes nothing but
the program counter, and the keypad is never changed by a step.
-/

namespace Chip8

instance (form : Form) (opcode : Word) : Decidable (form.Fits opcode) :=
  inferInstanceAs (Decidable (_ = _))

namespace Machine

variable {machine : Machine} {instruction : Instruction} {mark : Mark}

/-- The next step succeeds, and its opcode has a form that leaves a mark. -/
def Leaves (machine : Machine) (mark : Mark) : Prop :=
  machine.step.fault? = none ∧ ∃ form ∈ mark.forms, form.Fits machine.opcode

instance (machine : Machine) (mark : Mark) : Decidable (machine.Leaves mark) :=
  inferInstanceAs (Decidable (_ ∧ _))

theorem Carries.done (carries : machine.Carries instruction) : machine.step.fault? = none :=
  (carries_iff.mp carries).2

theorem Carries.machine_eq (carries : machine.Carries instruction) :
    machine.step.machine = machine.advance.effect instruction :=
  congrArg Outcome.machine carries.step

theorem Carries.leaves (carries : machine.Carries instruction)
    (marked : mark ∈ instruction.marks) : machine.Leaves mark :=
  ⟨carries.done, exists_form_of_mark carries.decoded marked⟩

/-- A part of the machine that moving past the opcode leaves alone stays if the step fails. -/
theorem part_of_fault {α : Type} {fault : Fault} (failed : machine.step.fault? = some fault)
    (part : Machine → α) (still : part machine.advance = part machine) :
    part machine.step.machine = part machine := by
  rcases machine_of_fault failed with same | moved
  · rw [same]
  · rw [moved, still]

/-- A step that changes a part of the machine leaves the mark of that part. -/
theorem leaves_of_ne {α : Type} (part : Machine → α)
    (guarded : ∀ (before after : Machine) (marks : List Mark),
      part (before.altered after marks) = if mark ∈ marks then part after else part before)
    (still : part machine.advance = part machine)
    (changed : part machine.step.machine ≠ part machine) : machine.Leaves mark := by
  cases failed : machine.step.fault? with
  | some fault => exact absurd (part_of_fault failed part still) changed
  | none =>
      obtain ⟨instruction, carries⟩ := exists_carries failed
      apply carries.leaves
      by_contra unmarked
      apply changed
      have altered := congrArg part (machine.advance.effect_altered instruction)
      rw [guarded, if_neg unmarked, still] at altered
      rw [carries.machine_eq, ← altered]

/-! ## Registers -/

/-- The opcodes with which a step can write a register. -/
inductive WritesRegister (machine : Machine) (v : Register) : Prop where
  | result (leaves : machine.Leaves .result) (named : v = machine.operandX)
  | flag (leaves : machine.Leaves .flag) (reported : v = flagRegister)
  | loaded (leaves : machine.Leaves .loaded) (range : v.val ≤ machine.operandX.val)
  | restored (leaves : machine.Leaves .restored)

theorem writesRegister_of_value_ne {v : Register}
    (changed : machine.step.machine.value v ≠ machine.value v) : machine.WritesRegister v := by
  cases failed : machine.step.fault? with
  | some fault => exact absurd (part_of_fault failed (Machine.value · v) rfl) changed
  | none =>
      obtain ⟨instruction, carries⟩ := exists_carries failed
      rw [carries.machine_eq] at changed
      have written : Writes instruction v := writes_of_value_ne changed
      cases written with
      | result marked named =>
          exact .result (carries.leaves marked) (operand_eq_nibble carries.decoded named)
      | flag marked reported => exact .flag (carries.leaves marked) reported
      | loaded marked named range =>
          rw [operand_eq_nibble carries.decoded named] at range
          exact .loaded (carries.leaves marked) range
      | restored marked => exact .restored (carries.leaves marked)

/-! ## Memory -/

/-- The opcodes with which a step can write the byte at an address. -/
inductive WritesByte (machine : Machine) (address : Nat) : Prop where
  | digits (leaves : machine.Leaves .digits) (behind : machine.index.toNat ≤ address)
      (range : address ≤ machine.index.toNat + 2)
  | block (leaves : machine.Leaves .block) (behind : machine.index.toNat ≤ address)
      (range : address ≤ machine.index.toNat + machine.operandX.val)

theorem writesByte_of_byte_ne {address : Nat}
    (changed : machine.step.machine.memory.byte address ≠ machine.memory.byte address) :
    machine.WritesByte address := by
  cases failed : machine.step.fault? with
  | some fault =>
      exact absurd (part_of_fault failed (fun machine => machine.memory.byte address) rfl) changed
  | none =>
      obtain ⟨instruction, carries⟩ := exists_carries failed
      rw [carries.machine_eq] at changed
      have clear := (hindrance?_advance machine instruction).trans carries.clear
      have stored : machine.advance.Stores instruction address := stores_of_byte_ne clear changed
      cases stored with
      | digits marked behind range => exact .digits (carries.leaves marked) behind range
      | block marked named behind range =>
          rw [operand_eq_nibble carries.decoded named] at range
          exact .block (carries.leaves marked) behind range

/-! ## The program counter and the index -/

theorem counter_of_not_leaves (done : machine.step.fault? = none)
    (unmarked : ¬ machine.Leaves .counter) :
    machine.step.machine.programCounter.toNat = machine.programCounter.toNat + 2 := by
  obtain ⟨instruction, carries⟩ := exists_carries done
  have kept : .counter ∉ instruction.marks := fun marked => unmarked (carries.leaves marked)
  have altered := congrArg Machine.programCounter (machine.advance.effect_altered instruction)
  rw [carries.machine_eq, ← altered]
  refine (congrArg UInt16.toNat (if_neg kept)).trans ?_
  exact toNat_next_of_fetches carries.fetches

/-- Storing and loading a block of registers leaves the index where it is. -/
theorem index_of_block (moves : machine.Leaves .block ∨ machine.Leaves .loaded) :
    machine.step.machine.index = machine.index := by
  rcases moves with ⟨done, form, listed, fits⟩ | ⟨done, form, listed, fits⟩
  · obtain rfl := List.mem_singleton.mp listed
    have carries := carries_of_decode done (decode_eq_storeRegisters_iff.mpr ⟨fits, rfl⟩)
    rw [carries.machine_eq]
    rfl
  · obtain rfl := List.mem_singleton.mp listed
    have carries := carries_of_decode done (decode_eq_loadRegisters_iff.mpr ⟨fits, rfl⟩)
    rw [carries.machine_eq, effect_loadRegisters]
    rfl

theorem step_keypad (machine : Machine) : machine.step.machine.keypad = machine.keypad := by
  cases failed : machine.step.fault? with
  | some fault => exact part_of_fault failed Machine.keypad rfl
  | none =>
      obtain ⟨instruction, carries⟩ := exists_carries failed
      rw [carries.machine_eq, ← effect_altered]
      rfl

/-! ## All parts together -/

/-- What a step can change, and with which opcodes. -/
structure Footprint (machine : Machine) : Prop where
  registers : ∀ v, machine.step.machine.value v ≠ machine.value v → machine.WritesRegister v
  index : machine.step.machine.index ≠ machine.index → machine.Leaves .index
  indexOfBlock : machine.Leaves .block ∨ machine.Leaves .loaded →
    machine.step.machine.index = machine.index
  memory : ∀ address,
    machine.step.machine.memory.byte address ≠ machine.memory.byte address →
      machine.WritesByte address
  stack : machine.step.machine.stack ≠ machine.stack → machine.Leaves .stack
  saved : machine.step.machine.saved ≠ machine.saved → machine.Leaves .saved
  random : machine.step.machine.random ≠ machine.random → machine.Leaves .random
  screen : machine.step.machine.screen ≠ machine.screen → machine.Leaves .screen
  delay : machine.step.machine.timers.delay ≠ machine.timers.delay → machine.Leaves .delay
  sound : machine.step.machine.timers.sound ≠ machine.timers.sound → machine.Leaves .sound
  keypad : machine.step.machine.keypad = machine.keypad
  /-- Where no mark is left on the program counter, a step that succeeds moves past its opcode. -/
  counter : machine.step.fault? = none → ¬ machine.Leaves .counter →
    machine.step.machine.programCounter.toNat = machine.programCounter.toNat + 2

/-- Every step, whether it succeeds or fails, keeps to the footprint of its opcode. -/
theorem step_footprint (machine : Machine) : machine.Footprint where
  registers _ := writesRegister_of_value_ne
  index := leaves_of_ne Machine.index (fun _ _ _ => rfl) rfl
  indexOfBlock := index_of_block
  memory _ := writesByte_of_byte_ne
  stack := leaves_of_ne Machine.stack (fun _ _ _ => rfl) rfl
  saved := leaves_of_ne Machine.saved (fun _ _ _ => rfl) rfl
  random := leaves_of_ne Machine.random (fun _ _ _ => rfl) rfl
  screen := leaves_of_ne Machine.screen (fun _ _ _ => rfl) rfl
  delay := leaves_of_ne (fun machine => machine.timers.delay) (fun _ _ _ => rfl) rfl
  sound := leaves_of_ne (fun machine => machine.timers.sound) (fun _ _ _ => rfl) rfl
  keypad := step_keypad machine
  counter := counter_of_not_leaves

end Machine

end Chip8
