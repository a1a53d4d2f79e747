import Chip8.Proofs.Programs

/-!
# Sums of the index

An address has twelve bits, the index sixteen. A register that is added to the
index may take it out of the address range, which the flag reports, and on past
the last word, which it does not: the sum has wrapped around by then and is
small again.
-/

namespace Chip8.Machine

/-- The exact sum of the index and a register. -/
def indexSum (machine : Machine) (x : Register) : Nat :=
  machine.index.toNat + (machine.value x).toNat

variable {machine : Machine} {x : Register}

theorem indexSum_lt (machine : Machine) (x : Register) :
    machine.indexSum x < 0x10000 + 0x00FF := by
  have index := machine.index.toNat_lt
  have value := (machine.value x).toNat_lt
  unfold indexSum
  omega

theorem toNat_index_add (machine : Machine) (x : Register) :
    (machine.index + (machine.value x).toUInt16).toNat = machine.indexSum x % 0x10000 := by
  rw [UInt16.toNat_add, UInt8.toNat_toUInt16]
  rfl

/-- A sum that has wrapped around is never found outside the address range. -/
theorem lt_index_add_iff :
    0x0FFF < machine.index + (machine.value x).toUInt16 ↔
      0x0FFF < machine.indexSum x ∧ machine.indexSum x < 0x10000 := by
  have bound := machine.indexSum_lt x
  rw [UInt16.lt_iff_toNat_lt, toNat_index_add]
  change 0x0FFF < _ ↔ _
  omega

theorem value_increaseIndex (machine : Machine) (x y : Register) :
    (machine.increaseIndex x).value y =
      if (0x0FFF < machine.indexSum x ∧ machine.indexSum x < 0x10000) ∧ y = flagRegister then 1
      else machine.value y := by
  unfold increaseIndex
  simp only [lt_index_add_iff]
  by_cases outside : 0x0FFF < machine.indexSum x ∧ machine.indexSum x < 0x10000
  · rw [if_pos outside]
    refine (machine.value_setRegister flagRegister y 1).trans ?_
    simp only [outside, true_and, eq_comm]
  · rw [if_neg outside, if_neg fun both => outside both.1]
    rfl

theorem increaseIndex_eq (machine : Machine) (x : Register) :
    machine.increaseIndex x = { machine with
      index := machine.index + (machine.value x).toUInt16
      registers := (machine.increaseIndex x).registers } := by
  unfold increaseIndex
  dsimp only
  split
  · rfl
  · rfl

theorem step_increaseIndex (fetches : machine.Fetches)
    (form : machine.opcode &&& 0xF0FF = 0xF01E) :
    machine.step = .done (machine.advance.increaseIndex machine.operandX) :=
  step_of_decode fetches (decode_eq_increaseIndex_iff.mpr ⟨form, rfl⟩)

theorem flag_step_increaseIndex (fetches : machine.Fetches)
    (form : machine.opcode &&& 0xF0FF = 0xF01E) :
    machine.step.machine.value flagRegister =
      if 0x0FFF < machine.indexSum machine.operandX ∧ machine.indexSum machine.operandX < 0x10000
      then 1 else machine.value flagRegister := by
  rw [step_increaseIndex fetches form]
  refine (value_increaseIndex _ _ _).trans ?_
  simp only [and_true]
  rfl

/-! ## A program that keeps adding to its index -/

/-- Clears the flag, adds 255 to the index, and starts again. -/
def addingProgram : Rom := [0x60, 0xFF, 0x6F, 0x00, 0xF0, 0x1E, 0x12, 0x00]

theorem adding_loads (stands : machine.StandsIn addingProgram 0) :
    machine.step.machine.StandsIn addingProgram 2 ∧
      machine.step.machine.index = machine.index ∧
      machine.step.machine.value firstRegister = 255 := by
  have decoded : Instruction.decode 0x60FF = .ok (.set firstRegister 255) := rfl
  rw [stands.step (by decide) (by decide) decoded]
  exact ⟨stands.onward (by decide) rfl rfl, rfl, value_setRegister _ _ _ _⟩

theorem adding_clears (stands : machine.StandsIn addingProgram 2) :
    machine.step.machine.StandsIn addingProgram 4 ∧
      machine.step.machine.index = machine.index ∧
      machine.step.machine.value firstRegister = machine.value firstRegister ∧
      machine.step.machine.value flagRegister = 0 := by
  have decoded : Instruction.decode 0x6F00 = .ok (.set flagRegister 0) := rfl
  rw [stands.step (by decide) (by decide) decoded]
  exact ⟨stands.onward (by decide) rfl rfl, rfl, value_setRegister _ _ _ _,
    value_setRegister _ _ _ _⟩

theorem adding_adds (stands : machine.StandsIn addingProgram 4) :
    machine.step.machine.StandsIn addingProgram 6 ∧
      machine.step.machine.index.toNat = machine.indexSum firstRegister % 0x10000 := by
  have decoded : Instruction.decode 0xF01E = .ok (.increaseIndex firstRegister) := rfl
  rw [stands.step (by decide) (by decide) decoded]
  change (machine.advance.increaseIndex firstRegister).StandsIn _ _ ∧ _
  rw [increaseIndex_eq]
  exact ⟨stands.onward (by decide) rfl rfl, toNat_index_add machine firstRegister⟩

theorem adding_restarts (stands : machine.StandsIn addingProgram 6) :
    machine.step.machine.StandsIn addingProgram 0 ∧
      machine.step.machine.index = machine.index := by
  have decoded : Instruction.decode 0x1200 = .ok (.jump 0x0200) := rfl
  rw [stands.step (by decide) (by decide) decoded]
  exact ⟨⟨stands.fits, rfl, stands.program⟩, rfl⟩

/-- Each round of four steps takes the index on by 255. -/
theorem adding_rounds (stands : machine.StandsIn addingProgram 0) (count : Nat) :
    (machine.after (4 * count)).StandsIn addingProgram 0 ∧
      (machine.after (4 * count)).index.toNat =
        (machine.index.toNat + 255 * count) % 0x10000 := by
  induction count with
  | zero => exact ⟨stands, (Nat.mod_eq_of_lt machine.index.toNat_lt).symm⟩
  | succ count ih =>
      obtain ⟨start, index⟩ := ih
      obtain ⟨second, index', loaded⟩ := adding_loads start
      obtain ⟨third, index'', value, -⟩ := adding_clears second
      obtain ⟨fourth, sum⟩ := adding_adds third
      obtain ⟨again, same⟩ := adding_restarts fourth
      rw [Nat.mul_succ, after_succ, after_succ, after_succ, after_succ]
      refine ⟨again, ?_⟩
      rw [same, sum, indexSum, index'', index', value, loaded, index]
      change (_ + 255) % _ = _
      omega

/-- The adding program when it is about to add, after any number of rounds. -/
theorem adding_of_boot {random : RandomSource} (booted : boot random addingProgram = .ok machine)
    (count : Nat) :
    (machine.after (4 * count + 2)).Fetches ∧ (machine.after (4 * count + 2)).opcode = 0xF01E ∧
      (machine.after (4 * count + 2)).indexSum firstRegister = 255 * count % 0x10000 + 255 ∧
      (machine.after (4 * count + 2)).value flagRegister = 0 := by
  have fresh : machine.index = 0 := by
    rw [eq_of_boot booted]
    rfl
  obtain ⟨start, index⟩ := adding_rounds (standsIn_of_boot booted) count
  obtain ⟨second, index', loaded⟩ := adding_loads start
  obtain ⟨third, index'', value, flag⟩ := adding_clears second
  rw [after_succ, after_succ]
  refine ⟨third.fetches (by decide), (third.opcode (by decide)).trans (by decide), ?_, flag⟩
  rw [indexSum, index'', index', value, loaded, index, fresh]
  change (0 + 255 * count) % 0x10000 + 255 = _
  rw [Nat.zero_add]

/-! ## What the flag reports -/

/-- What a step comes to that adds a register to the index. -/
structure SumsIndex (machine : Machine) (x : Register) : Prop where
  succeeds : machine.step.fault? = none
  index : machine.step.machine.index.toNat = machine.indexSum x % 0x10000
  /-- The flag is set if the sum is outside the address range but still a word. -/
  flag : machine.step.machine.value flagRegister =
    if 0x0FFF < machine.indexSum x ∧ machine.indexSum x < 0x10000 then 1
    else machine.value flagRegister
  /-- So a sum outside the address range goes unreported just when it wraps around, unless the
  flag happens to be set. -/
  reported :
    (0x0FFF < machine.indexSum x → machine.step.machine.value flagRegister = 1) ↔
      (machine.indexSum x < 0x10000 ∨ machine.value flagRegister = 1)
  kept : ∀ y, y ≠ flagRegister → machine.step.machine.value y = machine.value y
  rest : machine.step.machine = { machine.advance with
    index := machine.step.machine.index
    registers := machine.step.machine.registers }

/-- Adding a register to the index wraps around at 65536, and its flag tells of the wrapped sum. -/
theorem increaseIndex_sums (fetches : machine.Fetches)
    (form : machine.opcode &&& 0xF0FF = 0xF01E) : machine.SumsIndex machine.operandX := by
  have stepped := step_increaseIndex fetches form
  have flag := flag_step_increaseIndex fetches form
  constructor
  · rw [stepped]
    rfl
  · rw [stepped, Outcome.done, increaseIndex_eq]
    exact toNat_index_add machine machine.operandX
  · exact flag
  · rw [flag]
    by_cases word : machine.indexSum machine.operandX < 0x10000
    · refine iff_of_true ?_ (.inl word)
      intro outside
      rw [if_pos ⟨outside, word⟩]
    · have outside : 0x0FFF < machine.indexSum machine.operandX := by omega
      rw [if_neg fun both => word both.2, or_iff_right word]
      exact ⟨fun reports => reports outside, fun known _ => known⟩
  · intro y other
    rw [stepped]
    refine (value_increaseIndex _ _ _).trans ?_
    rw [if_neg fun both => other both.2]
    rfl
  · rw [stepped]
    exact increaseIndex_eq _ _

/-- The adding program when its index leaves the address range. -/
theorem increaseIndex_sums_outside :
    let start := { blank (.ofSeed 0) with
      memory := firmware.overlay loadAddress.toNat addingProgram }
    let machine := start.after (4 * 16 + 2)
    (machine.Fetches ∧ machine.opcode &&& 0xF0FF = 0xF01E) ∧
      machine.indexSum machine.operandX = 4335 ∧ machine.SumsIndex machine.operandX := by
  intro start machine
  have booted : boot (.ofSeed 0) addingProgram = .ok start := rfl
  obtain ⟨fetches, opcode, sum, -⟩ := adding_of_boot booted 16
  have form : machine.opcode &&& 0xF0FF = 0xF01E := congrArg (· &&& 0xF0FF) opcode
  have operand : machine.operandX = firstRegister := congrArg (Word.nibble · 8) opcode
  exact ⟨⟨fetches, form⟩, operand ▸ sum, increaseIndex_sums fetches form⟩

/-- The adding program when its index wraps around: the sum is far outside the address range and
the flag, which was cleared, is not set. -/
theorem index_sum_unreported :
    let start := { blank (.ofSeed 0) with
      memory := firmware.overlay loadAddress.toNat addingProgram }
    let machine := start.after (4 * 257 + 2)
    Reachable machine ∧ machine.Fetches ∧ machine.opcode = 0xF01E ∧
      machine.indexSum firstRegister = 65790 ∧
      ¬ (0x0FFF < machine.indexSum firstRegister →
        machine.step.machine.value flagRegister = 1) := by
  intro start machine
  have booted : boot (.ofSeed 0) addingProgram = .ok start := rfl
  have reachable : Reachable machine := (Reachable.boot booted).run _
  obtain ⟨fetches, opcode, sum, clear⟩ := adding_of_boot booted 257
  have form : machine.opcode &&& 0xF0FF = 0xF01E := congrArg (· &&& 0xF0FF) opcode
  have operand : machine.operandX = firstRegister := congrArg (Word.nibble · 8) opcode
  have sum : machine.indexSum firstRegister = 65790 := sum
  have clear : machine.value flagRegister = 0 := clear
  refine ⟨reachable, fetches, opcode, sum, ?_⟩
  have flag := flag_step_increaseIndex fetches form
  rw [operand, sum, if_neg (by decide)] at flag
  rw [flag, sum]
  intro reported
  have set := reported (by decide)
  rw [clear] at set
  cases set

end Chip8.Machine
