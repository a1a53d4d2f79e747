import Mathlib.Logic.ExistsUnique
import Mathlib.Order.Bounds.Defs
import Chip8.Proofs.Sprites

/-!
# What keeps a step from succeeding

The obstacles to a step, told from the bytes at the program counter and from
the state of the machine alone. A step fails just when one of them is met; no
two of them are ever met together, and each brings its own fault.
-/

namespace Chip8

inductive Obstacle where
  | counterOutside
  | unknownOpcode
  | fullStack
  | emptyStack
  | unknownKey
  | decimalOutside
  | storeOutside
  | loadOutside
  | spriteOutside
deriving DecidableEq, Repr

namespace Obstacle

/-- The block of memory that is asked for: where it starts and how long it is. -/
def block? (machine : Machine) : Obstacle → Option (Nat × Nat)
  | .counterOutside => some (machine.programCounter.toNat, 2)
  | .decimalOutside => some (machine.index.toNat, 3)
  | .storeOutside => some (machine.index.toNat, machine.operandX.val + 1)
  | .loadOutside => some (machine.index.toNat, machine.operandX.val + 1)
  | .spriteOutside => some (machine.index.toNat, machine.spriteDemand)
  | _ => none

/-- When a machine has an obstacle before it. -/
def Met (machine : Machine) : Obstacle → Prop
  | .counterOutside => 4096 < machine.programCounter.toNat + 2
  | .unknownOpcode => machine.Fetches ∧ (machine.opcode.nibble 12).val ≠ 0 ∧
      ∀ pattern ∈ opcodeTable, machine.opcode &&& pattern.mask ≠ pattern.value
  | .fullStack => machine.Fetches ∧ machine.opcode &&& 0xF000 = 0x2000 ∧
      16 ≤ machine.stack.length
  | .emptyStack => machine.Fetches ∧ machine.opcode = 0x00EE ∧ machine.stack = []
  | .unknownKey => machine.Fetches ∧
      (machine.opcode &&& 0xF0FF = 0xE09E ∨ machine.opcode &&& 0xF0FF = 0xE0A1) ∧
      15 < (machine.value machine.operandX).toNat
  | .decimalOutside => machine.Fetches ∧ machine.opcode &&& 0xF0FF = 0xF033 ∧
      4096 < machine.index.toNat + 3
  | .storeOutside => machine.Fetches ∧ machine.opcode &&& 0xF0FF = 0xF055 ∧
      4096 < machine.index.toNat + (machine.operandX.val + 1)
  | .loadOutside => machine.Fetches ∧ machine.opcode &&& 0xF0FF = 0xF065 ∧
      4096 < machine.index.toNat + (machine.operandX.val + 1)
  | .spriteOutside => machine.Fetches ∧ machine.opcode &&& 0xF000 = 0xD000 ∧
      4096 < machine.index.toNat + machine.spriteDemand

def fault (machine : Machine) : Obstacle → Fault
  | .counterOutside => .outsideMemory (max machine.programCounter.toNat 4096)
  | .unknownOpcode => .unknownOpcode machine.opcode
  | .fullStack => .stackOverflow
  | .emptyStack => .stackUnderflow
  | .unknownKey => .unknownKey (machine.value machine.operandX)
  | _ => .outsideMemory (max machine.index.toNat 4096)

/-- The obstacle that an instruction can meet. -/
def ofInstruction? : Instruction → Option Obstacle
  | .enter _ => some .fullStack
  | .leave => some .emptyStack
  | .skipIfDown _ => some .unknownKey
  | .skipUnlessDown _ => some .unknownKey
  | .storeDecimal _ => some .decimalOutside
  | .storeRegisters _ => some .storeOutside
  | .loadRegisters _ => some .loadOutside
  | .draw _ _ _ => some .spriteOutside
  | _ => none

end Obstacle

namespace Obstacle

variable {machine : Machine} {obstacle : Obstacle}

/-- The stage of a step at which an obstacle stands. -/
inductive StandsAt (machine : Machine) : Obstacle → Prop where
  | fetching (beyond : ¬ machine.Fetches) : StandsAt machine .counterOutside
  | reading (fetches : machine.Fetches)
      (unreadable : Instruction.decode machine.opcode =
        .error (.unknownOpcode machine.opcode)) : StandsAt machine .unknownOpcode
  | executing (instruction : Instruction) (obstacle : Obstacle) (fetches : machine.Fetches)
      (decoded : Instruction.decode machine.opcode = .ok instruction)
      (kind : ofInstruction? instruction = some obstacle)
      (hindered : machine.hindrance? instruction = some (obstacle.fault machine)) :
      StandsAt machine obstacle

theorem standsAt_of_met (met : obstacle.Met machine) : obstacle.StandsAt machine := by
  cases obstacle with
  | counterOutside => exact .fetching (Nat.not_le.mpr met)
  | unknownOpcode =>
      obtain ⟨fetches, foreign, unfit⟩ := met
      refine .reading fetches (decode_eq_error_iff.mpr ⟨⟨foreign, ?_⟩, rfl⟩)
      intro pattern mem fits
      exact unfit pattern mem (Pattern.fits_iff.mp fits)
  | fullStack =>
      obtain ⟨fetches, form, full⟩ := met
      exact .executing _ _ fetches (decode_eq_enter_iff.mpr ⟨form, rfl⟩) rfl
        (Machine.hindrance?_enter_eq_some_iff.mpr ⟨Nat.not_lt.mpr full, rfl⟩)
  | emptyStack =>
      obtain ⟨fetches, form, empty⟩ := met
      exact .executing _ _ fetches (decode_eq_leave_iff.mpr form) rfl
        (Machine.hindrance?_leave_eq_some_iff.mpr ⟨empty, rfl⟩)
  | unknownKey =>
      obtain ⟨fetches, form, absent⟩ := met
      have keyless := Machine.keyless?_eq_some_iff.mpr ⟨absent, rfl⟩
      rcases form with form | form
      · exact .executing _ _ fetches (decode_eq_skipIfDown_iff.mpr ⟨form, rfl⟩) rfl keyless
      · exact .executing _ _ fetches (decode_eq_skipUnlessDown_iff.mpr ⟨form, rfl⟩) rfl keyless
  | decimalOutside =>
      obtain ⟨fetches, form, far⟩ := met
      exact .executing _ _ fetches (decode_eq_storeDecimal_iff.mpr ⟨form, rfl⟩) rfl
        (Machine.beyond?_eq_some_iff.mpr ⟨far, rfl⟩)
  | storeOutside =>
      obtain ⟨fetches, form, far⟩ := met
      exact .executing _ _ fetches (decode_eq_storeRegisters_iff.mpr ⟨form, rfl⟩) rfl
        (Machine.beyond?_eq_some_iff.mpr ⟨far, rfl⟩)
  | loadOutside =>
      obtain ⟨fetches, form, far⟩ := met
      exact .executing _ _ fetches (decode_eq_loadRegisters_iff.mpr ⟨form, rfl⟩) rfl
        (Machine.beyond?_eq_some_iff.mpr ⟨far, rfl⟩)
  | spriteOutside =>
      obtain ⟨fetches, form, far⟩ := met
      refine .executing _ _ fetches (Machine.decode_draw form) rfl
        (Machine.beyond?_eq_some_iff.mpr ⟨?_, rfl⟩)
      rw [Machine.spriteLength_operands]
      exact far

/-- An instruction that is hindered has met its obstacle. -/
theorem met_of_hindrance {instruction : Instruction} {fault : Fault} (fetches : machine.Fetches)
    (decoded : Instruction.decode machine.opcode = .ok instruction)
    (hindered : machine.hindrance? instruction = some fault) :
    ∃ obstacle : Obstacle, obstacle.Met machine := by
  cases instruction with
  | enter target =>
      obtain ⟨form, -⟩ := decode_eq_enter_iff.mp decoded
      obtain ⟨full, -⟩ := Machine.hindrance?_enter_eq_some_iff.mp hindered
      exact ⟨.fullStack, fetches, form, Nat.not_lt.mp full⟩
  | leave =>
      have form := decode_eq_leave_iff.mp decoded
      obtain ⟨empty, -⟩ := Machine.hindrance?_leave_eq_some_iff.mp hindered
      exact ⟨.emptyStack, fetches, form, empty⟩
  | skipIfDown x =>
      obtain ⟨form, rfl⟩ := decode_eq_skipIfDown_iff.mp decoded
      obtain ⟨absent, -⟩ := Machine.keyless?_eq_some_iff.mp hindered
      exact ⟨.unknownKey, fetches, .inl form, absent⟩
  | skipUnlessDown x =>
      obtain ⟨form, rfl⟩ := decode_eq_skipUnlessDown_iff.mp decoded
      obtain ⟨absent, -⟩ := Machine.keyless?_eq_some_iff.mp hindered
      exact ⟨.unknownKey, fetches, .inr form, absent⟩
  | draw x y height =>
      obtain ⟨form, -, rfl, rfl⟩ := decode_eq_draw_iff.mp decoded
      obtain ⟨far, -⟩ := Machine.beyond?_eq_some_iff.mp hindered
      refine ⟨.spriteOutside, fetches, form, ?_⟩
      rw [← Machine.spriteLength_operands]
      exact far
  | storeDecimal x =>
      obtain ⟨form, -⟩ := decode_eq_storeDecimal_iff.mp decoded
      obtain ⟨far, -⟩ := Machine.beyond?_eq_some_iff.mp hindered
      exact ⟨.decimalOutside, fetches, form, far⟩
  | storeRegisters last =>
      obtain ⟨form, rfl⟩ := decode_eq_storeRegisters_iff.mp decoded
      obtain ⟨far, -⟩ := Machine.beyond?_eq_some_iff.mp hindered
      exact ⟨.storeOutside, fetches, form, far⟩
  | loadRegisters last =>
      obtain ⟨form, rfl⟩ := decode_eq_loadRegisters_iff.mp decoded
      obtain ⟨far, -⟩ := Machine.beyond?_eq_some_iff.mp hindered
      exact ⟨.loadOutside, fetches, form, far⟩
  | _ => cases hindered

theorem exists_met_of_fault {fault : Fault} (failed : machine.step.fault? = some fault) :
    ∃ obstacle : Obstacle, obstacle.Met machine := by
  cases Machine.failsAt_of_step failed with
  | fetching beyond same => exact ⟨.counterOutside, Nat.lt_of_not_le beyond⟩
  | reading fetches unreadable =>
      obtain ⟨⟨foreign, unfit⟩, -⟩ := decode_eq_error_iff.mp unreadable
      refine ⟨.unknownOpcode, fetches, foreign, ?_⟩
      intro pattern mem fits
      exact unfit pattern mem (Pattern.fits_iff.mpr fits)
  | executing instruction fetches decoded hindered =>
      exact met_of_hindrance fetches decoded hindered

theorem fault?_of_met (met : obstacle.Met machine) :
    machine.step.fault? = some (obstacle.fault machine) := by
  cases standsAt_of_met met with
  | fetching beyond => rw [Machine.step_of_not_fetches beyond]; rfl
  | reading fetches unreadable => rw [Machine.step_of_decode_error fetches unreadable]; rfl
  | executing instruction obstacle fetches decoded kind hindered =>
      rw [Machine.step_of_hindrance fetches decoded hindered]; rfl

/-- No two obstacles stand before a machine at the same time. -/
theorem eq_of_met {other : Obstacle} (met : obstacle.Met machine) (met' : other.Met machine) :
    obstacle = other := by
  cases standsAt_of_met met with
  | fetching beyond =>
      cases standsAt_of_met met' with
      | fetching => rfl
      | reading fetches => exact absurd fetches beyond
      | executing _ _ fetches => exact absurd fetches beyond
  | reading fetches unreadable =>
      cases standsAt_of_met met' with
      | fetching beyond => exact absurd fetches beyond
      | reading => rfl
      | executing _ _ _ decoded =>
          rw [unreadable] at decoded
          cases decoded
  | executing instruction _ fetches decoded kind =>
      cases standsAt_of_met met' with
      | fetching beyond => exact absurd fetches beyond
      | reading _ unreadable =>
          rw [unreadable] at decoded
          cases decoded
      | executing _ _ _ decoded' kind' =>
          rw [decoded, Except.ok.injEq] at decoded'
          rw [← decoded', kind, Option.some_inj] at kind'
          exact kind'

theorem beyond_of_met {start length : Nat} (met : obstacle.Met machine)
    (asked : obstacle.block? machine = some (start, length)) :
    obstacle.fault machine = .outsideMemory (max start 4096) ∧ 0 < length ∧
      4096 < start + length := by
  cases obstacle with
  | counterOutside =>
      cases asked
      exact ⟨rfl, Nat.zero_lt_two, met⟩
  | decimalOutside =>
      cases asked
      exact ⟨rfl, Nat.succ_pos _, met.2.2⟩
  | storeOutside =>
      cases asked
      exact ⟨rfl, Nat.succ_pos _, met.2.2⟩
  | loadOutside =>
      cases asked
      exact ⟨rfl, Nat.succ_pos _, met.2.2⟩
  | spriteOutside =>
      cases asked
      exact ⟨rfl, machine.spriteDemand_pos, met.2.2⟩
  | _ => cases asked

/-- The address that a fault names is the first one of the block that lies outside memory. -/
theorem isLeast_outside {start length : Nat} (some : 0 < length) (beyond : 4096 < start + length) :
    IsLeast { address | start ≤ address ∧ address < start + length ∧ 4096 ≤ address }
      (max start 4096) := by
  constructor
  · refine ⟨Nat.le_max_left _ _, ?_, Nat.le_max_right _ _⟩
    exact Nat.max_lt.mpr ⟨by omega, beyond⟩
  · rintro address ⟨behind, -, outside⟩
    exact Nat.max_le.mpr ⟨behind, outside⟩

end Obstacle

/-- A step fails just when one obstacle is met, and it is then the only one. The fault is the one
of that obstacle; where it is about memory, it names the first address that was asked for and does
not exist. -/
theorem Machine.step_fails_iff (machine : Machine) :
    (machine.step.fault?.isSome = true ↔ ∃! obstacle : Obstacle, obstacle.Met machine) ∧
      (∀ obstacle : Obstacle, obstacle.Met machine →
        machine.step.fault? = some (obstacle.fault machine)) ∧
      ∀ (obstacle : Obstacle) (start length : Nat), obstacle.Met machine →
        obstacle.block? machine = some (start, length) →
          obstacle.fault machine = .outsideMemory (max start 4096) ∧
            IsLeast { address | start ≤ address ∧ address < start + length ∧ 4096 ≤ address }
              (max start 4096) := by
  refine ⟨⟨?_, ?_⟩, fun _ => Obstacle.fault?_of_met, ?_⟩
  · intro failed
    obtain ⟨fault, failed⟩ := Option.isSome_iff_exists.mp failed
    obtain ⟨obstacle, met⟩ := Obstacle.exists_met_of_fault failed
    exact ⟨obstacle, met, fun _ met' => Obstacle.eq_of_met met' met⟩
  · rintro ⟨obstacle, met, -⟩
    rw [Obstacle.fault?_of_met met]
    rfl
  · intro obstacle start length met asked
    obtain ⟨named, some, beyond⟩ := Obstacle.beyond_of_met met asked
    exact ⟨named, Obstacle.isLeast_outside some beyond⟩

end Chip8
