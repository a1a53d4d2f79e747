import Chip8.Proofs.Decoding
import Chip8.Proofs.Hindrance

/-!
# The stages of a step

A step fetches, reads and carries out. Each stage can end it; the last one ends
it on the machine whose program counter has moved on.
-/

namespace Chip8.Machine

/-- Both bytes of an opcode at the program counter lie in memory. -/
def Fetches (machine : Machine) : Prop := machine.programCounter.toNat + 2 ≤ Memory.size

instance (machine : Machine) : Decidable machine.Fetches := inferInstanceAs (Decidable (_ ≤ _))

/-- The two bytes at the program counter, the higher one first. -/
def opcode (machine : Machine) : Word :=
  Word.ofBytes [machine.memory.byte machine.programCounter.toNat,
    machine.memory.byte (machine.programCounter.toNat + 1)]

/-- The register that an opcode names in its second digit. -/
def operandX (machine : Machine) : Register := machine.opcode.nibble 8

/-- The register that an opcode names in its third digit. -/
def operandY (machine : Machine) : Register := machine.opcode.nibble 4

/-- The last digit of an opcode. -/
def operandN (machine : Machine) : Nat := machine.opcode.toNat % 16

/-- The fault of a fetch that reaches past memory. -/
def fetchFault (machine : Machine) : Fault := Memory.outside machine.programCounter

variable {machine : Machine}

theorem fetch_of_fetches (fetches : machine.Fetches) : machine.fetch = .ok machine.opcode := by
  rw [fetch, Memory.read_inside fetches]
  rfl

theorem fetch_of_not_fetches (beyond : ¬ machine.Fetches) :
    machine.fetch = .error machine.fetchFault := by
  rw [fetch, Memory.read_outside (Nat.lt_of_not_le beyond)]
  rfl

theorem fetches_of_fetch {opcode : Word} (fetched : machine.fetch = .ok opcode) :
    machine.Fetches ∧ machine.opcode = opcode := by
  by_cases fetches : machine.Fetches
  · rw [fetch_of_fetches fetches, Except.ok.injEq] at fetched
    exact ⟨fetches, fetched⟩
  · rw [fetch_of_not_fetches fetches] at fetched
    cases fetched

/-- While an opcode can be fetched, moving past it does not wrap. -/
theorem toNat_next_of_fetches (fetches : machine.Fetches) :
    machine.programCounter.next.toNat = machine.programCounter.toNat + 2 := by
  have below : machine.programCounter.toNat + 2 ≤ 4096 := fetches
  exact Address.toNat_next (by omega)

theorem step_of_not_fetches (beyond : ¬ machine.Fetches) :
    machine.step = .failed machine machine.fetchFault := by
  rw [step, fetch_of_not_fetches beyond]

theorem step_of_decode_error (fetches : machine.Fetches) {fault : Fault}
    (unreadable : Instruction.decode machine.opcode = .error fault) :
    machine.step = .failed machine.advance fault := by
  rw [step, fetch_of_fetches fetches]
  dsimp only
  rw [unreadable]

theorem step_of_decode (fetches : machine.Fetches) {instruction : Instruction}
    (decoded : Instruction.decode machine.opcode = .ok instruction) :
    machine.step = machine.advance.execute instruction := by
  rw [step, fetch_of_fetches fetches]
  dsimp only
  rw [decoded]

/-- An instruction that is hindered ends the step on the machine that has only moved on. -/
theorem step_of_hindrance (fetches : machine.Fetches) {instruction : Instruction} {fault : Fault}
    (decoded : Instruction.decode machine.opcode = .ok instruction)
    (hindered : machine.hindrance? instruction = some fault) :
    machine.step = .failed machine.advance fault := by
  rw [step_of_decode fetches decoded]
  rw [← hindrance?_advance] at hindered
  exact execute_of_hindrance hindered

theorem pending?_eq_some_iff {instruction : Instruction} :
    machine.pending? = some instruction ↔
      machine.Fetches ∧ Instruction.decode machine.opcode = .ok instruction := by
  unfold pending?
  by_cases fetches : machine.Fetches
  · rw [fetch_of_fetches fetches, and_iff_right fetches]
    dsimp only
    cases Instruction.decode machine.opcode with
    | error fault =>
        constructor
        · intro impossible
          cases impossible
        · intro impossible
          cases impossible
    | ok decoded =>
        rw [Except.ok.injEq]
        exact Option.some_inj
  · rw [fetch_of_not_fetches fetches]
    constructor
    · intro impossible
      cases impossible
    · rintro ⟨inside, -⟩
      exact absurd inside fetches

/-- Where a step can fail: in the fetch, in reading the opcode, or in carrying it out. -/
inductive FailsAt (machine : Machine) (fault : Fault) : Prop where
  | fetching (beyond : ¬ machine.Fetches) (same : machine.fetchFault = fault)
  | reading (fetches : machine.Fetches)
      (unreadable : Instruction.decode machine.opcode = .error fault)
  | executing (instruction : Instruction) (fetches : machine.Fetches)
      (decoded : Instruction.decode machine.opcode = .ok instruction)
      (hindered : machine.hindrance? instruction = some fault)

theorem failsAt_of_step {fault : Fault} (failed : machine.step.fault? = some fault) :
    machine.FailsAt fault := by
  by_cases fetches : machine.Fetches
  · cases decoded : Instruction.decode machine.opcode with
    | error cause =>
        rw [step_of_decode_error fetches decoded] at failed
        obtain rfl : cause = fault := Option.some.inj failed
        exact .reading fetches decoded
    | ok instruction =>
        rw [step_of_decode fetches decoded, execute_fault?, hindrance?_advance] at failed
        exact .executing instruction fetches decoded failed
  · rw [step_of_not_fetches fetches] at failed
    exact .fetching fetches (Option.some.inj failed)

/-- A step that succeeds carries one instruction out, which nothing hinders. -/
structure Carries (machine : Machine) (instruction : Instruction) : Prop where
  fetches : machine.Fetches
  decoded : Instruction.decode machine.opcode = .ok instruction
  clear : machine.hindrance? instruction = none

theorem Carries.step {instruction : Instruction} (carries : machine.Carries instruction) :
    machine.step = .done (machine.advance.effect instruction) := by
  rw [step_of_decode carries.fetches carries.decoded]
  exact execute_of_clear ((hindrance?_advance _ _).trans carries.clear)

theorem carries_iff {instruction : Instruction} :
    machine.Carries instruction ↔
      machine.pending? = some instruction ∧ machine.step.fault? = none := by
  rw [pending?_eq_some_iff]
  constructor
  · intro carries
    refine ⟨⟨carries.fetches, carries.decoded⟩, ?_⟩
    rw [carries.step]
    rfl
  · rintro ⟨⟨fetches, decoded⟩, done⟩
    rw [step_of_decode fetches decoded, execute_fault?, hindrance?_advance] at done
    exact ⟨fetches, decoded, done⟩

theorem carries_of_pending {instruction : Instruction}
    (pending : machine.pending? = some instruction)
    (clear : machine.hindrance? instruction = none) : machine.Carries instruction := by
  obtain ⟨fetches, decoded⟩ := pending?_eq_some_iff.mp pending
  exact ⟨fetches, decoded, clear⟩

theorem exists_carries (done : machine.step.fault? = none) :
    ∃ instruction, machine.Carries instruction := by
  by_cases fetches : machine.Fetches
  · cases decoded : Instruction.decode machine.opcode with
    | error fault =>
        rw [step_of_decode_error fetches decoded] at done
        cases done
    | ok instruction =>
        exact ⟨instruction,
          carries_iff.mpr ⟨pending?_eq_some_iff.mpr ⟨fetches, decoded⟩, done⟩⟩
  · rw [step_of_not_fetches fetches] at done
    cases done

theorem carries_of_decode (done : machine.step.fault? = none) {instruction : Instruction}
    (decoded : Instruction.decode machine.opcode = .ok instruction) :
    machine.Carries instruction := by
  obtain ⟨other, carries⟩ := exists_carries done
  obtain rfl := Except.ok.inj (carries.decoded.symm.trans decoded)
  exact carries

/-- A step that fails has at most moved past its opcode. -/
theorem machine_of_fault {fault : Fault} (failed : machine.step.fault? = some fault) :
    machine.step.machine = machine ∨ machine.step.machine = machine.advance := by
  cases failsAt_of_step failed with
  | fetching beyond same => exact .inl (congrArg Outcome.machine (step_of_not_fetches beyond))
  | reading fetches unreadable =>
      exact .inr (congrArg Outcome.machine (step_of_decode_error fetches unreadable))
  | executing instruction fetches decoded hindered =>
      exact .inr (congrArg Outcome.machine (step_of_hindrance fetches decoded hindered))

end Chip8.Machine
