import Chip8.Proofs.Control
import Chip8.Proofs.Surroundings

/-!
# Random bytes in a history

The only steps that take a byte from the random source are those that carry out
an opcode `CXKK`, and they take the next one. So a history takes as many bytes
as it carries out such opcodes, one after another, and two machines that differ
in their streams alone go the same way as long as the bytes they take agree.
-/

namespace Chip8

/-- The machine with another random source. -/
def Machine.reseeded (machine : Machine) (random : RandomSource) : Machine :=
  { machine with random := random }

def Outcome.reseeded (outcome : Outcome) (random : RandomSource) : Outcome :=
  ⟨outcome.machine.reseeded random, outcome.fault?⟩

theorem Instruction.eq_random_of_part? {instruction : Instruction}
    (concerned : instruction.part? = some .random) : ∃ x mask, instruction = .random x mask := by
  cases instruction with
  | random x mask => exact ⟨x, mask, rfl⟩
  | _ => cases concerned

namespace Machine

variable {machine start : Machine} {instruction : Instruction} {action : Action}

/-! ## Instructions that take no random byte -/

theorem skipWhen_reseeded (machine : Machine) (random : RandomSource) (condition : Bool) :
    (machine.reseeded random).skipWhen condition =
      (machine.skipWhen condition).reseeded random := by
  cases condition <;> rfl

theorem awaitKey_reseeded (machine : Machine) (random : RandomSource) (x : Register) :
    (machine.reseeded random).awaitKey x = (machine.awaitKey x).reseeded random := by
  have same : (machine.reseeded random).keypad.awaited? = machine.keypad.awaited? := rfl
  unfold awaitKey
  rw [same]
  cases machine.keypad.awaited? <;> rfl

theorem hindrance?_reseeded (machine : Machine) (random : RandomSource)
    (instruction : Instruction) :
    (machine.reseeded random).hindrance? instruction = machine.hindrance? instruction :=
  machine.hindrance?_within { machine.surroundings with random := random } instruction

theorem effect_reseeded (machine : Machine) (random : RandomSource)
    (apart : instruction.part? ≠ some .random) :
    (machine.reseeded random).effect instruction =
      (machine.effect instruction).reseeded random := by
  by_cases free : instruction.part? = none
  · have kept : (machine.effect instruction).surroundings = machine.surroundings := by
      have same := congrArg surroundings (effect_within machine machine.surroundings free)
      exact same
    have moved := effect_within machine { machine.surroundings with random := random } free
    refine Eq.trans moved ?_
    rw [← kept]
    rfl
  · cases instruction with
    | skipIfDown x => exact skipWhen_reseeded _ _ _
    | skipUnlessDown x => exact skipWhen_reseeded _ _ _
    | awaitKey x => exact awaitKey_reseeded _ _ _
    | readDelay x => rfl
    | setDelay x => rfl
    | setSound x => rfl
    | random x mask => exact absurd rfl apart
    | _ => exact absurd rfl free

/-- An instruction that takes no random byte does not depend on the random source. -/
theorem execute_reseeded (machine : Machine) (random : RandomSource)
    (apart : instruction.part? ≠ some .random) :
    (machine.reseeded random).execute instruction =
      (machine.execute instruction).reseeded random := by
  have hindrance := machine.hindrance?_reseeded random instruction
  cases hindered : machine.hindrance? instruction with
  | none =>
      rw [execute_of_clear hindered, execute_of_clear (hindrance.trans hindered),
        effect_reseeded machine random apart]
      rfl
  | some fault =>
      rw [execute_of_hindrance hindered, execute_of_hindrance (hindrance.trans hindered)]
      rfl

/-! ## Actions -/

/-- An action takes a random byte: it is a step whose opcode asks for one. -/
def Rolls (machine : Machine) (action : Action) : Prop :=
  action = .step ∧ machine.Fetches ∧ machine.opcode &&& 0xF000 = 0xC000

instance (machine : Machine) (action : Action) : Decidable (machine.Rolls action) :=
  inferInstanceAs (Decidable (_ ∧ _))

/-- How many random bytes an action takes. -/
def bytesTaken (machine : Machine) (action : Action) : Nat :=
  if machine.Rolls action then 1 else 0

/-- The low byte of an opcode. -/
def operandByte (machine : Machine) : Byte := (machine.opcode &&& 0x00FF).toUInt8

theorem step_of_rolls (rolls : machine.Rolls .step) :
    machine.step =
      .done (machine.advance.takeRandom machine.operandX machine.operandByte) := by
  obtain ⟨-, fetches, form⟩ := rolls
  exact step_of_decode fetches (decode_eq_random_iff.mpr ⟨form, rfl, rfl⟩)

theorem step_reseeded (quiet : ¬ machine.Rolls .step) (random : RandomSource) :
    (machine.reseeded random).step = machine.step.reseeded random := by
  by_cases fetches : machine.Fetches
  · have fetches' : (machine.reseeded random).Fetches := fetches
    cases decoded : Instruction.decode machine.opcode with
    | error fault =>
        rw [step_of_decode_error fetches decoded]
        exact step_of_decode_error fetches' decoded
    | ok instruction =>
        have apart : instruction.part? ≠ some .random := by
          intro concerned
          obtain ⟨x, mask, rfl⟩ := Instruction.eq_random_of_part? concerned
          exact quiet ⟨rfl, fetches, (decode_eq_random_iff.mp decoded).1⟩
        rw [step_of_decode fetches decoded]
        refine (step_of_decode fetches' decoded).trans ?_
        exact execute_reseeded machine.advance random apart
  · have beyond : ¬ (machine.reseeded random).Fetches := fetches
    rw [step_of_not_fetches fetches]
    exact step_of_not_fetches beyond

/-- Whether a step fails, and how, does not depend on the random source. -/
theorem step_fault?_reseeded (machine : Machine) (random : RandomSource) :
    (machine.reseeded random).step.fault? = machine.step.fault? := by
  by_cases rolls : machine.Rolls .step
  · have rolls' : (machine.reseeded random).Rolls .step := rolls
    rw [step_of_rolls rolls, step_of_rolls rolls']
    rfl
  · rw [step_reseeded rolls]
    rfl

theorem load_reseeded (machine : Machine) (random : RandomSource) (rom : Rom) :
    (machine.reseeded random).perform (.load rom) =
      (machine.perform (.load rom)).reseeded random := by
  change ((machine.reseeded random).load rom).machine = (machine.load rom).machine.reseeded random
  unfold load
  split <;> rfl

/-- An action that takes no random byte does not depend on the random source. -/
theorem perform_of_quiet (quiet : ¬ machine.Rolls action) (random : RandomSource) :
    (machine.reseeded random).perform action = (machine.perform action).reseeded random := by
  cases action with
  | step => exact congrArg Outcome.machine (step_reseeded quiet random)
  | load rom => exact load_reseeded machine random rom
  | _ => rfl

/-- An action that takes a random byte depends on the next byte of the source alone. -/
theorem perform_of_rolls (rolls : machine.Rolls action) {random : RandomSource}
    (agree : random.next = machine.random.next) :
    (machine.reseeded random).perform action =
      (machine.perform action).reseeded random.advance := by
  obtain rfl := rolls.1
  have rolls' : (machine.reseeded random).Rolls .step := rolls
  change (machine.reseeded random).step.machine = machine.step.machine.reseeded random.advance
  rw [step_of_rolls rolls, step_of_rolls rolls']
  change { (machine.reseeded random).advance.setRegister machine.operandX
      (random.next &&& machine.operandByte) with random := random.advance } = _
  rw [agree]
  rfl

/-- An action moves the random source on by the bytes that it takes. -/
theorem perform_random (machine : Machine) (action : Action) :
    (machine.perform action).random =
      ⟨machine.random.stream, machine.random.taken + machine.bytesTaken action⟩ := by
  by_cases rolls : machine.Rolls action
  · have same := congrArg Machine.random (perform_of_rolls rolls (Eq.refl machine.random.next))
    rw [bytesTaken, if_pos rolls]
    exact same
  · have same := congrArg Machine.random (perform_of_quiet rolls machine.random)
    rw [bytesTaken, if_neg rolls]
    exact same

/-- Where a second stream has the byte that an action takes, the action does the same on it. -/
theorem perform_reseeded {stream : Nat → Byte} {taken : Nat}
    (agree : machine.Rolls action → stream taken = machine.random.next) :
    (machine.reseeded ⟨stream, taken⟩).perform action =
      (machine.perform action).reseeded ⟨stream, taken + machine.bytesTaken action⟩ := by
  by_cases rolls : machine.Rolls action
  · rw [bytesTaken, if_pos rolls]
    exact perform_of_rolls rolls (agree rolls)
  · rw [bytesTaken, if_neg rolls]
    exact perform_of_quiet rolls _

/-! ## Histories -/

/-- How many random bytes a history takes: one for each opcode `CXKK` that it carries out. -/
def rollCount : Machine → List Action → Nat
  | _, [] => 0
  | machine, action :: rest => machine.bytesTaken action + rollCount (machine.perform action) rest

/-- A history moves the random source on by the bytes that it takes. -/
theorem run_random (machine : Machine) (actions : List Action) :
    (machine.run actions).random =
      ⟨machine.random.stream, machine.random.taken + machine.rollCount actions⟩ := by
  induction actions generalizing machine with
  | nil => rfl
  | cons action rest ih =>
      change ((machine.perform action).run rest).random = _
      rw [ih, perform_random, rollCount, Nat.add_assoc]

/-- One history on a machine and on its twin: all is the same but the random source, which is
`random` in the end. -/
structure RunsAlike (machine twin : Machine) (actions : List Action) (random : RandomSource) :
    Prop where
  faults : twin.stepFaults actions = machine.stepFaults actions
  count : twin.rollCount actions = machine.rollCount actions
  machines : twin.run actions = (machine.run actions).reseeded random

/-- As long as the bytes agree that a history takes, it does the same on both streams. -/
theorem run_reseeded {stream : Nat → Byte} {taken : Nat} {actions : List Action}
    (agree : ∀ i < machine.rollCount actions,
      stream (taken + i) = machine.random.stream (machine.random.taken + i)) :
    machine.RunsAlike (machine.reseeded ⟨stream, taken⟩) actions
      ⟨stream, taken + machine.rollCount actions⟩ := by
  induction actions generalizing machine taken with
  | nil => exact ⟨rfl, rfl, rfl⟩
  | cons action rest ih =>
      have first : machine.Rolls action → stream taken = machine.random.next := by
        intro rolls
        apply agree 0
        rw [rollCount, bytesTaken, if_pos rolls]
        omega
      have moved := perform_reseeded first
      have later : (machine.perform action).RunsAlike
          ((machine.perform action).reseeded ⟨stream, taken + machine.bytesTaken action⟩) rest
          ⟨stream, taken + machine.bytesTaken action +
            (machine.perform action).rollCount rest⟩ := by
        apply ih
        intro i inside
        rw [perform_random, Nat.add_assoc, Nat.add_assoc]
        apply agree
        rw [rollCount]
        omega
      constructor
      case faults =>
        rw [stepFaults_cons, stepFaults_cons, step_fault?_reseeded, moved, later.faults]
      case count =>
        have same : (machine.reseeded ⟨stream, taken⟩).bytesTaken action =
            machine.bytesTaken action := rfl
        rw [rollCount, rollCount, same, moved, later.count]
      case machines =>
        change ((machine.reseeded ⟨stream, taken⟩).perform action).run rest = _
        rw [moved, later.machines, rollCount, Nat.add_assoc]
        rfl

/-- What random bytes come to on a machine that was started from a program and a stream. -/
structure RollsInOrder (start : Machine) (stream : Nat → Byte) (rom : Rom) : Prop where
  /-- As many bytes are taken as opcodes `CXKK` are carried out. -/
  taken : ∀ actions, (start.run actions).random = ⟨stream, start.rollCount actions⟩
  /-- An opcode `CXKK` behind `j` others puts byte `j` into its register, masked. -/
  rolled : ∀ actions, (start.run actions).Rolls .step →
    (start.run actions).step = .done
      { (start.run actions).advance.setRegister (start.run actions).operandX
          (stream (start.rollCount actions) &&& (start.run actions).operandByte) with
        random := ⟨stream, start.rollCount actions + 1⟩ }
  /-- With the same program and a stream that agrees on the first `n` bytes, a history that takes
  no more of them does the same. -/
  alike : ∀ twin stream' n, boot (.ofStream stream') rom = .ok twin →
    (∀ i < n, stream' i = stream i) → ∀ actions, start.rollCount actions ≤ n →
      start.RunsAlike twin actions ⟨stream', start.rollCount actions⟩

theorem random_of_boot {random : RandomSource} {rom : Rom} (booted : boot random rom = .ok start) :
    start.random = random := by
  rw [eq_of_boot booted]
  rfl

/-- Two machines that start from the same program differ in their random sources alone. -/
theorem boot_reseeded {random random' : RandomSource} {rom : Rom} {twin : Machine}
    (booted : boot random rom = .ok start) (booted' : boot random' rom = .ok twin) :
    twin = start.reseeded random' := by
  rw [eq_of_boot booted, eq_of_boot booted']
  rfl

/-- Random bytes are taken one for each opcode that asks for one, in the order of the stream, and
nothing else depends on the stream. -/
theorem random_in_order {stream : Nat → Byte} {rom : Rom}
    (booted : boot (.ofStream stream) rom = .ok start) : start.RollsInOrder stream rom := by
  have source : start.random = .ofStream stream := random_of_boot booted
  have taken : ∀ actions, (start.run actions).random = ⟨stream, start.rollCount actions⟩ := by
    intro actions
    rw [run_random, source, RandomSource.ofStream, Nat.zero_add]
  constructor
  case taken => exact taken
  case rolled =>
    intro actions rolls
    have next : (start.run actions).advance.random = ⟨stream, start.rollCount actions⟩ :=
      taken actions
    rw [step_of_rolls rolls, takeRandom, next]
    rfl
  case alike =>
    intro twin stream' n booted' agree actions few
    have same : twin = start.reseeded ⟨stream', 0⟩ := boot_reseeded booted booted'
    have alike : start.RunsAlike (start.reseeded ⟨stream', 0⟩) actions
        ⟨stream', 0 + start.rollCount actions⟩ := by
      apply run_reseeded
      intro i inside
      rw [source, RandomSource.ofStream, Nat.zero_add]
      exact agree i (Nat.lt_of_lt_of_le inside few)
    rw [same, ← Nat.zero_add (start.rollCount actions)]
    exact alike

/-- A program that begins with a random byte for V3. -/
theorem random_in_order_first :
    let stream : Nat → Byte := fun place => .ofNat (7 * place + 5)
    let start := { blank (.ofStream stream) with
      memory := firmware.overlay loadAddress.toNat [0xC3, 0x0F, 0x12, 0x00] }
    boot (.ofStream stream) [0xC3, 0x0F, 0x12, 0x00] = .ok start ∧ start.Rolls .step ∧
      start.RollsInOrder stream [0xC3, 0x0F, 0x12, 0x00] := by
  intro stream start
  have booted : boot (.ofStream stream) [0xC3, 0x0F, 0x12, 0x00] = .ok start := rfl
  have opcode : start.opcode = 0xC30F := opcode_of_boot booted
  have fetches : start.Fetches := by decide
  exact ⟨booted, ⟨rfl, fetches, opcode ▸ by decide⟩, random_in_order booted⟩

end Machine

end Chip8
