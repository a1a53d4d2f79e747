import Chip8.Machine.History
import Chip8.Proofs.Stepping

/-!
# The machine and its surroundings

Keypad, timers and random source surround the machine proper. Each of them
concerns a few instructions; every other instruction neither looks at them nor
changes them. So a tick or a key event commutes with each step that does not
carry out an instruction of the same part.
-/

namespace Chip8

/-- The parts of a machine that surround its memory, registers and screen. -/
inductive Part where
  | keypad
  | timers
  | random
deriving DecidableEq, Repr

/-- The surrounding part that an instruction looks at or changes. -/
def Instruction.part? : Instruction → Option Part
  | .skipIfDown _ => some .keypad
  | .skipUnlessDown _ => some .keypad
  | .awaitKey _ => some .keypad
  | .readDelay _ => some .timers
  | .setDelay _ => some .timers
  | .setSound _ => some .timers
  | .random _ _ => some .random
  | _ => none

/-- The part that an action from outside changes. -/
def Action.part? : Action → Option Part
  | .tick => some .timers
  | .press _ => some .keypad
  | .release _ => some .keypad
  | .step => none
  | .load _ => none

structure Surroundings where
  keypad : Keypad
  timers : Timers
  random : RandomSource

def Machine.surroundings (machine : Machine) : Surroundings :=
  ⟨machine.keypad, machine.timers, machine.random⟩

/-- The machine in other surroundings. -/
def Machine.within (machine : Machine) (surroundings : Surroundings) : Machine :=
  { machine with
    keypad := surroundings.keypad
    timers := surroundings.timers
    random := surroundings.random }

namespace Outcome

def within (outcome : Outcome) (surroundings : Surroundings) : Outcome :=
  ⟨outcome.machine.within surroundings, outcome.fault?⟩

/-- The outcome with an action done to its machine. -/
def perform (outcome : Outcome) (action : Action) : Outcome :=
  ⟨outcome.machine.perform action, outcome.fault?⟩

end Outcome

namespace Machine

variable {machine : Machine} {instruction : Instruction} {action : Action} {part : Part}

/-! ## Instructions that no surrounding part concerns -/

theorem hindrance?_within (machine : Machine) (surroundings : Surroundings)
    (instruction : Instruction) :
    (machine.within surroundings).hindrance? instruction = machine.hindrance? instruction := by
  cases instruction <;> rfl

theorem skipWhen_within (machine : Machine) (surroundings : Surroundings) (condition : Bool) :
    (machine.within surroundings).skipWhen condition =
      (machine.skipWhen condition).within surroundings := by
  cases condition <;> rfl

theorem increaseIndex_within (machine : Machine) (surroundings : Surroundings) (x : Register) :
    (machine.within surroundings).increaseIndex x =
      (machine.increaseIndex x).within surroundings := by
  change { (if 0x0FFF < machine.index + (machine.value x).toUInt16 then
      (machine.within surroundings).setFlag true else machine.within surroundings) with
        index := machine.index + (machine.value x).toUInt16 } = _
  unfold increaseIndex
  dsimp only
  split <;> rfl

theorem effect_within (machine : Machine) (surroundings : Surroundings)
    (free : instruction.part? = none) :
    (machine.within surroundings).effect instruction =
      (machine.effect instruction).within surroundings := by
  cases instruction with
  | skipIfByte x value => exact skipWhen_within _ _ _
  | skipUnlessByte x value => exact skipWhen_within _ _ _
  | skipIfSame x y => exact skipWhen_within _ _ _
  | skipUnlessSame x y => exact skipWhen_within _ _ _
  | increaseIndex x => exact increaseIndex_within _ _ _
  | combine operation x y => cases operation <;> rfl
  | skipIfDown x => cases free
  | skipUnlessDown x => cases free
  | awaitKey x => cases free
  | readDelay x => cases free
  | setDelay x => cases free
  | setSound x => cases free
  | random x mask => cases free
  | _ => rfl

/-- An instruction that no surrounding part concerns does the same in all surroundings and leaves
them as they are. -/
theorem execute_within (machine : Machine) (surroundings : Surroundings)
    (free : instruction.part? = none) :
    (machine.within surroundings).execute instruction =
      (machine.execute instruction).within surroundings := by
  have hindrance := machine.hindrance?_within surroundings instruction
  cases hindered : machine.hindrance? instruction with
  | none =>
      rw [execute_of_clear hindered, execute_of_clear (hindrance.trans hindered),
        effect_within _ _ free]
      rfl
  | some fault =>
      rw [execute_of_hindrance hindered, execute_of_hindrance (hindrance.trans hindered)]
      rfl

theorem surroundings_execute (machine : Machine) (free : instruction.part? = none) :
    (machine.execute instruction).machine.surroundings = machine.surroundings := by
  have same := execute_within machine machine.surroundings free
  exact congrArg (fun outcome => outcome.machine.surroundings) same

/-! ## Actions from outside -/

/-- An action from outside changes the surroundings, and these alone. -/
theorem perform_eq_within (outside : action.part? = some part) :
    ∃ change : Surroundings → Surroundings, ∀ machine : Machine,
      machine.perform action = machine.within (change machine.surroundings) := by
  cases action with
  | tick => exact ⟨fun old => { old with timers := old.timers.tick }, fun _ => rfl⟩
  | press key => exact ⟨fun old => { old with keypad := old.keypad.press key }, fun _ => rfl⟩
  | release key => exact ⟨fun old => { old with keypad := old.keypad.release key }, fun _ => rfl⟩
  | step => cases outside
  | load rom => cases outside

theorem hindrance?_perform (outside : action.part? = some part) (machine : Machine)
    (instruction : Instruction) :
    (machine.perform action).hindrance? instruction = machine.hindrance? instruction := by
  obtain ⟨change, same⟩ := perform_eq_within outside
  rw [same]
  exact hindrance?_within _ _ _

theorem skipOnKey_tick (machine : Machine) (x : Register) (condition : Bool → Bool) :
    machine.tick.skipOnKey x condition = (machine.skipOnKey x condition).perform .tick := by
  change (if Keypad.hasKey (machine.value x) then
      Outcome.done (machine.tick.skipWhen (condition (machine.keypad.isDown (machine.value x))))
    else .failed machine.tick (.unknownKey (machine.value x))) = _
  unfold skipOnKey
  dsimp only
  cases Keypad.hasKey (machine.value x) with
  | false => rfl
  | true => cases condition (machine.keypad.isDown (machine.value x)) <;> rfl

theorem awaitKey_tick (machine : Machine) (x : Register) :
    machine.tick.awaitKey x = (machine.awaitKey x).tick := by
  have same : machine.tick.keypad.awaited? = machine.keypad.awaited? := rfl
  unfold awaitKey
  rw [same]
  cases machine.keypad.awaited? <;> rfl

/-- An action of the keypad changes the keypad, and it alone. -/
theorem perform_eq_keypad (outside : action.part? = some .keypad) :
    ∃ change : Keypad → Keypad, ∀ machine : Machine,
      machine.perform action = { machine with keypad := change machine.keypad } := by
  cases action with
  | press key => exact ⟨fun old => old.press key, fun _ => rfl⟩
  | release key => exact ⟨fun old => old.release key, fun _ => rfl⟩
  | tick => cases outside
  | step => cases outside
  | load rom => cases outside

theorem execute_tick (machine : Machine) (apart : instruction.part? ≠ some .timers)
    (concerned : instruction.part? ≠ none) :
    machine.tick.execute instruction = (machine.execute instruction).perform .tick := by
  cases instruction with
  | skipIfDown x => exact skipOnKey_tick _ _ _
  | skipUnlessDown x => exact skipOnKey_tick _ _ _
  | awaitKey x => exact congrArg Outcome.done (awaitKey_tick _ _)
  | random x mask => rfl
  | readDelay x => exact absurd rfl apart
  | setDelay x => exact absurd rfl apart
  | setSound x => exact absurd rfl apart
  | _ => exact absurd rfl concerned

theorem execute_keypad (machine : Machine) (outside : action.part? = some .keypad)
    (apart : instruction.part? ≠ some .keypad) (concerned : instruction.part? ≠ none) :
    (machine.perform action).execute instruction =
      (machine.execute instruction).perform action := by
  obtain ⟨change, same⟩ := perform_eq_keypad outside
  rw [Outcome.perform, same, same]
  cases instruction with
  | skipIfDown x => exact absurd rfl apart
  | skipUnlessDown x => exact absurd rfl apart
  | awaitKey x => exact absurd rfl apart
  | random x mask => rfl
  | readDelay x => rfl
  | setDelay x => rfl
  | setSound x => rfl
  | _ => exact absurd rfl concerned

/-- An action from outside commutes with an instruction that its part does not concern. -/
theorem execute_perform (machine : Machine) (outside : action.part? = some part)
    (apart : instruction.part? ≠ some part) :
    (machine.perform action).execute instruction =
      (machine.execute instruction).perform action := by
  by_cases free : instruction.part? = none
  · obtain ⟨change, same⟩ := perform_eq_within outside
    rw [Outcome.perform, same, same, execute_within _ _ free, surroundings_execute _ free]
    rfl
  · cases part with
    | keypad => exact execute_keypad machine outside apart free
    | timers =>
        cases action with
        | tick => exact execute_tick machine apart free
        | _ => cases outside
    | random => cases action <;> cases outside

/-! ## Steps -/

/-- What a step is about: its instruction, if it gets to one, and its fault, if it fails. -/
structure Record where
  instruction? : Option Instruction
  fault? : Option Fault
deriving DecidableEq, Repr

/-- The step has carried out an instruction that a part concerns. -/
def Record.Uses (record : Record) (part : Part) : Prop :=
  record.fault? = none ∧ record.instruction?.bind Instruction.part? = some part

instance (record : Record) (part : Part) : Decidable (record.Uses part) :=
  inferInstanceAs (Decidable (_ ∧ _))

/-- The record of the next step. -/
def record (machine : Machine) : Record := ⟨machine.pending?, machine.step.fault?⟩

theorem fetch_perform (outside : action.part? = some part) (machine : Machine) :
    (machine.perform action).fetch = machine.fetch := by
  obtain ⟨change, same⟩ := perform_eq_within outside
  rw [same]
  rfl

theorem advance_perform (outside : action.part? = some part) (machine : Machine) :
    (machine.perform action).advance = machine.advance.perform action := by
  obtain ⟨change, same⟩ := perform_eq_within outside
  rw [same, same]
  rfl

theorem pending?_perform (outside : action.part? = some part) (machine : Machine) :
    (machine.perform action).pending? = machine.pending? := by
  unfold pending?
  rw [fetch_perform outside]

/-- Whether a step fails, and how, does not depend on what happened outside. -/
theorem step_fault?_perform (outside : action.part? = some part) (machine : Machine) :
    (machine.perform action).step.fault? = machine.step.fault? := by
  unfold step
  rw [fetch_perform outside]
  cases machine.fetch with
  | error fault => rfl
  | ok opcode =>
      dsimp only
      cases Instruction.decode opcode with
      | error fault => rfl
      | ok instruction =>
          dsimp only
          rw [execute_fault?, execute_fault?, hindrance?_advance, hindrance?_advance,
            hindrance?_perform outside]

theorem record_perform (outside : action.part? = some part) (machine : Machine) :
    (machine.perform action).record = machine.record :=
  congrArg₂ Record.mk (pending?_perform outside machine) (step_fault?_perform outside machine)

theorem execute_perform_of_fault (machine : Machine) (outside : action.part? = some part)
    {fault : Fault} (failed : (machine.execute instruction).fault? = some fault) :
    (machine.perform action).execute instruction =
      (machine.execute instruction).perform action := by
  rw [execute_fault?] at failed
  have failed' := (hindrance?_perform outside machine instruction).trans failed
  rw [execute_of_hindrance failed, execute_of_hindrance failed']
  rfl

/-- An action from outside commutes with a step that does not use its part. -/
theorem step_perform (outside : action.part? = some part) (apart : ¬ machine.record.Uses part) :
    (machine.perform action).step = machine.step.perform action := by
  by_cases fetches : machine.Fetches
  · have fetched := fetch_of_fetches fetches
    have fetched' := (fetch_perform outside machine).trans fetched
    obtain ⟨fetches', same⟩ := fetches_of_fetch fetched'
    cases decoded : Instruction.decode machine.opcode with
    | error fault =>
        rw [step_of_decode_error fetches decoded, step_of_decode_error fetches' (same ▸ decoded),
          advance_perform outside]
        rfl
    | ok instruction =>
        rw [step_of_decode fetches decoded, step_of_decode fetches' (same ▸ decoded),
          advance_perform outside]
        cases failed : (machine.advance.execute instruction).fault? with
        | some fault => exact execute_perform_of_fault _ outside failed
        | none =>
            apply execute_perform _ outside
            intro concerned
            apply apart
            constructor
            · change machine.step.fault? = none
              rw [step_of_decode fetches decoded]
              exact failed
            · change machine.pending?.bind Instruction.part? = some part
              rw [pending?_eq_some_iff.mpr ⟨fetches, decoded⟩]
              exact concerned
  · have beyond : ¬ (machine.perform action).Fetches := by
      intro fetches'
      have fetched := (fetch_perform outside machine).symm.trans (fetch_of_fetches fetches')
      exact fetches (fetches_of_fetch fetched).1
    have fault : (machine.perform action).fetchFault = machine.fetchFault := by
      obtain ⟨change, same⟩ := perform_eq_within outside
      rw [same]
      rfl
    rw [step_of_not_fetches fetches, step_of_not_fetches beyond, fault]
    rfl

end Machine

end Chip8
