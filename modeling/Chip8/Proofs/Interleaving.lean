import Chip8.Proofs.Surroundings

/-!
# Interleavings

A program, a clock and a player act on one machine, each in its own order. As
long as the program carries out no instruction of the timers or the keypad, it
does not matter how their actions are interleaved.
-/

namespace Chip8

/-- What a player does. -/
inductive KeyEvent where
  | press (key : Byte)
  | release (key : Byte)
deriving DecidableEq, Repr

def KeyEvent.action : KeyEvent → Action
  | .press key => .press key
  | .release key => .release key

theorem KeyEvent.part?_action (event : KeyEvent) : event.action.part? = some .keypad := by
  cases event <;> rfl

/-- The actions interleave a number of steps, a number of ticks and a list of key events. -/
inductive Interleaves : (steps ticks : Nat) → List KeyEvent → List Action → Prop where
  | nil : Interleaves 0 0 [] []
  | step {steps ticks : Nat} {events : List KeyEvent} {actions : List Action} :
      Interleaves steps ticks events actions →
        Interleaves (steps + 1) ticks events (.step :: actions)
  | tick {steps ticks : Nat} {events : List KeyEvent} {actions : List Action} :
      Interleaves steps ticks events actions →
        Interleaves steps (ticks + 1) events (.tick :: actions)
  | key {steps ticks : Nat} {events : List KeyEvent} {actions : List Action} (event : KeyEvent) :
      Interleaves steps ticks events actions →
        Interleaves steps ticks (event :: events) (event.action :: actions)

namespace Machine

/-- The records of the steps of a history. -/
def records : Machine → List Action → List Record
  | _, [] => []
  | machine, .step :: rest => machine.record :: records machine.step.machine rest
  | machine, action :: rest => records (machine.perform action) rest

/-- The step uses neither the timers nor the keypad. -/
def Record.Quiet (record : Record) : Prop := ¬ record.Uses .timers ∧ ¬ record.Uses .keypad

instance (record : Record) : Decidable record.Quiet := inferInstanceAs (Decidable (_ ∧ _))

/-- The records of a number of steps with nothing in between. -/
def stepRecords (machine : Machine) (count : Nat) : List Record :=
  machine.records (List.replicate count .step)

variable {machine : Machine} {action : Action} {part : Part}

theorem stepRecords_succ (machine : Machine) (count : Nat) :
    machine.stepRecords (count + 1) =
      machine.record :: machine.step.machine.stepRecords count := rfl

theorem records_outside (outside : action.part? = some part) (rest : List Action) :
    machine.records (action :: rest) = (machine.perform action).records rest := by
  cases action with
  | step => cases outside
  | _ => rfl

theorem map_records (machine : Machine) (actions : List Action) :
    (machine.records actions).map Record.fault? = machine.stepFaults actions := by
  induction actions generalizing machine with
  | nil => rfl
  | cons action rest ih =>
      cases action with
      | step => exact congrArg (machine.step.fault? :: ·) (ih _)
      | _ => exact ih _

/-! ## An action before all steps -/

/-- The actions from outside that the steps may be mixed with. -/
theorem not_uses_of_quiet {record : Record} (quiet : record.Quiet)
    (mixed : part = .timers ∨ part = .keypad) : ¬ record.Uses part := by
  rcases mixed with rfl | rfl
  · exact quiet.1
  · exact quiet.2

theorem step_machine_perform (outside : action.part? = some part)
    (apart : ¬ machine.record.Uses part) :
    (machine.perform action).step.machine = machine.step.machine.perform action :=
  congrArg Outcome.machine (step_perform outside apart)

/-- An action from outside can as well come after quiet steps. -/
theorem after_perform (outside : action.part? = some part)
    (mixed : part = .timers ∨ part = .keypad) (count : Nat)
    (quiet : ∀ record ∈ machine.stepRecords count, record.Quiet) :
    (machine.perform action).stepRecords count = machine.stepRecords count ∧
      (machine.perform action).after count = (machine.after count).perform action := by
  induction count generalizing machine with
  | zero => exact ⟨rfl, rfl⟩
  | succ count ih =>
      rw [stepRecords_succ, List.forall_mem_cons] at quiet
      have moved := step_machine_perform outside (not_uses_of_quiet quiet.1 mixed)
      obtain ⟨records, last⟩ := ih quiet.2
      constructor
      · rw [stepRecords_succ, stepRecords_succ, record_perform outside, moved, records]
      · change (machine.perform action).step.machine.after count =
          (machine.step.machine.after count).perform action
        rw [moved, last]

/-- Steps that are quiet after an action from outside are quiet before it. -/
theorem quiet_of_perform (outside : action.part? = some part)
    (mixed : part = .timers ∨ part = .keypad) (count : Nat)
    (quiet : ∀ record ∈ (machine.perform action).stepRecords count, record.Quiet) :
    ∀ record ∈ machine.stepRecords count, record.Quiet := by
  induction count generalizing machine with
  | zero => exact quiet
  | succ count ih =>
      rw [stepRecords_succ, List.forall_mem_cons, record_perform outside] at quiet
      rw [step_machine_perform outside (not_uses_of_quiet quiet.1 mixed)] at quiet
      rw [stepRecords_succ, List.forall_mem_cons]
      exact ⟨quiet.1, ih quiet.2⟩

/-! ## Sorting an interleaving -/

theorem tick_perform_key (machine : Machine) (event : KeyEvent) :
    machine.tick.perform event.action = (machine.perform event.action).tick := by
  cases event <;> rfl

theorem ticks_perform_key (machine : Machine) (event : KeyEvent) (ticks : Nat) :
    (machine.perform event.action).run (List.replicate ticks .tick) =
      (machine.run (List.replicate ticks .tick)).perform event.action := by
  induction ticks generalizing machine with
  | zero => rfl
  | succ ticks ih =>
      change (machine.perform event.action).tick.run _ = (machine.tick.run _).perform _
      rw [← tick_perform_key, ih]

/-- What an interleaving comes to: first the steps, then the ticks, then the key events. -/
def sorted (machine : Machine) (steps ticks : Nat) (events : List KeyEvent) : Machine :=
  ((machine.after steps).run (List.replicate ticks .tick)).run (events.map KeyEvent.action)

variable {steps ticks : Nat} {events : List KeyEvent} {actions : List Action}

theorem run_eq_sorted (interleaved : Interleaves steps ticks events actions)
    (quiet : ∀ record ∈ machine.stepRecords steps, record.Quiet) :
    machine.records actions = machine.stepRecords steps ∧
      machine.run actions = machine.sorted steps ticks events := by
  induction interleaved generalizing machine with
  | nil => exact ⟨rfl, rfl⟩
  | step _ ih =>
      rw [stepRecords_succ, List.forall_mem_cons] at quiet
      obtain ⟨records, last⟩ := ih quiet.2
      exact ⟨congrArg (machine.record :: ·) records, last⟩
  | @tick steps ticks events actions _ ih =>
      have outside : Action.tick.part? = some .timers := rfl
      obtain ⟨moved, later⟩ := after_perform outside (.inl rfl) steps quiet
      obtain ⟨records, last⟩ := @ih (machine.perform .tick) (by rwa [moved])
      constructor
      · rw [records_outside outside, records, moved]
      · change (machine.perform .tick).run actions = _
        rw [last, sorted, later]
        rfl
  | @key steps ticks events actions event _ ih =>
      have outside := event.part?_action
      obtain ⟨moved, later⟩ := after_perform outside (.inr rfl) steps quiet
      obtain ⟨records, last⟩ := @ih (machine.perform event.action) (by rwa [moved])
      constructor
      · rw [records_outside outside, records, moved]
      · change (machine.perform event.action).run actions = _
        rw [last, sorted, later, ticks_perform_key]
        rfl

theorem quiet_of_interleaves (interleaved : Interleaves steps ticks events actions)
    (quiet : ∀ record ∈ machine.records actions, record.Quiet) :
    ∀ record ∈ machine.stepRecords steps, record.Quiet := by
  induction interleaved generalizing machine with
  | nil => exact quiet
  | step _ ih =>
      rw [records, List.forall_mem_cons] at quiet
      rw [stepRecords_succ, List.forall_mem_cons]
      exact ⟨quiet.1, ih quiet.2⟩
  | tick _ ih =>
      have outside : Action.tick.part? = some .timers := rfl
      exact quiet_of_perform outside (.inl rfl) _ (ih quiet)
  | key event _ ih =>
      rw [records_outside event.part?_action] at quiet
      exact quiet_of_perform event.part?_action (.inr rfl) _ (ih quiet)

/-- What does not depend on the order of steps, ticks and key events. -/
structure OrderFree (machine : Machine) : Prop where
  /-- Two interleavings of the same steps, ticks and key events come to the same, and so does each
  of their steps, if the steps of the first one use neither timers nor keypad. -/
  interleavings : ∀ {steps ticks : Nat} {events : List KeyEvent} {first second : List Action},
    Interleaves steps ticks events first → Interleaves steps ticks events second →
      (∀ record ∈ machine.records first, record.Quiet) →
        (∀ record ∈ machine.records second, record.Quiet) ∧
          machine.records second = machine.records first ∧
          machine.stepFaults second = machine.stepFaults first ∧
          machine.run second = machine.run first
  tick_step : ¬ machine.record.Uses .timers → machine.tick.step = machine.step.perform .tick
  key_step : ∀ event : KeyEvent, ¬ machine.record.Uses .keypad →
    (machine.perform event.action).step = machine.step.perform event.action
  tick_key : ∀ event : KeyEvent,
    machine.tick.perform event.action = (machine.perform event.action).tick

/-- Steps, ticks and key events that do not concern each other commute. -/
theorem order_free (machine : Machine) : machine.OrderFree where
  interleavings := by
    intro steps ticks events first second interleaved interleaved' quiet
    have plain := quiet_of_interleaves interleaved quiet
    obtain ⟨records, last⟩ := run_eq_sorted interleaved plain
    obtain ⟨records', last'⟩ := run_eq_sorted interleaved' plain
    have same : machine.records second = machine.records first := records'.trans records.symm
    refine ⟨?_, same, ?_, last'.trans last.symm⟩
    · rw [same]
      exact quiet
    · rw [← map_records, ← map_records, same]
  tick_step := step_perform (rfl : Action.tick.part? = some .timers)
  key_step := fun event => step_perform event.part?_action
  tick_key := tick_perform_key machine

/-- A key goes down and a tick goes by between, or after, an addition and an unknown opcode. -/
theorem order_free_addition :
    let machine := { blank (.ofStream fun _ => 0) with
      programCounter := 0
      memory := Memory.blank.overlay 0 [0x70, 0x01, 0x80, 0x08]
      timers := ⟨2, 1⟩ }
    let first := [Action.step, .press 3, .tick, .step]
    let second := [Action.step, .step, .tick, .press 3]
    ((∀ record ∈ machine.records first, record.Quiet) ∧
      machine.stepFaults first = [none, some (.unknownOpcode 0x8008)]) ∧
      machine.stepFaults second = machine.stepFaults first ∧
      machine.run second = machine.run first :=
  have interleaved : Interleaves 2 1 [.press 3] [.step, .press 3, .tick, .step] :=
    .step (.key (.press 3) (.tick (.step .nil)))
  have interleaved' : Interleaves 2 1 [.press 3] [.step, .step, .tick, .press 3] :=
    .step (.step (.tick (.key (.press 3) .nil)))
  ⟨⟨by decide +kernel, by decide +kernel⟩,
    ((order_free _).interleavings interleaved interleaved' (by decide +kernel)).2.2⟩

end Machine

end Chip8
