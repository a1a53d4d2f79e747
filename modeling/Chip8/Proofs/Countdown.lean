import Chip8.Proofs.Footprint
import Chip8.Proofs.LastEvent
import Chip8.Proofs.Programs

/-!
# Counting down

A timer shows the value that it was set to last, less the ticks since then, and
never less than zero. Only the step that sets a timer and the tick concern it:
the two timers know nothing of each other, nor of faults, keys and programs put
in place. A program that reads the delay gets what that timer shows.
-/

namespace Chip8

inductive Timer where
  | delay
  | sound
deriving DecidableEq, Repr

namespace Timer

def shown (timers : Timers) : Timer → Byte
  | .delay => timers.delay
  | .sound => timers.sound

def setter (x : Register) : Timer → Instruction
  | .delay => .setDelay x
  | .sound => .setSound x

/-- The opcode that sets a timer, without its register. -/
def form : Timer → Word
  | .delay => 0xF015
  | .sound => 0xF018

/-- The mark that setting a timer leaves. -/
def mark : Timer → Mark
  | .delay => .delay
  | .sound => .sound

variable {timer : Timer}

theorem forms_mark (timer : Timer) : timer.mark.forms = [⟨0xF0FF, timer.form⟩] := by
  cases timer <;> rfl

theorem toNat_shown_tick (timer : Timer) (timers : Timers) :
    (timer.shown timers.tick).toNat = (timer.shown timers).toNat - 1 := by
  cases timer with
  | delay => exact Timers.toNat_countDown _
  | sound => exact Timers.toNat_countDown _

theorem decode_setter {opcode : Word} (form : opcode &&& 0xF0FF = timer.form) :
    Instruction.decode opcode = .ok (timer.setter (opcode.nibble 8)) := by
  cases timer with
  | delay =>
      have mem : Pattern.register 0xF015 .setDelay ∈ opcodeTable := by simp [opcodeTable]
      exact decode_of_form mem form
  | sound =>
      have mem : Pattern.register 0xF018 .setSound ∈ opcodeTable := by simp [opcodeTable]
      exact decode_of_form mem form

end Timer

namespace Machine

variable {start machine : Machine} {actions : List Action} {action : Action} {timer : Timer}
  {n : Nat} {count : Nat}

/-- The action is a step that sets a timer. -/
def Sets (timer : Timer) (machine : Machine) (action : Action) : Prop :=
  action = .step ∧ machine.Fetches ∧ machine.opcode &&& 0xF0FF = timer.form

/-- The next step reads the delay. -/
def ReadsDelay (machine : Machine) : Prop :=
  machine.Fetches ∧ machine.opcode &&& 0xF0FF = 0xF007

/-! ## One action -/

theorem shown_of_sets (sets : machine.Sets timer action) :
    timer.shown (machine.perform action).timers = machine.value machine.operandX := by
  obtain ⟨rfl, fetches, form⟩ := sets
  change timer.shown machine.step.machine.timers = _
  rw [step_of_decode fetches (Timer.decode_setter form)]
  cases timer <;> rfl

/-- A step that changes what a timer shows sets that timer. -/
theorem sets_of_shown_ne
    (changed : timer.shown machine.step.machine.timers ≠ timer.shown machine.timers) :
    machine.Sets timer .step := by
  have leaves : machine.Leaves timer.mark := by
    refine leaves_of_ne (fun machine => timer.shown machine.timers) ?_ rfl changed
    intro before after marks
    cases timer <;> rfl
  obtain ⟨done, form, listed, fits⟩ := leaves
  rw [Timer.forms_mark] at listed
  obtain rfl := List.mem_singleton.mp listed
  obtain ⟨instruction, carries⟩ := exists_carries done
  exact ⟨rfl, carries.fetches, fits⟩

/-- An action that does not set a timer counts it down if it is a tick, and leaves it otherwise. -/
theorem shown_of_not_sets (other : ¬ machine.Sets timer action) :
    (timer.shown (machine.perform action).timers).toNat =
      (timer.shown machine.timers).toNat - [action].count .tick := by
  cases action with
  | step =>
      have kept : timer.shown machine.step.machine.timers = timer.shown machine.timers := by
        by_contra changed
        exact other (sets_of_shown_ne changed)
      exact congrArg UInt8.toNat kept
  | tick => exact timer.toNat_shown_tick machine.timers
  | press key => rfl
  | release key => rfl
  | load rom =>
      obtain ⟨memory, same⟩ := machine.perform_load rom
      rw [same]
      rfl

/-! ## Histories -/

/-- What remains on a timer after a history: zero as long as it has not been set, and then the value
that it was set to last, less the ticks since. -/
inductive Remains (start : Machine) (actions : List Action) (timer : Timer) (count : Nat) :
    Prop where
  | unset (never : ∀ n, ¬ start.HappensAt actions (Sets timer) n) (none : count = 0)
  | counting (n : Nat) (last : start.HappensLastAt actions (Sets timer) n)
      (left : count = ((start.run (actions.take n)).value
        (start.run (actions.take n)).operandX).toNat - (actions.drop (n + 1)).count .tick)

theorem Remains.unique {other : Nat} (first : start.Remains actions timer count)
    (second : start.Remains actions timer other) : count = other := by
  cases first with
  | unset never none =>
      cases second with
      | unset never' none' => rw [none, none']
      | counting n last left => exact absurd last.happens (never n)
  | counting n last left =>
      cases second with
      | unset never none => exact absurd last.happens (never n)
      | counting m last' left' =>
          obtain rfl := last.unique last'
          rw [left, left']

/-- As long as a timer is not set, each tick counts it down. -/
theorem shown_run (never : ∀ n, ¬ start.HappensAt actions (Sets timer) n) :
    (timer.shown (start.run actions).timers).toNat =
      (timer.shown start.timers).toNat - actions.count .tick := by
  induction actions generalizing start with
  | nil => rfl
  | cons action rest ih =>
      obtain ⟨other, later⟩ := never_cons_iff.mp never
      rw [run_cons, ih later, shown_of_not_sets other, Nat.sub_sub, ← List.count_append,
        List.singleton_append]

/-- From a machine whose timers are at zero, timers follow their histories. -/
theorem run_remains (fresh : start.timers = Timers.blank) (timer : Timer) (actions : List Action) :
    start.Remains actions timer (timer.shown (start.run actions).timers).toNat := by
  rcases start.never_or_happensLastAt actions (Sets timer) with never | ⟨n, last⟩
  · refine .unset never ?_
    rw [shown_run never, fresh]
    cases timer <;> exact Nat.zero_sub _
  · refine .counting n last ?_
    obtain ⟨action, here, sets⟩ := last.happens
    rw [← run_take_drop start actions (n + 1), shown_run last.never_behind, run_take_succ here,
      shown_of_sets sets]

theorem step_of_readsDelay (reads : machine.ReadsDelay) :
    machine.step = .done (machine.advance.setRegister machine.operandX machine.timers.delay) := by
  have mem : Pattern.register 0xF007 .readDelay ∈ opcodeTable := by simp [opcodeTable]
  exact step_of_decode reads.1 (decode_of_form mem reads.2)

/-- What the timers show after a history, and what a program that reads the delay gets. -/
structure KeepsTime (start : Machine) (actions : List Action) : Prop where
  shown : ∀ timer count, start.Remains actions timer count ↔
    (timer.shown (start.run actions).timers).toNat = count
  read : (start.run actions).ReadsDelay →
    (start.run actions).step.fault? = none ∧
      start.Remains actions .delay
        ((start.run actions).step.machine.value (start.run actions).operandX).toNat

/-- Whatever has happened to a machine, its timers show the values set last less the ticks since. -/
theorem run_keepsTime {random : RandomSource} {rom : Rom} (booted : boot random rom = .ok start)
    (actions : List Action) : start.KeepsTime actions := by
  have fresh : start.timers = Timers.blank := by
    rw [eq_of_boot booted]
    rfl
  have remains := fun timer => run_remains fresh timer actions
  constructor
  case shown =>
    intro timer count
    constructor
    · exact (remains timer).unique
    · rintro rfl
      exact remains timer
  case read =>
    intro reads
    rw [step_of_readsDelay reads]
    refine ⟨rfl, ?_⟩
    have stored : ((start.run actions).advance.setRegister (start.run actions).operandX
        (start.run actions).timers.delay).value (start.run actions).operandX =
          (start.run actions).timers.delay :=
      value_setRegister_self _ _ _
    exact (congrArg UInt8.toNat stored).symm ▸ remains .delay

/-- Sets the delay to five and reads it. -/
def delayProgram : Rom := [0x60, 0x05, 0xF0, 0x15, 0xF1, 0x07]

theorem delayProgram_sets {random : RandomSource} (booted : boot random delayProgram = .ok start) :
    (start.after 2).StandsIn delayProgram 4 ∧ (start.after 2).timers.delay = 5 := by
  have first := standsIn_of_boot booted
  have loads : start.step = .done (start.advance.setRegister 0 5) :=
    first.step (by decide) (by decide) (rfl : Instruction.decode 0x6005 = .ok (.set 0 5))
  have second : start.step.machine.StandsIn delayProgram 2 := by
    rw [loads]
    exact first.onward (by decide) rfl rfl
  have value : start.step.machine.value 0 = 5 := by
    rw [loads]
    exact value_setRegister_self _ _ _
  have sets : start.step.machine.step = start.step.machine.advance.execute (.setDelay 0) :=
    second.step (by decide) (by decide) (rfl : Instruction.decode 0xF015 = .ok (.setDelay 0))
  have both : start.after 2 = start.step.machine.step.machine := rfl
  rw [both, sets]
  exact ⟨second.onward (by decide) rfl rfl, value⟩

theorem delayProgram_reads {random : RandomSource} (booted : boot random delayProgram = .ok start) :
    (start.run (List.replicate 2 .step ++ [.tick, .press 3, .tick])).ReadsDelay ∧
      Timer.delay.shown (start.run (List.replicate 2 .step ++ [.tick, .press 3, .tick])).timers =
        3 := by
  obtain ⟨stands, set⟩ := delayProgram_sets booted
  rw [run_append, ← after]
  generalize start.after 2 = machine at stands set ⊢
  have opcode := stands.opcode (by decide)
  refine ⟨⟨stands.fetches (by decide), ?_⟩, ?_⟩
  · exact (congrArg (· &&& 0xF0FF) opcode).trans (by decide)
  · change Timers.countDown (Timers.countDown machine.timers.delay) = 3
    rw [set]
    decide

/-- Two ticks after the delay was set to five, three remain. -/
theorem run_keepsTime_two_ticks :
    let start := { blank (.ofSeed 0) with
      memory := firmware.overlay loadAddress.toNat delayProgram }
    let actions := List.replicate 2 .step ++ [.tick, .press 3, .tick]
    boot (.ofSeed 0) delayProgram = .ok start ∧ (start.run actions).ReadsDelay ∧
      start.Remains actions .delay 3 ∧ start.KeepsTime actions := by
  intro start actions
  have booted : boot (.ofSeed 0) delayProgram = .ok start := rfl
  have keeps := run_keepsTime booted actions
  obtain ⟨reads, delay⟩ := delayProgram_reads booted
  exact ⟨booted, reads, (keeps.shown .delay 3).mpr (congrArg UInt8.toNat delay), keeps⟩

end Machine

end Chip8
