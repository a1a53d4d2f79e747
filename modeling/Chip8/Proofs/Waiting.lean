import Chip8.Proofs.KeyHistory
import Chip8.Proofs.Programs

/-!
# Waiting for a key

A machine that waits for a key while none is down comes back to the same opcode
step after step. As long as no key goes down, only its timers tell that time has
passed, and the first key that does go down is taken at once.
-/

namespace Chip8

/-- The action takes no key down and puts no program in place. -/
def Action.isIdle : Action → Bool
  | .step => true
  | .tick => true
  | .press key => !Keypad.hasKey key
  | .release _ => true
  | .load _ => false

namespace Machine

variable {machine : Machine} {actions : List Action} {action : Action} {x : Register} {key : Byte}

/-- A machine that is about to wait for a key, with no key down. -/
structure WaitsIdly (machine : Machine) (x : Register) : Prop where
  pending : machine.pending? = some (.awaitKey x)
  counted : machine.keypad.Counted
  up : ∀ key, machine.keypad.isDown key = false

namespace WaitsIdly

/-- A step undoes its own advance. -/
theorem step (waits : machine.WaitsIdly x) : machine.step = .done machine :=
  step_of_unheld waits.pending (waits.counted.awaited?_eq_none_iff.mpr waits.up)

theorem tick (waits : machine.WaitsIdly x) : machine.tick.WaitsIdly x :=
  ⟨waits.pending, waits.counted, waits.up⟩

/-- No idle action but the tick is noticed. -/
theorem perform_eq (waits : machine.WaitsIdly x) (idle : action.isIdle = true)
    (other : action ≠ .tick) : machine.perform action = machine := by
  cases action with
  | step => exact congrArg Outcome.machine waits.step
  | tick => exact absurd rfl other
  | press key =>
      have unknown : Keypad.hasKey key = false := (Bool.not_eq_true' _).mp idle
      exact (unknown_key machine unknown).1
  | release key =>
      change machine.release key = machine
      rw [release, Keypad.release_of_up (waits.up key)]
  | load rom => cases idle

end WaitsIdly

/-- What idle actions come to on a machine that waits for a key. -/
structure Pauses (machine : Machine) (actions : List Action) (x : Register) : Prop where
  succeeds : ∀ fault? ∈ machine.stepFaults actions, fault? = none
  same : machine.run actions = machine.run (actions.filter (· == .tick))
  waits : (machine.run actions).WaitsIdly x
  counter : (machine.run actions).programCounter = machine.programCounter

theorem WaitsIdly.pauses (waits : machine.WaitsIdly x)
    (idle : ∀ action ∈ actions, action.isIdle = true) : machine.Pauses actions x := by
  induction actions generalizing machine with
  | nil => exact ⟨nofun, rfl, waits, rfl⟩
  | cons action rest ih =>
      have first := idle action List.mem_cons_self
      have later : ∀ action ∈ rest, action.isIdle = true :=
        fun action mem => idle action (List.mem_cons_of_mem _ mem)
      by_cases ticks : action = .tick
      · subst ticks
        obtain ⟨succeeds, same, waits, counter⟩ := ih waits.tick later
        exact ⟨succeeds, same, waits, counter⟩
      · have still := waits.perform_eq first ticks
        have run : machine.run (action :: rest) = machine.run rest :=
          congrArg (Machine.run · rest) still
        obtain ⟨succeeds, same, waits', counter⟩ := ih waits later
        constructor
        case succeeds =>
          rw [stepFaults_cons, still, waits.step]
          intro fault? mem
          rcases List.mem_append.mp mem with now | behind
          · split at now
            · exact List.mem_singleton.mp now
            · cases now
          · exact succeeds fault? behind
        case same =>
          rw [run, List.filter_cons_of_neg (by simpa using ticks)]
          exact same
        case waits => exact run ▸ waits'
        case counter => exact run ▸ counter

/-- The first key that goes down is the one that the machine has waited for. -/
theorem WaitsIdly.step_press (waits : machine.WaitsIdly x) (known : Keypad.hasKey key = true) :
    (machine.press key).step = .done ((machine.press key).advance.setRegister x key) := by
  have pending : (machine.press key).pending? = some (.awaitKey x) := waits.pending
  have down : (machine.keypad.press key).isDown key = true := by
    rw [Keypad.isDown_press, known, beq_self_eq_true, Bool.and_true, Bool.or_true]
  have last : (machine.keypad.press key).last = key := by
    rw [Keypad.press_of_up (Keypad.hasKey_iff.mp known) (waits.up key)]
  have held : (machine.press key).keypad.awaited? = some key := by
    have awaited := (waits.counted.press key).awaited?_eq_some_iff.mpr ⟨key, down⟩
    rwa [last] at awaited
  exact step_of_held pending held

/-- What a machine that waits for a key comes to by idle actions, and then by a key. -/
structure WaitsPerfectly (machine : Machine) (actions : List Action) (x : Register) : Prop where
  succeeds : ∀ fault? ∈ machine.stepFaults actions, fault? = none
  /-- Of all that has happened only the ticks are noticed. -/
  same : machine.run actions = machine.run (actions.filter (· == .tick))
  /-- A key that goes down now is put into the register, and nothing else happens but that the
  machine moves past its opcode. -/
  resumes : ∀ key : Byte, key.toNat < 16 →
    ((machine.run actions).press key).step = .done { (machine.run actions).press key with
      programCounter := machine.programCounter.next
      registers := (machine.run actions).registers.set x.val key x.isLt }
  counter : machine.programCounter.next.toNat = machine.programCounter.toNat + 2

/-- Waiting for a key is a pause that leaves no trace. -/
theorem wait_leaves_no_trace (reachable : Reachable machine) (fetches : machine.Fetches)
    (form : machine.opcode &&& 0xF0FF = 0xF00A) (up : ∀ key, machine.keypad.isDown key = false)
    (idle : ∀ action ∈ actions, action.isIdle = true) :
    machine.WaitsPerfectly actions machine.operandX := by
  have mem : Pattern.register 0xF00A .awaitKey ∈ opcodeTable := by simp [opcodeTable]
  have decoded := decode_of_form mem form
  have pending : machine.pending? = some (.awaitKey machine.operandX) :=
    pending?_eq_some_iff.mpr ⟨fetches, decoded⟩
  have pauses := WaitsIdly.pauses ⟨pending, reachable.sound.keypad, up⟩ idle
  constructor
  case succeeds => exact pauses.succeeds
  case same => exact pauses.same
  case resumes =>
    intro key known
    rw [pauses.waits.step_press (Keypad.hasKey_iff.mpr known), ← pauses.counter]
    rfl
  case counter => exact toNat_next_of_fetches fetches

/-- Jumps to the end of memory and waits there for a key. -/
def waitingProgram : Rom := 0x1F :: 0xFE :: (List.replicate 3580 0 ++ [0xF3, 0x0A])

theorem length_waitingProgram : waitingProgram.length = 3584 := by
  rw [waitingProgram, List.length_cons, List.length_cons, List.length_append, List.length_replicate]
  rfl

theorem getElem?_waitingProgram (offset : Nat) :
    waitingProgram[3582 + offset]? = ([0xF3, 0x0A] : Rom)[offset]? := by
  have place : 3582 + offset = 3580 + offset + 1 + 1 := by omega
  rw [waitingProgram, place, List.getElem?_cons_succ, List.getElem?_cons_succ,
    List.getElem?_append_right (by rw [List.length_replicate]; omega), List.length_replicate,
    Nat.add_sub_cancel_left]

theorem waitingProgram_waits {start : Machine} {random : RandomSource}
    (booted : boot random waitingProgram = .ok start) :
    start.step.machine.StandsIn waitingProgram 3582 ∧ start.step.machine.opcode = 0xF30A := by
  have first := standsIn_of_boot booted
  have jumps : start.step = start.advance.execute (.jump 0x0FFE) :=
    first.step (by rw [length_waitingProgram]; decide) (by rfl)
      (rfl : Instruction.decode 0x1FFE = .ok (.jump 0x0FFE))
  have stands : start.step.machine.StandsIn waitingProgram 3582 := by
    rw [jumps]
    exact ⟨first.fits, rfl, first.program⟩
  have inside : 3582 + 1 < waitingProgram.length := by
    rw [length_waitingProgram]
    decide
  have high : waitingProgram[3582] = 0xF3 :=
    Option.some.inj ((List.getElem?_eq_getElem _).symm.trans (getElem?_waitingProgram 0))
  have low : waitingProgram[3582 + 1] = 0x0A :=
    Option.some.inj ((List.getElem?_eq_getElem _).symm.trans (getElem?_waitingProgram 1))
  refine ⟨stands, ?_⟩
  rw [stands.opcode inside, high, low]
  decide

/-- A wait in the last two bytes of memory. -/
theorem wait_leaves_no_trace_last_address :
    let start := { blank (.ofSeed 0) with
      memory := firmware.overlay loadAddress.toNat waitingProgram }
    let machine := start.step.machine
    let actions := [.step, .tick, .release 4, .press 16, .step]
    Reachable machine ∧ machine.programCounter.toNat = 0x0FFE ∧ machine.opcode = 0xF30A ∧
      (∀ key, machine.keypad.isDown key = false) ∧
      (∀ action ∈ actions, action.isIdle = true) ∧ machine.WaitsPerfectly actions 3 := by
  intro start machine actions
  have booted : boot (.ofSeed 0) waitingProgram = .ok start :=
    boot_of_fits _ (Nat.le_of_eq length_waitingProgram)
  have reachable : Reachable machine := (Reachable.boot booted).step
  obtain ⟨stands, opcode⟩ := waitingProgram_waits booted
  have opcode : machine.opcode = 0xF30A := opcode
  have fetches : machine.Fetches := stands.fetches (by rw [length_waitingProgram]; decide)
  have operand : machine.operandX = 3 := congrArg (Word.nibble · 8) opcode
  have up : ∀ key, machine.keypad.isDown key = false := by
    intro key
    rw [show machine.keypad = start.keypad from step_keypad start]
    exact isDown_of_boot booted key
  have idle : ∀ action ∈ actions, action.isIdle = true := by decide
  have perfectly := wait_leaves_no_trace reachable fetches (opcode ▸ by decide) up idle
  exact ⟨reachable, stands.counter, opcode, up, idle, operand ▸ perfectly⟩

end Machine

end Chip8
