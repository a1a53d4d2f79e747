import Chip8.Machine.Step

/-!
# What happens to a machine

A machine steps, its timers tick, keys go up and down, and programs are put in
place. A history is a list of such events; a fault does not end it.
-/

namespace Chip8

inductive Action where
  | step
  | tick
  | press (key : Byte)
  | release (key : Byte)
  | load (rom : Rom)
deriving DecidableEq, Repr

namespace Machine

/-- The machine after an action; a program that does not fit changes nothing. -/
def perform (machine : Machine) : Action → Machine
  | .step => machine.step.machine
  | .tick => machine.tick
  | .press key => machine.press key
  | .release key => machine.release key
  | .load rom => (machine.load rom).machine

def run (machine : Machine) (actions : List Action) : Machine := actions.foldl perform machine

/-- The machine after a number of steps, whatever they come to. -/
def after (machine : Machine) (count : Nat) : Machine := machine.run (List.replicate count .step)

/-- The faults of the steps of a history, `none` for a step that succeeds. -/
def stepFaults : Machine → List Action → List (Option Fault)
  | _, [] => []
  | machine, .step :: rest => machine.step.fault? :: stepFaults machine.step.machine rest
  | machine, action :: rest => stepFaults (machine.perform action) rest

/-- The machines that some history leads to, from the start of some program. -/
inductive Reachable : Machine → Prop where
  | boot {random : RandomSource} {rom : Rom} {machine : Machine} :
      Machine.boot random rom = .ok machine → Reachable machine
  | perform {machine : Machine} (action : Action) :
      Reachable machine → Reachable (machine.perform action)

theorem perform_load_of_fits (machine : Machine) {rom : Rom} (fits : rom.length ≤ Rom.capacity) :
    machine.perform (.load rom) =
      { machine with memory := machine.memory.overlay loadAddress.toNat rom } :=
  congrArg Loading.machine (load_of_fits machine fits)

theorem perform_load_of_large (machine : Machine) {rom : Rom} (large : Rom.capacity < rom.length) :
    machine.perform (.load rom) = machine :=
  congrArg Loading.machine (load_of_large machine large)

/-- Putting a program in place changes the memory at most. -/
theorem perform_load (machine : Machine) (rom : Rom) :
    ∃ memory, machine.perform (.load rom) = { machine with memory := memory } := by
  rcases Nat.lt_or_ge Rom.capacity rom.length with large | fits
  · exact ⟨machine.memory, perform_load_of_large machine large⟩
  · exact ⟨_, perform_load_of_fits machine fits⟩

theorem perform_step (machine : Machine) : machine.perform .step = machine.step.machine := rfl

theorem run_cons (machine : Machine) (action : Action) (rest : List Action) :
    machine.run (action :: rest) = (machine.perform action).run rest :=
  rfl

theorem run_append (machine : Machine) (first second : List Action) :
    machine.run (first ++ second) = (machine.run first).run second :=
  List.foldl_append

theorem run_concat (machine : Machine) (actions : List Action) (action : Action) :
    machine.run (actions ++ [action]) = (machine.run actions).perform action :=
  run_append machine actions [action]

theorem run_take_succ {machine : Machine} {actions : List Action} {action : Action} {n : Nat}
    (here : actions[n]? = some action) :
    machine.run (actions.take (n + 1)) = (machine.run (actions.take n)).perform action := by
  rw [List.take_add_one, here, Option.toList_some, run_concat]

theorem run_take_drop (machine : Machine) (actions : List Action) (n : Nat) :
    (machine.run (actions.take n)).run (actions.drop n) = machine.run actions := by
  rw [← run_append, List.take_append_drop]

theorem after_succ (machine : Machine) (count : Nat) :
    machine.after (count + 1) = (machine.after count).step.machine := by
  rw [after, List.replicate_succ', run_append]
  rfl

theorem stepFaults_cons (machine : Machine) (action : Action) (rest : List Action) :
    machine.stepFaults (action :: rest) =
      (if action = .step then [machine.step.fault?] else []) ++
        (machine.perform action).stepFaults rest := by
  cases action <;> rfl

theorem Reachable.step {machine : Machine} (reachable : Reachable machine) :
    Reachable machine.step.machine :=
  reachable.perform .step

theorem Reachable.run {machine : Machine} (reachable : Reachable machine)
    (actions : List Action) : Reachable (machine.run actions) := by
  induction actions generalizing machine with
  | nil => exact reachable
  | cons action rest ih => exact ih (reachable.perform action)

end Machine

end Chip8
