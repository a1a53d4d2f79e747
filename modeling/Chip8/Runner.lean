import Chip8.Machine.Step

/-!
# Runners

A runner steps a machine at a chosen speed until its stop flag is raised or
a step fails. Flag and clock are read from outside: one reading is taken for
each instruction, and its time counts only at the end of a batch.

Instructions run in batches of one second's worth. After a batch, the time
that was not spent sleeping is measured, and what it leaves of a second is
spread over the instructions of the next batch. Times are in nanoseconds.
-/

namespace Chip8

abbrev Nanoseconds := Nat

def oneSecond : Nanoseconds := 1000000000

structure Pace where
  batchSize : Nat
  /-- How long to sleep before each instruction. -/
  pause : Nanoseconds
deriving DecidableEq, Repr

namespace Pace

/-- The first batch runs without pauses; a speed of zero counts as one. -/
def ofSpeed (speed : UInt32) : Pace := ⟨max speed.toNat 1, 0⟩

/-- The part of a measured time that the batch did not ask to sleep. -/
def busy (pace : Pace) (elapsed : Nanoseconds) : Nanoseconds :=
  elapsed - pace.pause * pace.batchSize

/-- Takes in how long the last batch took, its sleeps included. -/
def adjust (pace : Pace) (elapsed : Nanoseconds) : Pace :=
  { pace with pause := (oneSecond - pace.busy elapsed) / pace.batchSize }

theorem batchSize_pos (speed : UInt32) : 0 < (ofSpeed speed).batchSize :=
  Nat.lt_of_lt_of_le Nat.one_pos (Nat.le_max_right speed.toNat 1)

end Pace

structure Runner where
  machine : Machine
  pace : Pace
  /-- How many instructions of the current batch are done. -/
  position : Nat

/-- What a runner finds when it turns to the next instruction. -/
structure Reading where
  /-- The stop flag. -/
  stop : Bool
  /-- How long the current batch will have taken after this instruction. -/
  elapsed : Nanoseconds
deriving DecidableEq, Repr

/-- How far a runner has come. -/
inductive Progress where
  | running
  | stopped
  | failed (fault : Fault)
deriving DecidableEq, Repr, Inhabited

namespace Runner

def start (machine : Machine) (speed : UInt32) : Runner where
  machine := machine
  pace := Pace.ofSpeed speed
  position := 0

/-- Counts one instruction of the batch as done; the last one ends the batch. -/
def count (runner : Runner) (elapsed : Nanoseconds) : Runner :=
  if runner.position + 1 < runner.pace.batchSize then
    { runner with position := runner.position + 1 }
  else { runner with pace := runner.pace.adjust elapsed, position := 0 }

/-- Takes one reading: stops, or carries out one instruction. -/
def turn (runner : Runner) (reading : Reading) : Runner × Progress :=
  if reading.stop then (runner, .stopped)
  else
    let outcome := runner.machine.step
    let stepped := { runner with machine := outcome.machine }
    match outcome.fault? with
    | some fault => (stepped, .failed fault)
    | none => (stepped.count reading.elapsed, .running)

/-- Takes readings until the runner ends or there are no more of them. -/
def run : Runner → List Reading → Runner × Progress
  | runner, [] => (runner, .running)
  | runner, reading :: rest =>
      match runner.turn reading with
      | (next, .running) => run next rest
      | ended => ended

theorem turn_of_fault {runner : Runner} {fault : Fault}
    (failed : runner.machine.step.fault? = some fault) (elapsed : Nanoseconds) :
    runner.turn ⟨false, elapsed⟩ =
      ({ runner with machine := runner.machine.step.machine }, .failed fault) := by
  simp only [turn, failed, Bool.false_eq_true, if_false]

theorem turn_of_done {runner : Runner} (done : runner.machine.step.fault? = none)
    (elapsed : Nanoseconds) :
    runner.turn ⟨false, elapsed⟩ =
      ({ runner with machine := runner.machine.step.machine }.count elapsed, .running) := by
  simp only [turn, done, Bool.false_eq_true, if_false]

/-- A step that fails ends the run; later readings are not taken. -/
theorem run_of_fault {runner : Runner} {fault : Fault}
    (failed : runner.machine.step.fault? = some fault) (elapsed : Nanoseconds)
    (rest : List Reading) :
    runner.run (⟨false, elapsed⟩ :: rest) =
      ({ runner with machine := runner.machine.step.machine }, .failed fault) := by
  rw [run, turn_of_fault failed]

end Runner

end Chip8
