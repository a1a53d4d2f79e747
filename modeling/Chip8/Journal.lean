import Chip8.Machine.History
import Chip8.Runner

/-!
# The journal

What a machine, its runner and a session report about themselves, one line for
each event. The machine holds no journal: the events of an action follow from
the machine before it, and those of a run from the readings that it takes.
-/

namespace Chip8

inductive Event where
  | romLoaded (size : Nat)
  | romRead (size : Nat) (path : String)
  | fetched (address : Address) (opcode : Word)
  | routineIgnored (address : Address)
  | pressIgnored (key : Byte)
  | releaseIgnored (key : Byte)
  | batchDone (size : Nat) (pause : Nanoseconds)
  | timeReached (elapsed : Nanoseconds)
  | runnerStarted (speed : UInt32)
  | runnerStopped (address : Address)
  | runnerAborted (address : Address) (fault : Fault)
deriving DecidableEq, Repr

inductive Event.Level where
  | error
  | warning
  | information
  | detail
  | trace
deriving DecidableEq, Repr

namespace Event

namespace Level

def label : Level → String
  | .error => "ERROR"
  | .warning => "WARN"
  | .information => "INFO"
  | .detail => "DEBUG"
  | .trace => "TRACE"

/-- The most serious level comes first. -/
def rank : Level → Nat
  | .error => 0
  | .warning => 1
  | .information => 2
  | .detail => 3
  | .trace => 4

end Level

def level : Event → Level
  | .runnerAborted _ _ => .error
  | .pressIgnored _ | .releaseIgnored _ => .warning
  | .romLoaded _ | .romRead _ _ | .timeReached _ | .runnerStarted _ | .runnerStopped _ =>
      .information
  | .routineIgnored _ | .batchDone _ _ => .detail
  | .fetched _ _ => .trace

/-- The digits behind the point, without zeros at the end, for a part of a unit of `10 ^ places`. -/
def fraction (places part : Nat) : String :=
  let digits := (Nat.toDigits 10 part).reverse
  let padded := digits ++ List.replicate (places - digits.length) '0'
  match padded.dropWhile (· == '0') with
  | [] => ""
  | kept => "." ++ String.ofList kept.reverse

/-- A time in the largest unit that it fills. -/
def timeText (time : Nanoseconds) : String :=
  let inUnit (unit places : Nat) (name : String) : String :=
    toString (time / unit) ++ fraction places (time % unit) ++ name
  if oneSecond ≤ time then inUnit oneSecond 9 "s"
  else if 1000000 ≤ time then inUnit 1000000 6 "ms"
  else if 1000 ≤ time then inUnit 1000 3 "µs"
  else inUnit 1 0 "ns"

def text : Event → String
  | .romLoaded size => "Loaded ROM of " ++ toString size ++ " bytes."
  | .romRead size path => "Read " ++ toString size ++ " bytes from " ++ path ++ "."
  | .fetched address opcode =>
      Hexadecimal.padded 4 address.toNat ++ ": " ++ Hexadecimal.padded 4 opcode.toNat
  | .routineIgnored address =>
      "Ignoring machine code routine at " ++ Hexadecimal.marked 3 address.toNat ++ "."
  | .pressIgnored key =>
      "Ignoring press of unknown key " ++ Hexadecimal.marked 2 key.toNat ++ "."
  | .releaseIgnored key =>
      "Ignoring release of unknown key " ++ Hexadecimal.marked 2 key.toNat ++ "."
  | .batchDone size pause =>
      "Batch of " ++ toString size ++ " instructions done, sleeping " ++ timeText pause ++
        " per instruction."
  | .timeReached elapsed => "Run time of " ++ timeText elapsed ++ " reached."
  | .runnerStarted speed =>
      "Executor started at " ++ toString speed.toNat ++ " instructions per second."
  | .runnerStopped address =>
      "Executor stopped at " ++ Hexadecimal.marked 3 address.toNat ++ "."
  | .runnerAborted address fault =>
      "Executor aborted at " ++ Hexadecimal.marked 3 address.toNat ++ ": " ++ fault.message

/-- An event as a line of the journal. -/
def line (event : Event) : String := event.level.label ++ " " ++ event.text

end Event

namespace Machine

/-- What the next step reports: the opcode, and a routine that is not there. -/
def stepEvents (machine : Machine) : List Event :=
  match machine.fetch with
  | .error _ => []
  | .ok opcode =>
      .fetched machine.programCounter opcode ::
        match Instruction.decode opcode with
        | .ok (.nativeRoutine address) => [.routineIgnored address]
        | _ => []

def loadEvents (machine : Machine) (rom : Rom) : List Event :=
  match (machine.load rom).error? with
  | some _ => []
  | none => [.romLoaded rom.length]

/-- What an action reports that is done to a machine. -/
def events (machine : Machine) : Action → List Event
  | .step => machine.stepEvents
  | .tick => []
  | .press key => if Keypad.hasKey key then [] else [.pressIgnored key]
  | .release key => if Keypad.hasKey key then [] else [.releaseIgnored key]
  | .load rom => machine.loadEvents rom

end Machine

/-- What reading a program from a file reports. -/
def Rom.readEvents (path : String) (rom : Rom) : List Event := [.romRead rom.length path]

namespace Runner

/-- What a runner reports when it starts at a speed. -/
def startEvents (speed : UInt32) : List Event := [.runnerStarted speed]

/-- What a runner reports once it has come to an end. -/
def endEvents (runner : Runner) : Progress → List Event
  | .running => []
  | .stopped => [.runnerStopped runner.machine.programCounter]
  | .failed fault => [.runnerAborted runner.machine.programCounter fault]

/-- What a runner reports when it counts an instruction: the end of a batch. -/
def countEvents (runner : Runner) (elapsed : Nanoseconds) : List Event :=
  if runner.position + 1 < runner.pace.batchSize then []
  else [.batchDone runner.pace.batchSize (runner.pace.adjust elapsed).pause]

/-- What a runner reports when it takes a reading. -/
def turnEvents (runner : Runner) (reading : Reading) : List Event :=
  if reading.stop then []
  else
    runner.machine.stepEvents ++
      match runner.machine.step.fault? with
      | some _ => []
      | none => runner.countEvents reading.elapsed

/-- What a runner reports while it takes readings, its end included. -/
def runEvents : Runner → List Reading → List Event
  | _, [] => []
  | runner, reading :: rest =>
      runner.turnEvents reading ++
        match runner.turn reading with
        | (next, .running) => runEvents next rest
        | (ended, progress) => ended.endEvents progress

end Runner

end Chip8
