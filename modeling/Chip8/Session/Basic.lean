import Chip8.Journal
import Chip8.Screen.Picture

/-!
# Sessions

A session runs a runner and a front end side by side. The front end ticks
the timers, shows the screen when it has changed, and ends the session when
its time is over or when it finds that the runner has failed. Time is handed
in: each turn does what is due by then and says what to wait for.
-/

namespace Chip8

structure Settings where
  romPath : String
  /-- Instructions per second. -/
  speed : UInt32
  /-- Timer ticks and looks at the screen per second. -/
  frameRate : UInt32
  /-- Whether to print the screen whenever it changes. -/
  render : Bool
  /-- When to stop; a session without it ends with a fault. -/
  runTime? : Option Nanoseconds
deriving DecidableEq, Repr

namespace Settings

def standard : Settings where
  romPath := ""
  speed := 700
  frameRate := 60
  render := false
  runTime? := none

/-- The time from one look to the next; a rate of zero counts as one. -/
def lookInterval (settings : Settings) : Nanoseconds := oneSecond / max settings.frameRate.toNat 1

end Settings

/-- Reads the program and sets up a runner for it. Runner and front end take turns, so the system is
asked for no thread that it could refuse. -/
def Settings.start (settings : Settings) (read : String → Except SystemError (List Byte))
    (random : RandomSource) : Except RomError Runner :=
  match Rom.load read settings.romPath with
  | .error error => .error error
  | .ok rom => (Machine.boot random rom).map fun machine => Runner.start machine settings.speed

/-- What is reported when the program is read and a runner set up for it. -/
def Settings.startEvents (settings : Settings) (read : String → Except SystemError (List Byte))
    (random : RandomSource) : List Event :=
  match Rom.load read settings.romPath with
  | .error _ => []
  | .ok rom =>
      rom.readEvents settings.romPath ++ (Machine.blank random).loadEvents rom ++
        Runner.startEvents settings.speed

structure Session where
  settings : Settings
  runner : Runner
  /-- The fault that has ended the runner. -/
  fault? : Option Fault
  /-- The picture that was shown last. -/
  shown? : Option Picture
  began : Nanoseconds
  batchBegan : Nanoseconds
  /-- When the front end looks at the machine next. -/
  lookDue : Nanoseconds
  /-- When the next instruction may run. -/
  instructionDue : Nanoseconds

/-- What a session waits for after a turn. -/
inductive Session.Next where
  | again
  | wait (time : Nanoseconds)
  | finish (fault? : Option Fault)
deriving DecidableEq, Repr

structure Session.Turn where
  session : Session
  printed? : Option String
  /-- What was reported. -/
  events : List Event
  next : Session.Next

namespace Session

def begin (settings : Settings) (runner : Runner) (now : Nanoseconds) : Session where
  settings := settings
  runner := runner
  fault? := none
  shown? := none
  began := now
  batchBegan := now
  lookDue := now
  instructionDue := now

/-- Clears the screen and puts a picture on it. -/
def screenText? (picture : Picture) : Option String :=
  picture.render?.map fun text => "\x1b[2J\x1b[H" ++ text ++ "\n"

/-- Ticks the timers and shows a changed screen if pictures are wanted. -/
def look (session : Session) (now : Nanoseconds) : Session × Option String :=
  let machine := session.runner.machine.tick
  let ticked := { session with
    runner := { session.runner with machine := machine }
    lookDue := now + session.settings.lookInterval }
  if session.settings.render then
    let picture := machine.screen.picture
    if session.shown? = some picture then (ticked, none)
    else ({ ticked with shown? := some picture }, screenText? picture)
  else (ticked, none)

def isOver (session : Session) (now : Nanoseconds) : Bool :=
  match session.settings.runTime? with
  | none => false
  | some limit => decide (limit ≤ now - session.began)

/-- What is reported when the time of a session is over. -/
def overEvents (session : Session) (now : Nanoseconds) : List Event :=
  .timeReached (now - session.began) :: session.runner.endEvents .stopped

/-- Runs one instruction if one is due and the runner has not failed. -/
def execute (session : Session) (now : Nanoseconds) : Session × List Event :=
  if session.fault?.isSome || decide (now < session.instructionDue) then (session, [])
  else
    let reading : Reading := ⟨false, now - session.batchBegan⟩
    let events := session.runner.turnEvents reading
    match session.runner.turn reading with
    | (runner, .failed fault) =>
        ({ session with runner := runner, fault? := some fault },
          events ++ runner.endEvents (.failed fault))
    | (runner, _) =>
        ({ session with
          runner := runner
          batchBegan := if runner.position = 0 then now else session.batchBegan
          instructionDue := now + runner.pace.pause }, events)

/-- The earliest time at which something is due. -/
def due (session : Session) : Nanoseconds :=
  if session.fault?.isSome then session.lookDue
  else min session.lookDue session.instructionDue

def next (session : Session) (now : Nanoseconds) : Next :=
  if session.due ≤ now then .again else .wait session.due

def turn (session : Session) (now : Nanoseconds) : Turn :=
  if session.lookDue ≤ now then
    match session.fault? with
    | some fault => ⟨session, none, [], .finish (some fault)⟩
    | none =>
        let (looked, printed?) := session.look now
        if looked.isOver now then ⟨looked, printed?, looked.overEvents now, .finish none⟩
        else
          let (executed, events) := looked.execute now
          ⟨executed, printed?, events, executed.next now⟩
  else
    let (executed, events) := session.execute now
    ⟨executed, none, events, executed.next now⟩

end Session

end Chip8
