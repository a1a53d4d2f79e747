import Chip8.Session.Basic
import Chip8.Session.CommandLine
import Chip8.Session.Report

/-!
# The program

Reads the command line, runs the session against the clock of the system, and
prints what the session shows. Its journal goes where errors go, as far as the
environment asks for it.
-/

namespace Chip8.Main

/-- An error code without its sign, which some system calls add. -/
def plainCode (code : UInt32) : Nat :=
  if code < 0x80000000 then code.toNat else (0 - code).toNat

/-- What the system says about a failed reading. -/
def systemError (error : IO.Error) : SystemError :=
  match error with
  | .noFileOrDirectory _ code details => .ofCode (plainCode code) details
  | .inappropriateType _ code details => .ofCode (plainCode code) details
  | .permissionDenied _ code details => .ofCode (plainCode code) details
  | .invalidArgument _ code details => .ofCode (plainCode code) details
  | .resourceExhausted _ code details => .ofCode (plainCode code) details
  | .otherError code details => .ofCode (plainCode code) details
  | other => ⟨0, toString other⟩

def readFile (path : String) : IO (Except SystemError (List Byte)) := do
  try
    let bytes ← IO.FS.readBinFile path
    return .ok bytes.toList
  catch error => return .error (systemError error)

def freshSource : IO RandomSource := do
  let bytes ← IO.getRandomBytes 8
  return RandomSource.ofSeed (bytes.toList.foldl (fun seed byte => seed * 256 + byte.toUInt64) 0)

/-- The least serious level that is written down; errors alone unless `CHIP8_LOG` names another. -/
def journalLevel? : IO (Option Event.Level) := do
  let levels : List Event.Level := [.error, .warning, .information, .detail, .trace]
  match ← IO.getEnv "CHIP8_LOG" with
  | some "off" => return none
  | some name => return (levels.find? (·.label == name.toUpper)).getD .error
  | none => return some .error

def report (level? : Option Event.Level) (events : List Event) : IO Unit := do
  for event in events do
    if level?.any fun level => decide (event.level.rank ≤ level.rank) then
      IO.eprintln event.line

def sleepUntil (time now : Nanoseconds) : IO Unit :=
  IO.sleep (UInt32.ofNat ((time - now) / 1000000))

/-- Takes turns until the session is finished. -/
partial def drive (level? : Option Event.Level) (session : Session) : IO (Option Fault) := do
  let now ← IO.monoNanosNow
  let turn := session.turn now
  report level? turn.events
  match turn.printed? with
  | some text =>
      let out ← IO.getStdout
      out.putStr text
      out.flush
  | none => pure ()
  match turn.next with
  | .again => drive level? turn.session
  | .wait time =>
      sleepUntil time (← IO.monoNanosNow)
      drive level? turn.session
  | .finish fault? => return fault?

def conclude (ending : Ending) : IO UInt32 := do
  IO.eprint ending.report
  return ending.code

def runSession (settings : Settings) : IO UInt32 := do
  let level? ← journalLevel?
  let contents ← readFile settings.romPath
  let random ← freshSource
  report level? (settings.startEvents (fun _ => contents) random)
  match settings.start (fun _ => contents) random with
  | .error error => conclude (.ofRomError settings.romPath error)
  | .ok runner =>
      let session := Session.begin settings runner (← IO.monoNanosNow)
      conclude (.ofFault? (← drive level? session))

end Chip8.Main

def main (arguments : List String) : IO UInt32 := do
  match Chip8.CommandLine.parse arguments with
  | .run settings => Chip8.Main.runSession settings
  | .help =>
      IO.print Chip8.CommandLine.helpText
      return 0
  | .version =>
      IO.print Chip8.CommandLine.versionText
      return 0
  | .refused misuse =>
      IO.eprint misuse.report
      return 2
