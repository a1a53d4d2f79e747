import Chip8.Fault
import Chip8.Rom

/-!
# How the program ends

A failure is reported with the chain of its causes. A single cause is
indented; several are numbered from zero, and further lines of a cause stand
under its first one.
-/

namespace Chip8

/-- Puts a text behind a mark and its further lines behind a margin. -/
def indented (mark margin text : String) : String :=
  mark ++ ("\n" ++ margin).intercalate (text.splitOn "\n")

/-- A cause with its number, which is filled up to five places. -/
def numbered (number : Nat) (text : String) : String :=
  let digits := toString number
  let blanks := String.ofList (List.replicate (5 - digits.length) ' ')
  indented (blanks ++ digits ++ ": ") "       " text

def causeLines : List String → List String
  | [cause] => [indented "    " "    " cause]
  | causes => causes.zipIdx.map fun (cause, number) => numbered number cause

/-- What is printed about a failure and its causes. -/
def failureReport (failure : String) (causes : List String) : String :=
  let head := "Error: " ++ failure
  if causes.isEmpty then head ++ "\n"
  else head ++ "\n\nCaused by:\n" ++ "\n".intercalate (causeLines causes) ++ "\n"

/-- How a run of the program ends. -/
structure Ending where
  code : UInt32
  report : String
deriving DecidableEq, Repr

namespace Ending

/-- The program could not be started. -/
def ofRomError (path : String) (error : RomError) : Ending :=
  ⟨1, failureReport ("failed to start " ++ path) error.chain⟩

/-- The program ran until it was stopped or a step failed. -/
def ofFault? : Option Fault → Ending
  | none => ⟨0, ""⟩
  | some fault => ⟨1, failureReport "emulation aborted" [fault.message]⟩

end Ending

end Chip8
