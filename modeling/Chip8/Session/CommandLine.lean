import Chip8.Session.Basic

/-!
# The command line

Words are taken from left to right. A word is the value that an option still
waits for, an option, a cluster of short options, or the program to run. The
first word that does not fit decides how the command line is refused.

Values are decimal numbers. Digits are `0` to `9`; at least one is needed, and
leading zeros are allowed.
-/

namespace Chip8.Decimal

def digitValue (digit : Char) : Nat := digit.toNat - 48

/-- Reads digits only. -/
def natural? (text : List Char) : Option Nat :=
  if text.isEmpty || !text.all Char.isDigit then none
  else some (text.foldl (fun value digit => value * 10 + digitValue digit) 0)

/-- Reads digits behind an optional plus sign. -/
def unsigned? : List Char → Option Nat
  | '+' :: rest => natural? rest
  | text => natural? text

/-- Reads digits behind an optional sign. -/
def signed? : List Char → Option Int
  | '-' :: rest => (natural? rest).map fun value => -(value : Int)
  | text => (unsigned? text).map fun value => (value : Int)

end Chip8.Decimal

namespace Chip8.CommandLine

/-- The options that need a value. -/
inductive Setting where
  | speed
  | frameRate
  | seconds
deriving DecidableEq, Repr

/-- The options without a value. -/
inductive Switch where
  | render
  | help
  | version
deriving DecidableEq, Repr

inductive Choice where
  | setting (setting : Setting)
  | switch (switch : Switch)
deriving DecidableEq, Repr

def Choice.ofLetter? : Char → Option Choice
  | 'i' => some (.setting .speed)
  | 'f' => some (.setting .frameRate)
  | 's' => some (.setting .seconds)
  | 'r' => some (.switch .render)
  | 'h' => some (.switch .help)
  | 'V' => some (.switch .version)
  | _ => none

def Choice.ofName? : String → Option Choice
  | "ips" => some (.setting .speed)
  | "frame-rate" => some (.setting .frameRate)
  | "seconds" => some (.setting .seconds)
  | "render" => some (.switch .render)
  | "help" => some (.switch .help)
  | "version" => some (.switch .version)
  | _ => none

/-- Why a command line is refused. -/
inductive Misuse where
  | missingRom
  | emptyRom
  | surplus (word : String)
  | unknown (word : String)
  | repeated (choice : Choice)
  | missingValue (setting : Setting)
  | badValue (setting : Setting) (word : String)
  | needlessValue (switch : Switch)
deriving DecidableEq, Repr

/-- What a command line asks for. -/
inductive Request where
  | run (settings : Settings)
  | help
  | version
  | refused (misuse : Misuse)
deriving DecidableEq, Repr

/-- What the words so far have settled. -/
structure Collected where
  rom? : Option String
  speed? : Option UInt32
  frameRate? : Option UInt32
  seconds? : Option Nat
  render : Bool
  /-- An option whose value is the next word. -/
  pending? : Option Setting
  /-- Only operands follow. -/
  operandsOnly : Bool
deriving DecidableEq, Repr

namespace Collected

def nothing : Collected where
  rom? := none
  speed? := none
  frameRate? := none
  seconds? := none
  render := false
  pending? := none
  operandsOnly := false

end Collected

/-- The state after a word, or the answer if the word settles everything. -/
abbrev Progress := Except Request Collected

def refuse (misuse : Misuse) : Progress := .error (.refused misuse)

/-- Reads a number from 0 to 2³² - 1, with or without a sign. -/
def word32? (word : String) : Option UInt32 :=
  match Decimal.signed? word.toList with
  | some value =>
      if 0 ≤ value ∧ value < UInt32.size then some (UInt32.ofNat value.toNat) else none
  | none => none

/-- Reads a number from 0 to 2⁶⁴ - 1, with or without a plus sign. -/
def word64? (word : String) : Option Nat :=
  (Decimal.unsigned? word.toList).filter fun value => decide (value < UInt64.size)

def putSpeed (state : Collected) (word : String) : Progress :=
  match state.speed?, word32? word with
  | some _, _ => refuse (.repeated (.setting .speed))
  | none, none => refuse (.badValue .speed word)
  | none, some value => .ok { state with speed? := some value }

def putFrameRate (state : Collected) (word : String) : Progress :=
  match state.frameRate?, word32? word with
  | some _, _ => refuse (.repeated (.setting .frameRate))
  | none, none => refuse (.badValue .frameRate word)
  | none, some value => .ok { state with frameRate? := some value }

def putSeconds (state : Collected) (word : String) : Progress :=
  match state.seconds?, word64? word with
  | some _, _ => refuse (.repeated (.setting .seconds))
  | none, none => refuse (.badValue .seconds word)
  | none, some value => .ok { state with seconds? := some value }

def put (state : Collected) (word : String) : Setting → Progress
  | .speed => putSpeed state word
  | .frameRate => putFrameRate state word
  | .seconds => putSeconds state word

def turnOn (state : Collected) : Switch → Progress
  | .help => .error .help
  | .version => .error .version
  | .render =>
      if state.render then refuse (.repeated (.switch .render))
      else .ok { state with render := true }

/-- A word behind two dashes; a value may follow an equals sign. -/
def takeLong (state : Collected) (body : List Char) : Progress :=
  let name := body.takeWhile (· != '=')
  let value := body.dropWhile (· != '=')
  match Choice.ofName? (String.ofList name), value with
  | none, _ => refuse (.unknown (String.ofList body))
  | some (.setting setting), [] => .ok { state with pending? := some setting }
  | some (.setting setting), _ :: word => put state (String.ofList word) setting
  | some (.switch switch), [] => turnOn state switch
  | some (.switch switch), _ :: _ => refuse (.needlessValue switch)

/-- The letters behind one dash; what follows an option with a value is its value. -/
def takeLetters : Collected → List Char → Progress
  | state, [] => .ok state
  | state, letter :: rest =>
      match Choice.ofLetter? letter, rest with
      | none, _ => refuse (.unknown (String.singleton letter))
      | some (.setting setting), [] => .ok { state with pending? := some setting }
      | some (.setting setting), '=' :: word => put state (String.ofList word) setting
      | some (.setting setting), word => put state (String.ofList word) setting
      | some (.switch switch), rest =>
          match turnOn state switch with
          | .ok next => takeLetters next rest
          | .error answer => .error answer

def takeOperand (state : Collected) (word : String) : Progress :=
  match state.rom? with
  | some _ => refuse (.surplus word)
  | none =>
      if word.isEmpty then refuse .emptyRom else .ok { state with rom? := some word }

/-- A word that is more than a dash and begins with one is no value. -/
def takeValue (state : Collected) (setting : Setting) (word : String) : Progress :=
  match word.toList with
  | '-' :: _ :: _ => refuse (.missingValue setting)
  | _ => put { state with pending? := none } word setting

def takeWord (state : Collected) (word : String) : Progress :=
  match state.pending?, state.operandsOnly, word.toList with
  | some setting, _, _ => takeValue state setting word
  | none, true, _ => takeOperand state word
  | none, false, ['-', '-'] => .ok { state with operandsOnly := true }
  | none, false, '-' :: '-' :: body => takeLong state body
  | none, false, '-' :: letter :: rest => takeLetters state (letter :: rest)
  | none, false, _ => takeOperand state word

/-- What is asked for once all words are taken. -/
def conclude (state : Collected) : Request :=
  match state.pending?, state.rom? with
  | some setting, _ => .refused (.missingValue setting)
  | none, none => .refused .missingRom
  | none, some path =>
      .run {
        romPath := path
        speed := state.speed?.getD Settings.standard.speed
        frameRate := state.frameRate?.getD Settings.standard.frameRate
        render := state.render
        runTime? := state.seconds?.map (· * oneSecond) }

/-- Reads the words behind the name of the program. -/
def parse (words : List String) : Request :=
  match words.foldlM takeWord Collected.nothing with
  | .ok state => conclude state
  | .error answer => answer

def Setting.name : Setting → String
  | .speed => "--ips"
  | .frameRate => "--frame-rate"
  | .seconds => "--seconds"

def Switch.name : Switch → String
  | .render => "--render"
  | .help => "--help"
  | .version => "--version"

def Choice.name : Choice → String
  | .setting chosen => chosen.name
  | .switch chosen => chosen.name

def Misuse.message : Misuse → String
  | .missingRom => "no ROM was given"
  | .emptyRom => "the path of the ROM is empty"
  | .surplus word => "unexpected argument '" ++ word ++ "'"
  | .unknown word => "unknown option '" ++ word ++ "'"
  | .repeated choice => choice.name ++ " was given more than once"
  | .missingValue setting => setting.name ++ " needs a value"
  | .badValue setting word => "'" ++ word ++ "' is not a value for " ++ setting.name
  | .needlessValue switch => switch.name ++ " takes no value"

def usage : String := "Usage: superchip8 [OPTIONS] <ROM_PATH>\n"

def Misuse.report (misuse : Misuse) : String :=
  "error: " ++ misuse.message ++ "\n\n" ++ usage ++ "\nFor more information, try '--help'.\n"

def versionText : String := "superchip8 0.1.0\n"

def helpText : String :=
  "Runs a CHIP-8 or SUPER-CHIP ROM\n\n" ++ usage ++
  "\nArguments:\n  <ROM_PATH>  Path to the .ch8 file to run\n" ++
  "\nOptions:\n" ++
  "  -i, --ips <IPS>                Instructions per second [default: 700]\n" ++
  "  -f, --frame-rate <FRAME_RATE>  Timer ticks per second [default: 60]\n" ++
  "  -r, --render                   Print the display to the terminal whenever it changes\n" ++
  "  -s, --seconds <SECONDS>        Stop after this many seconds\n" ++
  "  -h, --help                     Print help\n" ++
  "  -V, --version                  Print version\n"

end Chip8.CommandLine
