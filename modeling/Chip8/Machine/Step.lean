import Chip8.Screen.Sprite
import Chip8.Instruction.Table
import Chip8.Machine.Basic

/-!
# Steps

A step fetches the opcode at the program counter, moves the program counter
on, reads the opcode and carries the instruction out. It always leaves a
machine behind, with a fault if it failed on the way: what was done before the
fault stays done.
-/

namespace Chip8

/-- What is there after an instruction or a step. -/
structure Outcome where
  machine : Machine
  fault? : Option Fault

namespace Outcome

def done (machine : Machine) : Outcome := ⟨machine, none⟩

def failed (machine : Machine) (fault : Fault) : Outcome := ⟨machine, some fault⟩

end Outcome

namespace Machine

def value (machine : Machine) (x : Register) : Byte := machine.registers.get x

def setRegister (machine : Machine) (x : Register) (value : Byte) : Machine :=
  { machine with registers := machine.registers.set x.val value x.isLt }

def setFlag (machine : Machine) (flag : Bool) : Machine :=
  machine.setRegister flagRegister (if flag then 1 else 0)

theorem value_setRegister (machine : Machine) (x y : Register) (value : Byte) :
    (machine.setRegister x value).value y = if x = y then value else machine.value y := by
  refine (Vector.getElem_set x.isLt y.isLt).trans ?_
  simp only [Fin.ext_iff]
  rfl

theorem value_setRegister_self (machine : Machine) (x : Register) (value : Byte) :
    (machine.setRegister x value).value x = value :=
  (machine.value_setRegister x x value).trans (if_pos rfl)

theorem value_setRegister_of_ne (machine : Machine) {x y : Register} (other : y ≠ x)
    (value : Byte) : (machine.setRegister x value).value y = machine.value y :=
  (machine.value_setRegister x y value).trans (if_neg other.symm)

def skipWhen (machine : Machine) (condition : Bool) : Machine :=
  if condition then { machine with programCounter := machine.programCounter.next } else machine

def enter (machine : Machine) (target : Address) : Outcome :=
  match machine.stack.push? machine.programCounter with
  | none => .failed machine .stackOverflow
  | some stack => .done { machine with stack := stack, programCounter := target }

def leave (machine : Machine) : Outcome :=
  match machine.stack.pop? with
  | none => .failed machine .stackUnderflow
  | some (address, rest) => .done { machine with stack := rest, programCounter := address }

/-- The flag is written first, so a result in the flag register replaces it. -/
def combine (machine : Machine) (operation : Operation) (x y : Register) : Machine :=
  let first := machine.value x
  let second := machine.value y
  let flagged := match operation.flag? first second with
    | some flag => machine.setFlag flag
    | none => machine
  flagged.setRegister x (operation.result first second)

def shiftRight (machine : Machine) (x : Register) : Machine :=
  let value := machine.value x
  (machine.setFlag (value.toNat.testBit 0)).setRegister x (value >>> 1)

def shiftLeft (machine : Machine) (x : Register) : Machine :=
  let value := machine.value x
  (machine.setFlag (value.toNat.testBit 7)).setRegister x (value <<< 1)

/-- Masks the next random byte into a register. -/
def takeRandom (machine : Machine) (x : Register) (mask : Byte) : Machine :=
  { machine.setRegister x (machine.random.next &&& mask) with random := machine.random.advance }

/-- The number of sprite rows that lie above the bottom edge; the others are not read. -/
def shownRows (machine : Machine) (y : Register) (shape : Sprite.Shape) : Nat :=
  min shape.height (machine.screen.height - (machine.value y).toNat % machine.screen.height)

def draw (machine : Machine) (x y : Register) (height : Byte) : Outcome :=
  let shape := Sprite.Shape.ofHeight height
  let count := machine.shownRows y shape
  match machine.memory.read machine.index (count * shape.rowBytes) with
  | .error fault => .failed machine fault
  | .ok bytes =>
      let (screen, collision) :=
        machine.screen.draw (machine.value x) (machine.value y) (shape.sprite count bytes)
      .done ({ machine with screen := screen }.setFlag collision)

/-- A skip that depends on a key, which has to exist. -/
def skipOnKey (machine : Machine) (x : Register) (condition : Bool → Bool) : Outcome :=
  let key := machine.value x
  if Keypad.hasKey key then .done (machine.skipWhen (condition (machine.keypad.isDown key)))
  else .failed machine (.unknownKey key)

/-- Takes the key, or comes back to the same instruction while no key is down. -/
def awaitKey (machine : Machine) (x : Register) : Machine :=
  match machine.keypad.awaited? with
  | some key => machine.setRegister x key
  | none => { machine with programCounter := machine.programCounter.previous }

/-- The flag is set when the index leaves the 4096 addresses and is never cleared here. -/
def increaseIndex (machine : Machine) (x : Register) : Machine :=
  let sum := machine.index + (machine.value x).toUInt16
  let flagged := if 0x0FFF < sum then machine.setFlag true else machine
  { flagged with index := sum }

/-- The hundreds, tens and ones of a byte. -/
def decimalDigits (value : Byte) : List Byte := [value / 100, value / 10 % 10, value % 10]

def store (machine : Machine) (values : List Byte) : Outcome :=
  match machine.memory.write machine.index values with
  | .error fault => .failed machine fault
  | .ok memory => .done { machine with memory := memory }

def loadRegisters (machine : Machine) (last : Register) : Outcome :=
  match machine.memory.read machine.index (last.val + 1) with
  | .error fault => .failed machine fault
  | .ok values => .done { machine with registers := machine.registers.fill values }

/-- Carries an instruction out. The program counter already points behind it. -/
def execute (machine : Machine) : Instruction → Outcome
  | .nativeRoutine _ => .done machine
  | .clear => .done { machine with screen := machine.screen.clear }
  | .scrollDown rows => .done { machine with screen := machine.screen.scrollDown rows.toNat }
  | .scrollRight => .done { machine with screen := machine.screen.scrollRight }
  | .scrollLeft => .done { machine with screen := machine.screen.scrollLeft }
  | .selectMode mode => .done { machine with screen := Screen.blank mode }
  | .leave => machine.leave
  | .jump target => .done { machine with programCounter := target }
  | .enter target => machine.enter target
  | .skipIfByte x value => .done (machine.skipWhen (machine.value x == value))
  | .skipUnlessByte x value => .done (machine.skipWhen (machine.value x != value))
  | .skipIfSame x y => .done (machine.skipWhen (machine.value x == machine.value y))
  | .skipUnlessSame x y => .done (machine.skipWhen (machine.value x != machine.value y))
  | .set x value => .done (machine.setRegister x value)
  | .increase x value => .done (machine.setRegister x (machine.value x + value))
  | .combine operation x y => .done (machine.combine operation x y)
  | .shiftRight x => .done (machine.shiftRight x)
  | .shiftLeft x => .done (machine.shiftLeft x)
  | .setIndex address => .done { machine with index := address }
  | .jumpBeyond target =>
      .done { machine with programCounter := target + (machine.value firstRegister).toUInt16 }
  | .random x mask => .done (machine.takeRandom x mask)
  | .draw x y height => machine.draw x y height
  | .skipIfDown x => machine.skipOnKey x id
  | .skipUnlessDown x => machine.skipOnKey x not
  | .readDelay x => .done (machine.setRegister x machine.timers.delay)
  | .awaitKey x => .done (machine.awaitKey x)
  | .setDelay x =>
      .done { machine with timers := { machine.timers with delay := machine.value x } }
  | .setSound x =>
      .done { machine with timers := { machine.timers with sound := machine.value x } }
  | .increaseIndex x => .done (machine.increaseIndex x)
  | .smallGlyph x => .done { machine with index := Font.small.addressOf (machine.value x) }
  | .largeGlyph x => .done { machine with index := Font.large.addressOf (machine.value x) }
  | .storeDecimal x => machine.store (decimalDigits (machine.value x))
  | .storeRegisters last => machine.store (machine.registers.upTo last)
  | .loadRegisters last => machine.loadRegisters last
  | .saveRegisters => .done { machine with saved := machine.registers }
  | .restoreRegisters => .done { machine with registers := machine.saved }

/-- The opcode at the program counter. -/
def fetch (machine : Machine) : Except Fault Word :=
  (machine.memory.read machine.programCounter 2).map Word.ofBytes

/-- The machine once its opcode is fetched. -/
def advance (machine : Machine) : Machine :=
  { machine with programCounter := machine.programCounter.next }

def step (machine : Machine) : Outcome :=
  match machine.fetch with
  | .error fault => .failed machine fault
  | .ok opcode =>
      match Instruction.decode opcode with
      | .error fault => .failed machine.advance fault
      | .ok instruction => machine.advance.execute instruction

/-- The instruction that the next step carries out or fails in. -/
def pending? (machine : Machine) : Option Instruction :=
  match machine.fetch with
  | .error _ => none
  | .ok opcode => (Instruction.decode opcode).toOption

end Machine

end Chip8
