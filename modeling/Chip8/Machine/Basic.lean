import Chip8.Screen.Basic
import Chip8.Font
import Chip8.Keypad
import Chip8.Random
import Chip8.Rom

/-!
# The machine

The whole state of a machine. A new machine holds both fonts and the program
and starts at the first byte of the program.
-/

namespace Chip8

/-- Two counters that go down by one with every tick and stay at zero. -/
structure Timers where
  delay : Byte
  sound : Byte
deriving DecidableEq, Repr

namespace Timers

def blank : Timers := ⟨0, 0⟩

def countDown (value : Byte) : Byte := if value = 0 then 0 else value - 1

def tick (timers : Timers) : Timers := ⟨countDown timers.delay, countDown timers.sound⟩

theorem toNat_countDown (value : Byte) : (countDown value).toNat = value.toNat - 1 := by
  unfold countDown
  by_cases zero : value = 0
  · rw [if_pos zero, zero]
    rfl
  · rw [if_neg zero]
    have positive : 1 ≤ value.toNat := by
      apply Nat.one_le_iff_ne_zero.mpr
      intro none
      exact zero (UInt8.toNat_inj.mp none)
    exact UInt8.toNat_sub_of_le value 1 positive

end Timers

/-- Return addresses, the latest first, in a stack of limited room: a full stack takes no further
address and stays as it is, and an empty one has none to give. -/
abbrev CallStack := List Address

namespace CallStack

def limit : Nat := 16

/-- The stack with an address on top, if there is room for it. -/
def push? (stack : CallStack) (address : Address) : Option CallStack :=
  if stack.length < limit then some (address :: stack) else none

/-- The latest address and the stack below it, if there is one. -/
def pop? : CallStack → Option (Address × CallStack)
  | [] => none
  | address :: rest => some (address, rest)

theorem push?_of_room {stack : CallStack} (room : stack.length < limit) (address : Address) :
    stack.push? address = some (address :: stack) :=
  if_pos room

theorem push?_of_full {stack : CallStack} (full : ¬ stack.length < limit) (address : Address) :
    stack.push? address = none :=
  if_neg full

end CallStack

structure Machine where
  programCounter : Address
  index : Address
  registers : Registers
  /-- The copy that the program keeps aside. -/
  saved : Registers
  stack : CallStack
  memory : Memory
  random : RandomSource
  screen : Screen
  keypad : Keypad
  timers : Timers

/-- What is there after a program was to be put in place. -/
structure Loading where
  machine : Machine
  error? : Option RomError

namespace Machine

/-- Memory with the fonts in place and nothing else. -/
def firmware : Memory :=
  (Memory.blank.overlay Font.small.offset.toNat Font.small.glyphs).overlay
    Font.large.offset.toNat Font.large.glyphs

/-- A machine without a program. -/
def blank (random : RandomSource) : Machine where
  programCounter := loadAddress
  index := 0
  registers := Registers.blank
  saved := Registers.blank
  stack := []
  memory := firmware
  random := random
  screen := Screen.blank .low
  keypad := Keypad.blank
  timers := Timers.blank

/-- Puts a program in place, unless it is too long; everything else stays as it is. -/
def load (machine : Machine) (rom : Rom) : Loading :=
  if Rom.capacity < rom.length then ⟨machine, some (.tooLarge rom.length Rom.capacity)⟩
  else ⟨{ machine with memory := machine.memory.overlay loadAddress.toNat rom }, none⟩

/-- A machine that is ready to run a program. -/
def boot (random : RandomSource) (rom : Rom) : Except RomError Machine :=
  match (blank random).load rom with
  | ⟨machine, none⟩ => .ok machine
  | ⟨_, some error⟩ => .error error

def tick (machine : Machine) : Machine := { machine with timers := machine.timers.tick }

def press (machine : Machine) (key : Byte) : Machine :=
  { machine with keypad := machine.keypad.press key }

def release (machine : Machine) (key : Byte) : Machine :=
  { machine with keypad := machine.keypad.release key }

variable {machine : Machine} {random : RandomSource} {rom : Rom}

theorem load_of_fits (machine : Machine) (fits : rom.length ≤ Rom.capacity) :
    machine.load rom =
      ⟨{ machine with memory := machine.memory.overlay loadAddress.toNat rom }, none⟩ :=
  if_neg (Nat.not_lt.mpr fits)

/-- A program that is too long leaves the machine as it is. -/
theorem load_of_large (machine : Machine) (large : Rom.capacity < rom.length) :
    machine.load rom = ⟨machine, some (.tooLarge rom.length Rom.capacity)⟩ :=
  if_pos large

theorem boot_of_fits (random : RandomSource) (fits : rom.length ≤ Rom.capacity) :
    boot random rom =
      .ok { blank random with memory := firmware.overlay loadAddress.toNat rom } := by
  rw [boot, load_of_fits _ fits]
  rfl

theorem boot_of_large (random : RandomSource) (large : Rom.capacity < rom.length) :
    boot random rom = .error (.tooLarge rom.length Rom.capacity) := by
  rw [boot, load_of_large _ large]

theorem fits_of_boot (booted : boot random rom = .ok machine) : rom.length ≤ Rom.capacity := by
  apply Nat.le_of_not_lt
  intro large
  rw [boot_of_large random large] at booted
  cases booted

theorem eq_of_boot (booted : boot random rom = .ok machine) :
    machine = { blank random with memory := firmware.overlay loadAddress.toNat rom } := by
  rw [boot_of_fits random (fits_of_boot booted)] at booted
  exact (Except.ok.inj booted).symm

end Machine

end Chip8
