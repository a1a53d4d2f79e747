import Chip8.Proofs.Control

/-!
# Programs in place

A program that has been put in place is read opcode by opcode from memory, as
long as nothing writes over it. So a machine that stands somewhere in its
program takes the step that is written there.
-/

namespace Chip8.Machine

/-- A program is in memory and control is at a place in it. -/
structure StandsIn (machine : Machine) (rom : Rom) (place : Nat) : Prop where
  fits : rom.length ≤ Rom.capacity
  counter : machine.programCounter.toNat = loadAddress.toNat + place
  program : ∀ offset (inside : offset < rom.length),
    machine.memory.byte (loadAddress.toNat + offset) = rom[offset]

variable {machine : Machine} {rom : Rom} {place : Nat}

theorem standsIn_of_boot {random : RandomSource} (booted : boot random rom = .ok machine) :
    machine.StandsIn rom 0 where
  fits := fits_of_boot booted
  counter := by
    rw [eq_of_boot booted]
    rfl
  program := memory_of_boot booted

theorem StandsIn.fetches (stands : machine.StandsIn rom place) (inside : place + 1 < rom.length) :
    machine.Fetches := by
  have room := loadAddress_add_le stands.fits
  rw [Fetches, stands.counter]
  omega

theorem StandsIn.opcode (stands : machine.StandsIn rom place) (inside : place + 1 < rom.length) :
    machine.opcode = Word.ofBytes [rom[place], rom[place + 1]] := by
  rw [Machine.opcode, stands.counter, Nat.add_assoc,
    stands.program place (Nat.lt_of_succ_lt inside), stands.program (place + 1) inside]

theorem StandsIn.step (stands : machine.StandsIn rom place) (inside : place + 1 < rom.length)
    {opcode : Word} (read : Word.ofBytes [rom[place], rom[place + 1]] = opcode)
    {instruction : Instruction} (decoded : Instruction.decode opcode = .ok instruction) :
    machine.step = machine.advance.execute instruction := by
  rw [← read, ← stands.opcode inside] at decoded
  exact step_of_decode (stands.fetches inside) decoded

theorem StandsIn.onward (stands : machine.StandsIn rom place) (inside : place + 1 < rom.length)
    {after : Machine} (counter : after.programCounter = machine.programCounter.next)
    (memory : after.memory = machine.memory) : after.StandsIn rom (place + 2) where
  fits := stands.fits
  counter := by
    rw [counter, toNat_next_of_fetches (stands.fetches inside), stands.counter, Nat.add_assoc]
  program := memory ▸ stands.program

end Chip8.Machine
