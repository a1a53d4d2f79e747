import Chip8.Proofs.Footprint
import Chip8.Proofs.LastEvent
import Chip8.Proofs.Placement

/-!
# Bytes that nothing writes

Two kinds of instruction write memory, and so does a program that is put in
place. A byte that none of them writes stays as it is, whatever else happens.
-/

namespace Chip8.Machine

variable {start machine : Machine} {actions : List Action} {action : Action} {address : Nat}

/-- The action writes the byte at an address, whether or not it changes it. -/
inductive WritesAt (address : Nat) (machine : Machine) : Action → Prop where
  | stored (writes : machine.WritesByte address) : WritesAt address machine .step
  | placed {rom : Rom} (fits : rom.length ≤ 3584) (behind : 512 ≤ address)
      (inside : address < 512 + rom.length) : WritesAt address machine (.load rom)

/-- The action is a step that stores a byte at an address, whether or not it changes it. -/
def StoresAt (address : Nat) (machine : Machine) (action : Action) : Prop :=
  action = .step ∧ machine.WritesByte address

/-- No action of a history writes the byte at an address. -/
def Untouched (start : Machine) (actions : List Action) (address : Nat) : Prop :=
  ∀ n, ¬ start.HappensAt actions (WritesAt address) n

theorem byte_perform_load {rom : Rom} (other : ¬ machine.WritesAt address (.load rom)) :
    (machine.perform (.load rom)).memory.byte address = machine.memory.byte address := by
  by_cases fits : rom.length ≤ Rom.capacity
  · rw [perform_load_of_fits machine fits]
    apply Memory.byte_overlay_of_apart (loadAddress_add_le fits)
    by_contra within
    have start : loadAddress.toNat = 512 := rfl
    exact other (.placed fits (by omega) (by omega))
  · rw [perform_load_of_large machine (Nat.lt_of_not_le fits)]

theorem byte_perform (other : ¬ machine.WritesAt address action) :
    (machine.perform action).memory.byte address = machine.memory.byte address := by
  cases action with
  | step =>
      by_contra changed
      exact other (.stored (writesByte_of_byte_ne changed))
  | load rom => exact byte_perform_load other
  | _ => rfl

/-- A byte that no action of a history writes is there still at its end. -/
theorem byte_run (untouched : start.Untouched actions address) :
    (start.run actions).memory.byte address = start.memory.byte address := by
  induction actions generalizing start with
  | nil => rfl
  | cons action rest ih =>
      obtain ⟨other, later⟩ := never_cons_iff.mp untouched
      exact (ih later).trans (byte_perform other)

/-- Where programs are not placed, only steps write. -/
theorem untouched_of_low (low : address < 512)
    (never : ∀ n, ¬ start.HappensAt actions (StoresAt address) n) :
    start.Untouched actions address := by
  rintro n ⟨action, here, writes⟩
  cases writes with
  | stored writes => exact never n ⟨_, here, rfl, writes⟩
  | placed fits behind inside => exact absurd behind (Nat.not_le_of_lt low)

theorem form_of_writesByte (writes : machine.WritesByte address) :
    machine.opcode &&& 0xF0FF = 0xF033 ∨ machine.opcode &&& 0xF0FF = 0xF055 := by
  rcases writes with ⟨⟨-, form, listed, fits⟩, -, -⟩ | ⟨⟨-, form, listed, fits⟩, -, -⟩
  · obtain rfl := List.mem_singleton.mp listed
    exact .inl fits
  · obtain rfl := List.mem_singleton.mp listed
    exact .inr fits

theorem not_writesByte_of_opcode (decimal : machine.opcode &&& 0xF0FF ≠ 0xF033)
    (store : machine.opcode &&& 0xF0FF ≠ 0xF055) : ¬ machine.WritesByte address :=
  fun writes => (form_of_writesByte writes).elim decimal store

end Chip8.Machine
