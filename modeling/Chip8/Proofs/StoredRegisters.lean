import Chip8.Proofs.Untouched

/-!
# Registers that are stored and loaded again

A program stores its registers, goes on, and loads them from the same place
later, perhaps more of them or fewer. What it gets back is what it stored, as far
as nothing has written there in the meantime.
-/

namespace Chip8.Machine

variable {machine later : Machine} {between : List Action} {v : Register}

/-! ## The two steps -/

/-- The next step stores the registers up to the one that its opcode names, and succeeds. -/
structure StoresRegisters (machine : Machine) : Prop where
  form : machine.opcode &&& 0xF0FF = 0xF055
  succeeds : machine.step.fault? = none

/-- The next step loads the registers up to the one that its opcode names, and succeeds. -/
structure LoadsRegisters (machine : Machine) : Prop where
  form : machine.opcode &&& 0xF0FF = 0xF065
  succeeds : machine.step.fault? = none

theorem StoresRegisters.carries (stores : machine.StoresRegisters) :
    machine.Carries (.storeRegisters machine.operandX) :=
  carries_of_decode stores.succeeds (decode_eq_storeRegisters_iff.mpr ⟨stores.form, rfl⟩)

theorem LoadsRegisters.carries (loads : machine.LoadsRegisters) :
    machine.Carries (.loadRegisters machine.operandX) :=
  carries_of_decode loads.succeeds (decode_eq_loadRegisters_iff.mpr ⟨loads.form, rfl⟩)

theorem StoresRegisters.memory (stores : machine.StoresRegisters) :
    machine.step.machine.memory =
      machine.memory.overlay machine.index.toNat (machine.registers.upTo machine.operandX) :=
  congrArg Machine.memory stores.carries.machine_eq

theorem StoresRegisters.fits (stores : machine.StoresRegisters) :
    machine.index.toNat + (machine.registers.upTo machine.operandX).length ≤ Memory.size := by
  rw [Registers.length_upTo]
  exact beyond?_eq_none_iff.mp stores.carries.clear

theorem StoresRegisters.byte_of_le (stores : machine.StoresRegisters)
    (stored : v ≤ machine.operandX) :
    machine.step.machine.memory.byte (machine.index.toNat + v.val) = machine.value v := by
  rw [stores.memory, Memory.byte_overlay _ _ _ _ stores.fits, if_pos (Nat.le_add_right _ _),
    Nat.add_sub_cancel_left, Registers.getElem?_upTo _ stored]
  rfl

theorem StoresRegisters.byte_of_lt (stores : machine.StoresRegisters)
    (spared : machine.operandX < v) :
    machine.step.machine.memory.byte (machine.index.toNat + v.val) =
      machine.memory.byte (machine.index.toNat + v.val) := by
  rw [stores.memory]
  apply Memory.byte_overlay_of_apart stores.fits
  rw [Registers.length_upTo]
  exact .inr (Nat.add_le_add_left spared _)

theorem LoadsRegisters.machine_eq (loads : machine.LoadsRegisters) :
    machine.step.machine = { machine.advance with
      registers := machine.registers.fill
        (machine.memory.block machine.index.toNat (machine.operandX.val + 1)) } := by
  rw [loads.carries.machine_eq, effect_loadRegisters]
  rfl

theorem LoadsRegisters.value_of_le (loads : machine.LoadsRegisters)
    (loaded : v ≤ machine.operandX) :
    machine.step.machine.value v = machine.memory.byte (machine.index.toNat + v.val) := by
  rw [loads.machine_eq]
  refine (Registers.get_fill _ _ v).trans ?_
  rw [Memory.getElem?_block _ _ (Nat.lt_succ_of_le loaded)]
  rfl

theorem LoadsRegisters.value_of_lt (loads : machine.LoadsRegisters)
    (spared : machine.operandX < v) : machine.step.machine.value v = machine.value v := by
  rw [loads.machine_eq]
  apply value_fill
  rw [Memory.length_block]
  exact spared

/-! ## The way back -/

/-- What a step that loads registers gets after `between`, if a step stored registers before. -/
structure GetsBack (before : Machine) (between : List Action) (later : Machine) : Prop where
  /-- A register that was stored has its old value, if nothing has written its byte since. -/
  stored : ∀ v, v ≤ before.operandX → v ≤ later.operandX →
    before.step.machine.Untouched between (before.index.toNat + v.val) →
      later.step.machine.value v = before.value v
  /-- One that was not stored has the byte that was in its place all along. -/
  unstored : ∀ v, before.operandX < v → v ≤ later.operandX →
    before.step.machine.Untouched between (before.index.toNat + v.val) →
      later.step.machine.value v = before.memory.byte (before.index.toNat + v.val)
  unloaded : ∀ v, later.operandX < v → later.step.machine.value v = later.value v
  index : later.step.machine.index = later.index

theorem value_of_untouched (reached : machine.step.machine.run between = later)
    (loads : later.LoadsRegisters) (place : later.index = machine.index)
    (loaded : v ≤ later.operandX)
    (untouched : machine.step.machine.Untouched between (machine.index.toNat + v.val)) :
    later.step.machine.value v =
      machine.step.machine.memory.byte (machine.index.toNat + v.val) := by
  rw [loads.value_of_le loaded, place, ← reached]
  exact byte_run untouched

/-- Registers that are stored come back when they are loaded from the same place, whatever has
happened in between other than writing there. -/
theorem stored_registers_return (stores : machine.StoresRegisters)
    (reached : machine.step.machine.run between = later) (loads : later.LoadsRegisters)
    (place : later.index = machine.index) : machine.GetsBack between later where
  stored v stored loaded untouched :=
    (value_of_untouched reached loads place loaded untouched).trans (stores.byte_of_le stored)
  unstored v spared loaded untouched :=
    (value_of_untouched reached loads place loaded untouched).trans (stores.byte_of_lt spared)
  unloaded v spared := loads.value_of_lt spared
  index := by
    rw [loads.machine_eq]
    rfl

/-- Stores two registers, overwrites one of them, and loads three. -/
def recallingProgram : Rom := [0x60, 0x05, 0xF1, 0x55, 0x60, 0x09, 0xF2, 0x65]

theorem recalling_sets (stands : machine.StandsIn recallingProgram 0) :
    machine.step.machine.StandsIn recallingProgram 2 ∧
      machine.step.machine.index = machine.index ∧ machine.step.machine.value 0 = 5 := by
  have decoded : Instruction.decode 0x6005 = .ok (.set 0 5) := rfl
  rw [stands.step (by decide) (by decide) decoded]
  exact ⟨stands.onward (by decide) rfl rfl, rfl, value_setRegister _ _ _ _⟩

theorem recalling_stores (stands : machine.StandsIn recallingProgram 2)
    (low : machine.index = 0) :
    machine.StoresRegisters ∧ machine.operandX = 1 ∧
      machine.step.machine.StandsIn recallingProgram 4 ∧
      machine.step.machine.index = machine.index := by
  have opcode : machine.opcode = 0xF155 := (stands.opcode (by decide)).trans (by decide)
  have decoded : Instruction.decode machine.opcode = .ok (.storeRegisters 1) := by
    rw [opcode]
    rfl
  have clear : machine.hindrance? (.storeRegisters 1) = none := by
    apply beyond?_eq_none_iff.mpr
    rw [low]
    decide
  have carries : machine.Carries (.storeRegisters 1) :=
    ⟨stands.fetches (by decide), decoded, clear⟩
  have stores : machine.StoresRegisters := ⟨opcode ▸ by decide, carries.done⟩
  have operand : machine.operandX = 1 := congrArg (Word.nibble · 8) opcode
  refine ⟨stores, operand, ?_, ?_⟩
  · constructor
    · exact stands.fits
    · rw [carries.machine_eq]
      exact (toNat_next_of_fetches carries.fetches).trans (congrArg (· + 2) stands.counter)
    · intro offset inside
      rw [stores.memory, Memory.byte_overlay_of_apart stores.fits]
      · exact stands.program offset inside
      · rw [Registers.length_upTo, operand, low]
        exact .inr (Nat.le_trans (by decide) (Nat.le_add_right _ _))
  · rw [carries.machine_eq]
    rfl

theorem recalling_loads (stands : machine.StandsIn recallingProgram 6)
    (low : machine.index = 0) : machine.LoadsRegisters ∧ machine.operandX = 2 := by
  have opcode : machine.opcode = 0xF265 := (stands.opcode (by decide)).trans (by decide)
  have decoded : Instruction.decode machine.opcode = .ok (.loadRegisters 2) := by
    rw [opcode]
    rfl
  have clear : machine.hindrance? (.loadRegisters 2) = none := by
    apply beyond?_eq_none_iff.mpr
    rw [low]
    decide
  have carries : machine.Carries (.loadRegisters 2) :=
    ⟨stands.fetches (by decide), decoded, clear⟩
  exact ⟨⟨opcode ▸ by decide, carries.done⟩, congrArg (Word.nibble · 8) opcode⟩

/-- The stored register is overwritten, a tick passes and a key goes down. -/
def recallingPause : List Action := [.step, .tick, .press 3]

theorem recalling_pauses (stands : machine.StandsIn recallingProgram 4)
    (low : machine.index = 0) :
    (machine.run recallingPause).LoadsRegisters ∧
      (machine.run recallingPause).index = machine.index ∧
      (machine.run recallingPause).value 0 = 9 := by
  have decoded : Instruction.decode 0x6009 = .ok (.set 0 9) := rfl
  have step : machine.step = .done (machine.advance.setRegister 0 9) :=
    stands.step (by decide) (by decide) decoded
  have last : (machine.advance.setRegister 0 9).StandsIn recallingProgram 6 :=
    stands.onward (by decide) rfl rfl
  have nine : (machine.advance.setRegister 0 9).value 0 = 9 := value_setRegister_self _ _ _
  have same : (machine.advance.setRegister 0 9).index = machine.index := rfl
  rw [recallingPause, run_cons, perform_step, step, Outcome.done, ← same]
  rw [← same] at low
  generalize machine.advance.setRegister 0 9 = next at last nine low
  have waits : (next.run [.tick, .press 3]).StandsIn recallingProgram 6 :=
    ⟨last.fits, last.counter, last.program⟩
  exact ⟨(recalling_loads waits low).1, rfl, nine⟩

theorem recalling_untouched (stands : machine.StandsIn recallingProgram 4) (address : Nat) :
    machine.Untouched recallingPause address := by
  have opcode : machine.opcode = 0x6009 := (stands.opcode (by decide)).trans (by decide)
  refine never_cons_iff.mpr ⟨?_, never_cons_iff.mpr ⟨?_, never_cons_iff.mpr ⟨?_, never_nil⟩⟩⟩
  · rintro ⟨writes⟩
    exact not_writesByte_of_opcode (opcode ▸ by decide) (opcode ▸ by decide) writes
  · intro writes
    cases writes
  · intro writes
    cases writes

/-- The first register is five when it is stored, nine when it is loaded, and then five again. -/
theorem stored_registers_return_overwritten :
    let start := { blank (.ofSeed 0) with
      memory := firmware.overlay loadAddress.toNat recallingProgram }
    let stored := start.step.machine
    let later := stored.step.machine.run recallingPause
    Reachable stored ∧ (stored.StoresRegisters ∧ later.LoadsRegisters ∧
      later.index = stored.index) ∧ stored.GetsBack recallingPause later ∧
        stored.value 0 = 5 ∧ later.value 0 = 9 ∧ later.step.machine.value 0 = 5 := by
  intro start stored later
  have booted : boot (.ofSeed 0) recallingProgram = .ok start := rfl
  have reachable : Reachable stored := (Reachable.boot booted).step
  have fresh : start.index = 0 := rfl
  obtain ⟨second, index, five⟩ := recalling_sets (standsIn_of_boot booted)
  have low : stored.index = 0 := index.trans fresh
  obtain ⟨stores, one, third, index'⟩ := recalling_stores second low
  obtain ⟨loads, index'', nine⟩ := recalling_pauses third (index'.trans low)
  have place : later.index = stored.index := index''.trans index'
  have back := stored_registers_return stores rfl loads place
  have again : later.step.machine.value 0 = stored.value 0 :=
    back.stored 0 (Nat.zero_le _) (Nat.zero_le _) (recalling_untouched third _)
  exact ⟨reachable, ⟨stores, loads, place⟩, back, five, nine, again.trans five⟩

end Chip8.Machine
