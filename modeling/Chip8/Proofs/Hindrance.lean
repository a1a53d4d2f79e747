import Chip8.Machine.Step

/-!
# What hinders an instruction

Eight kinds of instruction can fail. For each of them the hindrance says when
and with which fault; every other instruction always succeeds. An instruction
that fails leaves the machine as it found it, and one that does not has its
effect.
-/

namespace Chip8.Machine

/-- The fault of asking for `length` bytes from the index on, if they reach past memory. -/
def beyond? (machine : Machine) (length : Nat) : Option Fault :=
  if Memory.size < machine.index.toNat + length then some (Memory.outside machine.index) else none

/-- The fault of asking for the key that a register names, if there is no such key. -/
def keyless? (machine : Machine) (x : Register) : Option Fault :=
  if Keypad.hasKey (machine.value x) then none else some (.unknownKey (machine.value x))

/-- The number of bytes that drawing a sprite reads. -/
def spriteLength (machine : Machine) (y : Register) (height : Byte) : Nat :=
  let shape := Sprite.Shape.ofHeight height
  machine.shownRows y shape * shape.rowBytes

/-- The fault that an instruction runs into, if there is one. -/
def hindrance? (machine : Machine) : Instruction → Option Fault
  | .enter _ => if machine.stack.length < CallStack.limit then none else some .stackOverflow
  | .leave => if machine.stack = [] then some .stackUnderflow else none
  | .skipIfDown x => machine.keyless? x
  | .skipUnlessDown x => machine.keyless? x
  | .draw _ y height => machine.beyond? (machine.spriteLength y height)
  | .storeDecimal _ => machine.beyond? 3
  | .storeRegisters last => machine.beyond? (last.val + 1)
  | .loadRegisters last => machine.beyond? (last.val + 1)
  | _ => none

variable {machine : Machine} {fault : Fault}

theorem beyond?_eq_none_iff {length : Nat} :
    machine.beyond? length = none ↔ machine.index.toNat + length ≤ Memory.size := by
  rw [beyond?, ite_eq_right_iff, ← Nat.not_lt]
  constructor
  · intro none far
    cases none far
  · intro near far
    exact absurd far near

theorem beyond?_eq_some_iff {length : Nat} :
    machine.beyond? length = some fault ↔
      Memory.size < machine.index.toNat + length ∧ Memory.outside machine.index = fault := by
  unfold beyond?
  split
  · next far => rw [Option.some_inj, and_iff_right far]
  · next near =>
      constructor
      · intro impossible
        cases impossible
      · rintro ⟨far, -⟩
        exact absurd far near

theorem keyless?_eq_none_iff {x : Register} :
    machine.keyless? x = none ↔ Keypad.hasKey (machine.value x) = true := by
  unfold keyless?
  cases Keypad.hasKey (machine.value x) <;> simp

theorem keyless?_eq_some_iff {x : Register} :
    machine.keyless? x = some fault ↔
      Keypad.size ≤ (machine.value x).toNat ∧ .unknownKey (machine.value x) = fault := by
  unfold keyless? Keypad.hasKey
  by_cases key : (machine.value x).toNat < Keypad.size
  · simp [key, Nat.not_le.mpr key]
  · simp [key, Nat.not_lt.mp key]

theorem hindrance?_enter_eq_none_iff {target : Address} :
    machine.hindrance? (.enter target) = none ↔ machine.stack.length < CallStack.limit := by
  change (if machine.stack.length < CallStack.limit then none else some Fault.stackOverflow) =
    none ↔ _
  simp

theorem hindrance?_enter_eq_some_iff {target : Address} :
    machine.hindrance? (.enter target) = some fault ↔
      ¬ machine.stack.length < CallStack.limit ∧ .stackOverflow = fault := by
  change (if machine.stack.length < CallStack.limit then none else some Fault.stackOverflow) = _ ↔ _
  simp

theorem hindrance?_leave_eq_none_iff : machine.hindrance? .leave = none ↔ machine.stack ≠ [] := by
  change (if machine.stack = [] then some Fault.stackUnderflow else none) = none ↔ _
  simp

theorem hindrance?_leave_eq_some_iff :
    machine.hindrance? .leave = some fault ↔ machine.stack = [] ∧ .stackUnderflow = fault := by
  change (if machine.stack = [] then some Fault.stackUnderflow else none) = _ ↔ _
  simp

theorem enter_of_full {target : Address}
    (hindered : machine.hindrance? (.enter target) = some fault) :
    machine.enter target = .failed machine fault := by
  obtain ⟨full, rfl⟩ := hindrance?_enter_eq_some_iff.mp hindered
  rw [enter, CallStack.push?_of_full full]

theorem enter_of_room {target : Address} (clear : machine.hindrance? (.enter target) = none) :
    machine.enter target = .done { machine with
      stack := machine.programCounter :: machine.stack
      programCounter := target } := by
  rw [enter, CallStack.push?_of_room (hindrance?_enter_eq_none_iff.mp clear)]

theorem leave_of_empty (hindered : machine.hindrance? .leave = some fault) :
    machine.leave = .failed machine fault := by
  obtain ⟨empty, rfl⟩ := hindrance?_leave_eq_some_iff.mp hindered
  rw [leave, empty]
  rfl

theorem leave_of_entry {address : Address} {rest : List Address}
    (entries : machine.stack = address :: rest) :
    machine.leave = .done { machine with stack := rest, programCounter := address } := by
  rw [leave, entries]
  rfl

theorem store_of_beyond {values : List Byte} (far : machine.beyond? values.length = some fault) :
    machine.store values = .failed machine fault := by
  obtain ⟨outside, rfl⟩ := beyond?_eq_some_iff.mp far
  rw [store, Memory.write_outside outside]

theorem store_of_near {values : List Byte} (near : machine.beyond? values.length = none) :
    machine.store values = .done
      { machine with memory := machine.memory.overlay machine.index.toNat values } := by
  rw [store, Memory.write_inside (beyond?_eq_none_iff.mp near)]

theorem loadRegisters_of_beyond {last : Register}
    (far : machine.beyond? (last.val + 1) = some fault) :
    machine.loadRegisters last = .failed machine fault := by
  obtain ⟨outside, rfl⟩ := beyond?_eq_some_iff.mp far
  rw [loadRegisters, Memory.read_outside outside]

theorem loadRegisters_of_near {last : Register} (near : machine.beyond? (last.val + 1) = none) :
    machine.loadRegisters last = .done { machine with
      registers := machine.registers.fill
        (machine.memory.block machine.index.toNat (last.val + 1)) } := by
  rw [loadRegisters, Memory.read_inside (beyond?_eq_none_iff.mp near)]

/-- The bytes of the sprite rows that are read, put together to a sprite. -/
def shownSprite (machine : Machine) (y : Register) (height : Byte) : Sprite :=
  let shape := Sprite.Shape.ofHeight height
  shape.sprite (machine.shownRows y shape)
    (machine.memory.block machine.index.toNat (machine.spriteLength y height))

/-- What drawing a sprite shows, and whether it switched a cell off. -/
def drawn (machine : Machine) (x y : Register) (height : Byte) : Screen × Bool :=
  machine.screen.draw (machine.value x) (machine.value y) (machine.shownSprite y height)

theorem draw_of_beyond {x y : Register} {height : Byte}
    (far : machine.beyond? (machine.spriteLength y height) = some fault) :
    machine.draw x y height = .failed machine fault := by
  obtain ⟨outside, rfl⟩ := beyond?_eq_some_iff.mp far
  unfold spriteLength at outside
  dsimp only at outside
  unfold draw
  dsimp only
  rw [Memory.read_outside outside]

theorem draw_of_near {x y : Register} {height : Byte}
    (near : machine.beyond? (machine.spriteLength y height) = none) :
    machine.draw x y height = .done
      ({ machine with screen := (machine.drawn x y height).1 }.setFlag
        (machine.drawn x y height).2) := by
  have inside := beyond?_eq_none_iff.mp near
  unfold spriteLength at inside
  dsimp only at inside
  unfold draw
  dsimp only
  rw [Memory.read_inside inside]
  rfl

theorem skipOnKey_of_keyless {x : Register} {condition : Bool → Bool}
    (keyless : machine.keyless? x = some fault) :
    machine.skipOnKey x condition = .failed machine fault := by
  obtain ⟨absent, rfl⟩ := keyless?_eq_some_iff.mp keyless
  have unknown : Keypad.hasKey (machine.value x) = false :=
    decide_eq_false (Nat.not_lt.mpr absent)
  unfold skipOnKey
  dsimp only
  rw [unknown, if_neg Bool.false_ne_true]

theorem skipOnKey_of_key {x : Register} {condition : Bool → Bool}
    (key : machine.keyless? x = none) :
    machine.skipOnKey x condition = .done (machine.skipWhen
      (condition (machine.keypad.isDown (machine.value x)))) := by
  have known := keyless?_eq_none_iff.mp key
  unfold skipOnKey
  dsimp only
  rw [if_pos known]

/-- An instruction that is hindered fails with that fault, on the machine as it was. -/
theorem execute_of_hindrance {instruction : Instruction}
    (hindered : machine.hindrance? instruction = some fault) :
    machine.execute instruction = .failed machine fault := by
  cases instruction with
  | enter target => exact enter_of_full hindered
  | leave => exact leave_of_empty hindered
  | skipIfDown x => exact skipOnKey_of_keyless hindered
  | skipUnlessDown x => exact skipOnKey_of_keyless hindered
  | draw x y height => exact draw_of_beyond hindered
  | storeDecimal x => exact store_of_beyond hindered
  | storeRegisters last =>
      apply store_of_beyond
      rw [Registers.length_upTo]
      exact hindered
  | loadRegisters last => exact loadRegisters_of_beyond hindered
  | _ => cases hindered

/-- What an instruction makes of the machine if nothing hinders it. -/
def effect (machine : Machine) : Instruction → Machine
  | .enter target => { machine with
      stack := machine.programCounter :: machine.stack
      programCounter := target }
  | .leave => { machine with
      stack := machine.stack.tail
      programCounter := machine.stack.headD machine.programCounter }
  | .skipIfDown x => machine.skipWhen (machine.keypad.isDown (machine.value x))
  | .skipUnlessDown x => machine.skipWhen (!machine.keypad.isDown (machine.value x))
  | .draw x y height =>
      { machine with screen := (machine.drawn x y height).1 }.setFlag (machine.drawn x y height).2
  | .storeDecimal x => { machine with
      memory := machine.memory.overlay machine.index.toNat (decimalDigits (machine.value x)) }
  | .storeRegisters last => { machine with
      memory := machine.memory.overlay machine.index.toNat (machine.registers.upTo last) }
  | .loadRegisters last => { machine with
      registers := machine.registers.fill
        (machine.memory.block machine.index.toNat (last.val + 1)) }
  | instruction => (machine.execute instruction).machine

theorem effect_leave {address : Address} {rest : List Address}
    (entries : machine.stack = address :: rest) :
    machine.effect .leave = { machine with stack := rest, programCounter := address } := by
  change { machine with
    stack := machine.stack.tail
    programCounter := machine.stack.headD machine.programCounter } = _
  rw [entries]
  rfl

theorem effect_loadRegisters (machine : Machine) (last : Register) :
    machine.effect (.loadRegisters last) = { machine with
      registers := machine.registers.fill
        (machine.memory.block machine.index.toNat (last.val + 1)) } :=
  rfl

/-- An instruction that nothing hinders succeeds and has its effect. -/
theorem execute_of_clear {instruction : Instruction}
    (clear : machine.hindrance? instruction = none) :
    machine.execute instruction = .done (machine.effect instruction) := by
  cases instruction with
  | enter target => exact enter_of_room clear
  | leave =>
      obtain ⟨address, rest, entries⟩ :=
        List.exists_cons_of_ne_nil (hindrance?_leave_eq_none_iff.mp clear)
      rw [execute, leave_of_entry entries, effect_leave entries]
  | skipIfDown x => exact skipOnKey_of_key clear
  | skipUnlessDown x => exact skipOnKey_of_key clear
  | draw x y height => exact draw_of_near clear
  | storeDecimal x =>
      have near : machine.beyond? (decimalDigits (machine.value x)).length = none := clear
      exact store_of_near near
  | storeRegisters last =>
      apply store_of_near
      rw [Registers.length_upTo]
      exact clear
  | loadRegisters last => exact loadRegisters_of_near clear
  | _ => rfl

theorem execute_fault? (machine : Machine) (instruction : Instruction) :
    (machine.execute instruction).fault? = machine.hindrance? instruction := by
  cases hindered : machine.hindrance? instruction with
  | none => rw [execute_of_clear hindered]; rfl
  | some fault => rw [execute_of_hindrance hindered]; rfl

/-- Fetching an opcode neither makes nor removes a hindrance. -/
theorem hindrance?_advance (machine : Machine) (instruction : Instruction) :
    machine.advance.hindrance? instruction = machine.hindrance? instruction := by
  cases instruction <;> rfl

end Chip8.Machine
