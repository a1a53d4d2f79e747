import Chip8.Proofs.Stepping

/-!
# The marks of instructions

Every instruction leaves its marks on a few parts of a machine and keeps its
hands off the rest. Which marks it leaves is told by its kind alone, and so by
the form of its opcode. Where no mark is left nothing has changed.
-/

namespace Chip8

/-- What an instruction can leave its mark on. -/
inductive Mark where
  /-- The register that the opcode names first. -/
  | result
  | flag
  /-- The registers up to the one that the opcode names, filled from memory. -/
  | loaded
  /-- All registers, taken from the copy that is kept aside. -/
  | restored
  | index
  /-- Three bytes of memory. -/
  | digits
  /-- The bytes of memory that the registers up to a named one are stored into. -/
  | block
  | stack
  | saved
  | random
  | screen
  | delay
  | sound
  /-- The program counter, other than by moving past the opcode. -/
  | counter
deriving DecidableEq, Repr

/-- An instruction that combines registers tells the flag register about it. -/
def Operation.reports : Operation → Bool
  | .add => true
  | .subtract => true
  | .subtractFrom => true
  | _ => false

def Instruction.marks : Instruction → List Mark
  | .nativeRoutine _ => []
  | .clear => [.screen]
  | .scrollDown _ => [.screen]
  | .scrollRight => [.screen]
  | .scrollLeft => [.screen]
  | .selectMode _ => [.screen]
  | .leave => [.stack, .counter]
  | .jump _ => [.counter]
  | .enter _ => [.stack, .counter]
  | .skipIfByte _ _ => [.counter]
  | .skipUnlessByte _ _ => [.counter]
  | .skipIfSame _ _ => [.counter]
  | .skipUnlessSame _ _ => [.counter]
  | .set _ _ => [.result]
  | .increase _ _ => [.result]
  | .combine operation _ _ => if operation.reports then [.result, .flag] else [.result]
  | .shiftRight _ => [.result, .flag]
  | .shiftLeft _ => [.result, .flag]
  | .setIndex _ => [.index]
  | .jumpBeyond _ => [.counter]
  | .random _ _ => [.result, .random]
  | .draw _ _ _ => [.flag, .screen]
  | .skipIfDown _ => [.counter]
  | .skipUnlessDown _ => [.counter]
  | .readDelay _ => [.result]
  | .awaitKey _ => [.result, .counter]
  | .setDelay _ => [.delay]
  | .setSound _ => [.sound]
  | .increaseIndex _ => [.flag, .index]
  | .smallGlyph _ => [.index]
  | .largeGlyph _ => [.index]
  | .storeDecimal _ => [.digits]
  | .storeRegisters _ => [.block]
  | .loadRegisters _ => [.loaded]
  | .saveRegisters => [.saved]
  | .restoreRegisters => [.restored]

/-- The register that an instruction names, the first one if it names two. -/
def Instruction.operand? : Instruction → Option Register
  | .skipIfByte x _ => some x
  | .skipUnlessByte x _ => some x
  | .skipIfSame x _ => some x
  | .skipUnlessSame x _ => some x
  | .set x _ => some x
  | .increase x _ => some x
  | .combine _ x _ => some x
  | .shiftRight x => some x
  | .shiftLeft x => some x
  | .random x _ => some x
  | .draw x _ _ => some x
  | .skipIfDown x => some x
  | .skipUnlessDown x => some x
  | .readDelay x => some x
  | .awaitKey x => some x
  | .setDelay x => some x
  | .setSound x => some x
  | .increaseIndex x => some x
  | .smallGlyph x => some x
  | .largeGlyph x => some x
  | .storeDecimal x => some x
  | .storeRegisters last => some last
  | .loadRegisters last => some last
  | _ => none

/-! ## Marks by the form of the opcode -/

/-- A form of opcodes: the bits that all of them share. -/
structure Form where
  mask : Word
  value : Word
deriving DecidableEq, Repr

def Form.Fits (form : Form) (opcode : Word) : Prop := opcode &&& form.mask = form.value

def Pattern.form (pattern : Pattern) : Form := ⟨pattern.mask, pattern.value⟩

/-- The forms of the opcodes that leave a mark. -/
def Mark.forms : Mark → List Form
  | .result => [⟨0xF000, 0x6000⟩, ⟨0xF000, 0x7000⟩, ⟨0xF00F, 0x8000⟩, ⟨0xF00F, 0x8001⟩,
      ⟨0xF00F, 0x8002⟩, ⟨0xF00F, 0x8003⟩, ⟨0xF00F, 0x8004⟩, ⟨0xF00F, 0x8005⟩, ⟨0xF00F, 0x8006⟩,
      ⟨0xF00F, 0x8007⟩, ⟨0xF00F, 0x800E⟩, ⟨0xF000, 0xC000⟩, ⟨0xF0FF, 0xF007⟩, ⟨0xF0FF, 0xF00A⟩]
  | .flag => [⟨0xF00F, 0x8004⟩, ⟨0xF00F, 0x8005⟩, ⟨0xF00F, 0x8006⟩, ⟨0xF00F, 0x8007⟩,
      ⟨0xF00F, 0x800E⟩, ⟨0xF000, 0xD000⟩, ⟨0xF0FF, 0xF01E⟩]
  | .loaded => [⟨0xF0FF, 0xF065⟩]
  | .restored => [⟨0xF0FF, 0xF085⟩]
  | .index => [⟨0xF000, 0xA000⟩, ⟨0xF0FF, 0xF01E⟩, ⟨0xF0FF, 0xF029⟩, ⟨0xF0FF, 0xF030⟩]
  | .digits => [⟨0xF0FF, 0xF033⟩]
  | .block => [⟨0xF0FF, 0xF055⟩]
  | .stack => [⟨0xF000, 0x2000⟩, ⟨0xFFFF, 0x00EE⟩]
  | .saved => [⟨0xF0FF, 0xF075⟩]
  | .random => [⟨0xF000, 0xC000⟩]
  | .screen => [⟨0xFFFF, 0x00E0⟩, ⟨0xFFF0, 0x00C0⟩, ⟨0xFFFF, 0x00FB⟩, ⟨0xFFFF, 0x00FC⟩,
      ⟨0xFFFF, 0x00FE⟩, ⟨0xFFFF, 0x00FF⟩, ⟨0xF000, 0xD000⟩]
  | .delay => [⟨0xF0FF, 0xF015⟩]
  | .sound => [⟨0xF0FF, 0xF018⟩]
  | .counter => [⟨0xFFFF, 0x00EE⟩, ⟨0xF000, 0x1000⟩, ⟨0xF000, 0x2000⟩, ⟨0xF000, 0xB000⟩,
      ⟨0xF000, 0x3000⟩, ⟨0xF000, 0x4000⟩, ⟨0xF000, 0x5000⟩, ⟨0xF000, 0x9000⟩, ⟨0xF0FF, 0xE09E⟩,
      ⟨0xF0FF, 0xE0A1⟩, ⟨0xF0FF, 0xF00A⟩]

theorem form_mem_of_mark : ∀ pattern ∈ opcodeTable, ∀ operands,
    ∀ mark ∈ (pattern.build operands).marks, pattern.form ∈ mark.forms := by
  have rows : opcodeTable.Forall fun pattern => ∀ operands,
      ((pattern.build operands).marks.all fun mark => mark.forms.contains pattern.form) = true := by
    unfold opcodeTable
    repeat' apply And.intro
    all_goals intro operands; rfl
  intro pattern mem operands mark marked
  have listed := List.forall_iff_forall_mem.mp rows pattern mem operands
  exact List.contains_iff_mem.mp (List.all_eq_true.mp listed mark marked)

theorem operand?_build : ∀ pattern ∈ opcodeTable, ∀ operands x,
    (pattern.build operands).operand? = some x → x = operands.x := by
  have rows : opcodeTable.Forall fun pattern => ∀ operands x,
      (pattern.build operands).operand? = some x → x = operands.x := by
    unfold opcodeTable
    repeat' apply And.intro
    all_goals
      intro operands x named
      cases named <;> rfl
  exact List.forall_iff_forall_mem.mp rows

section Decoded

variable {opcode : Word} {instruction : Instruction}

/-- An opcode that leaves a mark has one of the forms that do. -/
theorem exists_form_of_mark (decoded : Instruction.decode opcode = .ok instruction) {mark : Mark}
    (marked : mark ∈ instruction.marks) : ∃ form ∈ mark.forms, form.Fits opcode := by
  rcases build_or_native_of_decode decoded with ⟨pattern, mem, fits, rfl⟩ | ⟨address, rfl⟩
  · exact ⟨pattern.form, form_mem_of_mark pattern mem _ mark marked, Pattern.fits_iff.mp fits⟩
  · cases marked

/-- The register that an instruction names is the second digit of its opcode. -/
theorem operand_eq_nibble (decoded : Instruction.decode opcode = .ok instruction) {x : Register}
    (named : instruction.operand? = some x) : x = opcode.nibble 8 := by
  rcases build_or_native_of_decode decoded with ⟨pattern, mem, -, rfl⟩ | ⟨address, rfl⟩
  · exact operand?_build pattern mem _ x named
  · cases named

end Decoded

/-! ## Nothing changes without a mark -/

namespace Machine

variable {machine : Machine} {instruction : Instruction} {x v : Register}

/-- The machine `before`, but where a mark is left and in the registers it is as `after`. -/
def altered (before after : Machine) (marks : List Mark) : Machine where
  programCounter := if .counter ∈ marks then after.programCounter else before.programCounter
  index := if .index ∈ marks then after.index else before.index
  registers := after.registers
  saved := if .saved ∈ marks then after.saved else before.saved
  stack := if .stack ∈ marks then after.stack else before.stack
  memory := if .digits ∈ marks ∨ .block ∈ marks then after.memory else before.memory
  random := if .random ∈ marks then after.random else before.random
  screen := if .screen ∈ marks then after.screen else before.screen
  keypad := before.keypad
  timers :=
    { delay := if .delay ∈ marks then after.timers.delay else before.timers.delay
      sound := if .sound ∈ marks then after.timers.sound else before.timers.sound }

theorem skipWhen_altered (machine : Machine) (condition : Bool) :
    machine.altered (machine.skipWhen condition) [.counter] = machine.skipWhen condition := by
  cases condition <;> rfl

theorem awaitKey_altered (machine : Machine) (x : Register) :
    machine.altered (machine.awaitKey x) [.result, .counter] = machine.awaitKey x := by
  unfold awaitKey
  cases machine.keypad.awaited? <;> rfl

theorem increaseIndex_altered (machine : Machine) (x : Register) :
    machine.altered (machine.increaseIndex x) [.flag, .index] = machine.increaseIndex x := by
  unfold increaseIndex
  dsimp only
  split <;> rfl

/-- Apart from the registers, an instruction changes nothing that it leaves no mark on. -/
theorem effect_altered (machine : Machine) (instruction : Instruction) :
    machine.altered (machine.effect instruction) instruction.marks =
      machine.effect instruction := by
  cases instruction with
  | skipIfByte x value => exact skipWhen_altered machine _
  | skipUnlessByte x value => exact skipWhen_altered machine _
  | skipIfSame x y => exact skipWhen_altered machine _
  | skipUnlessSame x y => exact skipWhen_altered machine _
  | skipIfDown x => exact skipWhen_altered machine _
  | skipUnlessDown x => exact skipWhen_altered machine _
  | awaitKey x => exact awaitKey_altered machine x
  | increaseIndex x => exact increaseIndex_altered machine x
  | combine operation x y => cases operation <;> rfl
  | loadRegisters last =>
      rw [effect_loadRegisters]
      rfl
  | _ => rfl

/-! ## Registers -/

/-- The ways in which an instruction can write a register. -/
inductive Writes (instruction : Instruction) (v : Register) : Prop where
  | result (marked : .result ∈ instruction.marks) (named : instruction.operand? = some v)
  | flag (marked : .flag ∈ instruction.marks) (reported : v = flagRegister)
  | loaded (marked : .loaded ∈ instruction.marks) {last : Register}
      (named : instruction.operand? = some last) (range : v.val ≤ last.val)
  | restored (marked : .restored ∈ instruction.marks)

theorem eq_of_value_setRegister_ne {value : Byte}
    (changed : (machine.setRegister x value).value v ≠ machine.value v) : x = v := by
  by_contra apart
  apply changed
  rw [value_setRegister, if_neg apart]

theorem eq_of_value_setFlag_ne {flag : Bool}
    (changed : (machine.setFlag flag).value v ≠ machine.value v) : v = flagRegister :=
  (eq_of_value_setRegister_ne changed).symm

theorem eq_or_eq_of_value_ne {flag : Bool} {value : Byte}
    (changed : ((machine.setFlag flag).setRegister x value).value v ≠ machine.value v) :
    x = v ∨ v = flagRegister := by
  by_cases same : x = v
  · exact .inl same
  · rw [value_setRegister, if_neg same] at changed
    exact .inr (eq_of_value_setFlag_ne changed)

theorem value_skipWhen (machine : Machine) (condition : Bool) (v : Register) :
    (machine.skipWhen condition).value v = machine.value v := by
  cases condition <;> rfl

theorem writes_combine {operation : Operation} {y : Register}
    (changed : (machine.combine operation x y).value v ≠ machine.value v) :
    Writes (.combine operation x y) v := by
  by_cases same : x = v
  · refine .result ?_ (congrArg some same)
    cases operation <;> exact List.mem_cons_self
  · unfold combine at changed
    rw [value_setRegister, if_neg same] at changed
    cases operation with
    | add => exact .flag (.tail _ (.head _)) (eq_of_value_setFlag_ne changed)
    | subtract => exact .flag (.tail _ (.head _)) (eq_of_value_setFlag_ne changed)
    | subtractFrom => exact .flag (.tail _ (.head _)) (eq_of_value_setFlag_ne changed)
    | _ => exact absurd rfl changed

theorem writes_awaitKey (changed : (machine.awaitKey x).value v ≠ machine.value v) :
    Writes (.awaitKey x) v := by
  unfold awaitKey at changed
  cases held : machine.keypad.awaited? with
  | some key =>
      rw [held] at changed
      exact .result (.head _) (congrArg some (eq_of_value_setRegister_ne changed))
  | none =>
      rw [held] at changed
      exact absurd rfl changed

theorem writes_increaseIndex (changed : (machine.increaseIndex x).value v ≠ machine.value v) :
    Writes (.increaseIndex x) v := by
  unfold increaseIndex at changed
  dsimp only at changed
  split at changed
  · exact .flag (.head _) (eq_of_value_setFlag_ne changed)
  · exact absurd rfl changed

theorem value_fill {values : List Byte} (short : values.length ≤ v.val) :
    (machine.registers.fill values).get v = machine.value v := by
  rw [Registers.get_fill, List.getElem?_eq_none short]
  rfl

theorem writes_loadRegisters {last : Register}
    (changed : (machine.effect (.loadRegisters last)).value v ≠ machine.value v) :
    Writes (.loadRegisters last) v := by
  refine .loaded (.head _) rfl ?_
  by_contra beyond
  apply changed
  rw [effect_loadRegisters]
  apply value_fill
  rw [Memory.length_block]
  exact Nat.lt_of_not_le beyond

/-- An instruction that changes a register writes it. -/
theorem writes_of_value_ne (changed : (machine.effect instruction).value v ≠ machine.value v) :
    Writes instruction v := by
  cases instruction with
  | set x value => exact .result (.head _) (congrArg some (eq_of_value_setRegister_ne changed))
  | increase x value =>
      exact .result (.head _) (congrArg some (eq_of_value_setRegister_ne changed))
  | random x mask => exact .result (.head _) (congrArg some (eq_of_value_setRegister_ne changed))
  | readDelay x => exact .result (.head _) (congrArg some (eq_of_value_setRegister_ne changed))
  | shiftRight x =>
      rcases eq_or_eq_of_value_ne changed with same | flag
      · exact .result (.head _) (congrArg some same)
      · exact .flag (.tail _ (.head _)) flag
  | shiftLeft x =>
      rcases eq_or_eq_of_value_ne changed with same | flag
      · exact .result (.head _) (congrArg some same)
      · exact .flag (.tail _ (.head _)) flag
  | draw x y height => exact .flag (.head _) (eq_of_value_setFlag_ne changed)
  | combine operation x y => exact writes_combine changed
  | awaitKey x => exact writes_awaitKey changed
  | increaseIndex x => exact writes_increaseIndex changed
  | loadRegisters last => exact writes_loadRegisters changed
  | restoreRegisters => exact .restored (.head _)
  | skipIfByte x value => exact absurd (value_skipWhen machine _ v) changed
  | skipUnlessByte x value => exact absurd (value_skipWhen machine _ v) changed
  | skipIfSame x y => exact absurd (value_skipWhen machine _ v) changed
  | skipUnlessSame x y => exact absurd (value_skipWhen machine _ v) changed
  | skipIfDown x => exact absurd (value_skipWhen machine _ v) changed
  | skipUnlessDown x => exact absurd (value_skipWhen machine _ v) changed
  | _ => exact absurd rfl changed

/-! ## Memory -/

/-- The ways in which an instruction can write the byte at an address. -/
inductive Stores (machine : Machine) (instruction : Instruction) (address : Nat) : Prop where
  | digits (marked : .digits ∈ instruction.marks) (behind : machine.index.toNat ≤ address)
      (range : address ≤ machine.index.toNat + 2)
  | block (marked : .block ∈ instruction.marks) {last : Register}
      (named : instruction.operand? = some last) (behind : machine.index.toNat ≤ address)
      (range : address ≤ machine.index.toNat + last.val)

theorem memory_effect
    (unmarked : ¬ (.digits ∈ instruction.marks ∨ .block ∈ instruction.marks)) :
    (machine.effect instruction).memory = machine.memory := by
  rw [← effect_altered]
  exact if_neg unmarked

/-- An instruction that changes a byte of memory stores into it. -/
theorem stores_of_byte_ne {address : Nat} (clear : machine.hindrance? instruction = none)
    (changed : (machine.effect instruction).memory.byte address ≠ machine.memory.byte address) :
    machine.Stores instruction address := by
  cases instruction with
  | storeDecimal x =>
      have fits := beyond?_eq_none_iff.mp clear
      obtain ⟨behind, inside⟩ := Memory.inside_of_byte_overlay_ne fits changed
      exact .digits (.head _) behind (Nat.le_of_lt_succ inside)
  | storeRegisters last =>
      have fits := beyond?_eq_none_iff.mp clear
      rw [← Registers.length_upTo machine.registers last] at fits
      obtain ⟨behind, inside⟩ := Memory.inside_of_byte_overlay_ne fits changed
      rw [Registers.length_upTo] at inside
      exact .block (.head _) rfl behind (Nat.le_of_lt_succ inside)
  | combine operation x y => cases operation <;> exact absurd rfl changed
  | _ =>
      refine absurd (congrArg (Memory.byte · address) (memory_effect ?_)) changed
      exact of_decide_eq_false rfl

end Machine

end Chip8
