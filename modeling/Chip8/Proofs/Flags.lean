import Chip8.Proofs.Control

/-!
# Results and flags

Five instructions leave a byte and a flag which together say what has been
computed: the carry of a sum, whether a difference has borrowed, the bit that a
shift drops. Both registers are read before either is written, and the flag is
written before the result. So the arithmetic is right whichever of the
registers is the flag register.
-/

namespace Chip8

/-- The computations whose flag completes their result. -/
inductive Arithmetic where
  | add
  | subtract
  /-- The second register minus the first. -/
  | subtractFrom
  | shiftRight
  | shiftLeft
deriving DecidableEq, Repr

namespace Arithmetic

/-- The opcode without its registers. -/
def form : Arithmetic → Word
  | .add => 0x8004
  | .subtract => 0x8005
  | .subtractFrom => 0x8007
  | .shiftRight => 0x8006
  | .shiftLeft => 0x800E

def instruction : Arithmetic → Register → Register → Instruction
  | .add => .combine .add
  | .subtract => .combine .subtract
  | .subtractFrom => .combine .subtractFrom
  | .shiftRight => fun x _ => .shiftRight x
  | .shiftLeft => fun x _ => .shiftLeft x

/-- What result and flag say together about the operands, all of them numbers. -/
def Law (first second result flag : Int) : Arithmetic → Prop
  | .add => first + second = 256 * flag + result
  | .subtract => first - second = result - 256 * (1 - flag)
  | .subtractFrom => second - first = result - 256 * (1 - flag)
  | .shiftRight => first = 2 * result + flag
  | .shiftLeft => 2 * first = 256 * flag + result

/-! ## The laws -/

theorem law_add (first second : Byte) :
    Law first.toNat second.toNat (first + second).toNat
      (decide (256 ≤ first.toNat + second.toNat)).toNat .add := by
  have first_lt := first.toNat_lt
  have second_lt := second.toNat_lt
  rw [Law, UInt8.toNat_add]
  by_cases carries : 256 ≤ first.toNat + second.toNat
  · rw [decide_eq_true carries, Bool.toNat_true]
    omega
  · rw [decide_eq_false carries, Bool.toNat_false]
    omega

theorem law_subtract (first second : Byte) :
    Law first.toNat second.toNat (first - second).toNat (decide (second ≤ first)).toNat
      .subtract := by
  have first_lt := first.toNat_lt
  have second_lt := second.toNat_lt
  rw [Law]
  by_cases covers : second ≤ first
  · have le := UInt8.le_iff_toNat_le.mp covers
    rw [decide_eq_true covers, Bool.toNat_true, UInt8.toNat_sub_of_le first second covers]
    omega
  · have lt : first.toNat < second.toNat :=
      Nat.lt_of_not_le fun le => covers (UInt8.le_iff_toNat_le.mpr le)
    rw [decide_eq_false covers, Bool.toNat_false, UInt8.toNat_sub]
    omega

theorem law_shiftRight (first second : Byte) :
    Law first.toNat second.toNat (first >>> 1).toNat (first.toNat.testBit 0).toNat
      .shiftRight := by
  have half : (first >>> 1).toNat = first.toNat / 2 := by simp [Nat.shiftRight_eq_div_pow]
  rw [Law, half, Nat.toNat_testBit]
  omega

theorem law_shiftLeft (first second : Byte) :
    Law first.toNat second.toNat (first <<< 1).toNat (first.toNat.testBit 7).toNat
      .shiftLeft := by
  have bound := first.toNat_lt
  have double : (first <<< 1).toNat = 2 * first.toNat % 256 := by
    simp [Nat.shiftLeft_eq, Nat.mul_comm]
  rw [Law, double, Nat.toNat_testBit]
  omega

end Arithmetic

namespace Machine

variable {machine : Machine} {arithmetic : Arithmetic}

/-- The flag goes into its register and then the result into the first register, and they keep the
law for the values that both registers had before. -/
theorem execute_arithmetic (machine : Machine) (arithmetic : Arithmetic) (x y : Register) :
    ∃ (result : Byte) (flag : Bool),
      machine.execute (arithmetic.instruction x y) =
        .done ((machine.setFlag flag).setRegister x result) ∧
      arithmetic.Law (machine.value x).toNat (machine.value y).toNat result.toNat flag.toNat := by
  cases arithmetic with
  | add => exact ⟨_, _, rfl, Arithmetic.law_add _ _⟩
  | subtract => exact ⟨_, _, rfl, Arithmetic.law_subtract _ _⟩
  | subtractFrom =>
      -- The same law with the operands the other way round.
      exact ⟨_, _, rfl, Arithmetic.law_subtract (machine.value y) (machine.value x)⟩
  | shiftRight => exact ⟨_, _, rfl, Arithmetic.law_shiftRight _ _⟩
  | shiftLeft => exact ⟨_, _, rfl, Arithmetic.law_shiftLeft _ _⟩

theorem decode_arithmetic {opcode : Word} (form : opcode &&& 0xF00F = arithmetic.form) :
    Instruction.decode opcode =
      .ok (arithmetic.instruction (opcode.nibble 8) (opcode.nibble 4)) := by
  have mem : Pattern.operation arithmetic.form arithmetic.instruction ∈ opcodeTable := by
    cases arithmetic <;> simp [opcodeTable, Arithmetic.form, Arithmetic.instruction]
  exact decode_of_form mem form

/-- What a step comes to that computes a result and a flag. -/
structure Computes (machine : Machine) (arithmetic : Arithmetic) (x y : Register)
    (result flag : Nat) : Prop where
  succeeds : machine.step.fault? = none
  result_lt : result < 256
  flag_bit : flag = 0 ∨ flag = 1
  law : arithmetic.Law (machine.value x).toNat (machine.value y).toNat result flag
  stored : (machine.step.machine.value x).toNat = result
  /-- The flag register holds the flag unless the result has been put there. -/
  reported : (machine.step.machine.value flagRegister).toNat =
    if x = flagRegister then result else flag
  kept : ∀ v, v ≠ x → v ≠ flagRegister → machine.step.machine.value v = machine.value v
  rest : machine.step.machine =
    { machine.advance with registers := machine.step.machine.registers }

/-- Result and flag of a step keep the law of its arithmetic, whichever registers it names. -/
theorem step_arithmetic (fetches : machine.Fetches)
    (form : machine.opcode &&& 0xF00F = arithmetic.form) :
    ∃ result flag, machine.Computes arithmetic machine.operandX machine.operandY result flag := by
  obtain ⟨result, flag, executed, law⟩ :=
    machine.advance.execute_arithmetic arithmetic machine.operandX machine.operandY
  have stepped : machine.step =
      .done ((machine.advance.setFlag flag).setRegister machine.operandX result) :=
    (step_of_decode fetches (decode_arithmetic form)).trans executed
  refine ⟨result.toNat, flag.toNat, ?_⟩
  constructor
  case succeeds =>
    rw [stepped]
    rfl
  case result_lt => exact result.toNat_lt
  case flag_bit => cases flag <;> simp
  case law => exact law
  case stored =>
    rw [stepped]
    exact congrArg UInt8.toNat (value_setRegister_self _ _ _)
  case reported =>
    rw [stepped]
    by_cases same : machine.operandX = flagRegister
    · rw [if_pos same, same]
      exact congrArg UInt8.toNat (value_setRegister_self _ _ _)
    · have flagged : ((machine.advance.setFlag flag).setRegister machine.operandX result).value
          flagRegister = if flag then 1 else 0 :=
        (value_setRegister_of_ne _ (Ne.symm same) _).trans (value_setRegister_self _ _ _)
      rw [if_neg same]
      refine (congrArg UInt8.toNat flagged).trans ?_
      cases flag <;> rfl
  case kept =>
    intro v other unreported
    rw [stepped]
    exact (value_setRegister_of_ne _ other _).trans (value_setRegister_of_ne _ unreported _)
  case rest =>
    rw [stepped]
    rfl

/-- A difference whose second operand is the flag register: 5 - 9 borrows. -/
theorem step_arithmetic_flag_operand :
    let start := { blank (.ofSeed 0) with
      memory := firmware.overlay loadAddress.toNat [0x80, 0xF5] }
    let machine := (start.setRegister firstRegister 5).setRegister flagRegister 9
    machine.Fetches ∧ machine.opcode &&& 0xF00F = Arithmetic.subtract.form ∧
      machine.operandX = firstRegister ∧ machine.operandY = flagRegister ∧
      machine.Computes .subtract firstRegister flagRegister 252 0 := by
  intro start machine
  have booted : boot (.ofSeed 0) [0x80, 0xF5] = .ok start := rfl
  have opcode : machine.opcode = 0x80F5 := opcode_of_boot booted
  have fetches : machine.Fetches := by
    change start.Fetches
    decide
  have form : machine.opcode &&& 0xF00F = Arithmetic.subtract.form := by
    rw [opcode]
    rfl
  have first : machine.operandX = firstRegister := congrArg (Word.nibble · 8) opcode
  have second : machine.operandY = flagRegister := congrArg (Word.nibble · 4) opcode
  obtain ⟨result, flag, computes⟩ := step_arithmetic fetches form
  rw [first, second] at computes
  have law : (5 : Int) - 9 = result - 256 * (1 - flag) := computes.law
  have result_lt := computes.result_lt
  obtain ⟨rfl, rfl⟩ : result = 252 ∧ flag = 0 := by
    have bit := computes.flag_bit
    omega
  exact ⟨fetches, form, first, second, computes⟩

end Machine

end Chip8
