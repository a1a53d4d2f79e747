import Chip8.Proofs.Checked.Decoding
import Chip8.Proofs.Decoding

/-!
# Digits that make no difference

What an opcode is read as tells the opcode, apart from one digit in six forms
of opcodes. To see this, count the bits that a pattern fixes and those that its
operands are read from: together they are all sixteen, or all but that digit.
-/

namespace Chip8

/-! ## Bits of words -/

namespace Word

/-- Two words have the same bits where a third word has ones. -/
def AgreeOn (bits first second : Word) : Prop := first &&& bits = second &&& bits

variable {bits more first second : Word}

theorem agreeOn_iff_testBit : AgreeOn bits first second ↔
    ∀ place, bits.toNat.testBit place = true →
      first.toNat.testBit place = second.toNat.testBit place := by
  unfold AgreeOn
  rw [← UInt16.toNat_inj, UInt16.toNat_and, UInt16.toNat_and]
  constructor
  · intro same place set
    have bit := congrArg (Nat.testBit · place) same
    simpa only [Nat.testBit_and, set, Bool.and_true] using bit
  · intro agree
    apply Nat.eq_of_testBit_eq
    intro place
    rw [Nat.testBit_and, Nat.testBit_and]
    cases set : bits.toNat.testBit place with
    | false => rw [Bool.and_false, Bool.and_false]
    | true => rw [agree place set]

theorem agreeOn_or_iff : AgreeOn (bits ||| more) first second ↔
    AgreeOn bits first second ∧ AgreeOn more first second := by
  simp only [agreeOn_iff_testBit, UInt16.toNat_or, Nat.testBit_or, Bool.or_eq_true, or_imp,
    forall_and]

theorem agreeOn_zero : AgreeOn 0 first second := by
  rw [AgreeOn, UInt16.and_zero, UInt16.and_zero]

theorem agreeOn_all_iff : AgreeOn 0xFFFF first second ↔ first = second := by
  have whole (word : Word) : word &&& 0xFFFF = word := UInt16.and_neg_one
  rw [AgreeOn, whole, whole]

/-- The bits of a digit are that digit, moved up to its place. -/
theorem toNat_and_digit {shift : Nat} (digit : bits.toNat = 15 <<< shift) (word : Word) :
    (word &&& bits).toNat = (word.nibble shift).val <<< shift := by
  have low : (word.nibble shift).val = word.toNat >>> shift &&& 15 :=
    (Nat.and_two_pow_sub_one_eq_mod _ 4).symm
  rw [UInt16.toNat_and, digit, low]
  apply Nat.eq_of_testBit_eq
  intro place
  by_cases high : shift ≤ place
  · simp [high, Nat.testBit_shiftLeft, Nat.testBit_shiftRight, Nat.add_sub_cancel' high]
  · simp [high, Nat.testBit_shiftLeft]

theorem nibble_eq_iff {shift : Nat} (digit : bits.toNat = 15 <<< shift) :
    first.nibble shift = second.nibble shift ↔ AgreeOn bits first second := by
  rw [AgreeOn, ← UInt16.toNat_inj, toNat_and_digit digit, toNat_and_digit digit, Fin.ext_iff,
    Nat.shiftLeft_eq, Nat.shiftLeft_eq, Nat.mul_left_inj (Nat.ne_of_gt (Nat.two_pow_pos shift))]

/-- A word whose first digit is zero consists of the other three. -/
theorem and_lowTwelve {word : Word} (zero : (word.nibble 12).val = 0) : word &&& 0x0FFF = word := by
  have top : word &&& 0xF000 = 0 := by
    rw [← UInt16.toNat_inj, toNat_and_digit (by decide : (0xF000 : Word).toNat = 15 <<< 12), zero]
    rfl
  have low : AgreeOn 0x0FFF (word &&& 0x0FFF) word := by
    rw [AgreeOn, UInt16.and_assoc, UInt16.and_self]
  have high : AgreeOn 0xF000 (word &&& 0x0FFF) word := by
    rw [AgreeOn, UInt16.and_assoc, UInt16.and_comm 0x0FFF, ← UInt16.and_assoc, top, UInt16.zero_and]
  exact agreeOn_all_iff.mp (agreeOn_or_iff.mpr ⟨low, high⟩)

/-- Bits of the low byte are kept when a word is cut down to a byte. -/
theorem toUInt8_and_eq_iff (small : bits.toNat < 256) :
    (first &&& bits).toUInt8 = (second &&& bits).toUInt8 ↔ AgreeOn bits first second := by
  have kept (word : Word) : (word &&& bits).toUInt8.toNat = (word &&& bits).toNat := by
    rw [UInt16.toNat_toUInt8, UInt16.toNat_and]
    exact Nat.mod_eq_of_lt (Nat.lt_of_le_of_lt Nat.and_le_right small)
  rw [AgreeOn, ← UInt8.toNat_inj, ← UInt16.toNat_inj, kept, kept]

end Word

/-! ## Bits that an instruction shows -/

namespace Pattern

/-- What a pattern builds tells these bits of the opcode, and no others. -/
def Shows (pattern : Pattern) (bits : Word) : Prop :=
  ∀ first second, pattern.build (Operands.ofOpcode first) =
    pattern.build (Operands.ofOpcode second) ↔ Word.AgreeOn bits first second

variable {value : Word}

theorem x_eq_iff {first second : Word} :
    first.nibble 8 = second.nibble 8 ↔ Word.AgreeOn 0x0F00 first second :=
  Word.nibble_eq_iff (by decide)

theorem y_eq_iff {first second : Word} :
    first.nibble 4 = second.nibble 4 ↔ Word.AgreeOn 0x00F0 first second :=
  Word.nibble_eq_iff (by decide)

theorem shows_exactly (instruction : Instruction) : (exactly value instruction).Shows 0 :=
  fun _ _ => iff_of_true rfl Word.agreeOn_zero

theorem shows_address {build : Address → Instruction} (injective : Function.Injective build) :
    (address value build).Shows 0x0FFF :=
  fun _ _ => injective.eq_iff

theorem shows_byte {build : Register → Byte → Instruction} (injective : Function.Injective2 build) :
    (byte value build).Shows (0x0F00 ||| 0x00FF) := by
  intro first second
  rw [Word.agreeOn_or_iff, ← x_eq_iff, ← Word.toUInt8_and_eq_iff (by decide)]
  exact injective.eq_iff

theorem shows_pair {build : Register → Register → Instruction}
    (injective : Function.Injective2 build) : (pair value build).Shows (0x0F00 ||| 0x00F0) := by
  intro first second
  rw [Word.agreeOn_or_iff, ← x_eq_iff, ← y_eq_iff]
  exact injective.eq_iff

theorem shows_operation {build : Register → Register → Instruction}
    (injective : Function.Injective2 build) :
    (operation value build).Shows (0x0F00 ||| 0x00F0) :=
  @shows_pair value build injective

theorem shows_operation_first {build : Register → Instruction}
    (injective : Function.Injective build) :
    (operation value fun x _ => build x).Shows 0x0F00 := by
  intro first second
  rw [← x_eq_iff]
  exact injective.eq_iff

theorem shows_register {build : Register → Instruction} (injective : Function.Injective build) :
    (register value build).Shows 0x0F00 :=
  @shows_operation_first value build injective

theorem shows_register_none (instruction : Instruction) :
    (register value fun _ => instruction).Shows 0 :=
  @shows_exactly value instruction

theorem shows_scrollDown :
    (Pattern.mk 0xFFF0 value fun operands => .scrollDown operands.n).Shows 0x000F := by
  intro first second
  rw [← Word.toUInt8_and_eq_iff (by decide)]
  exact Iff.of_eq (Instruction.scrollDown.injEq _ _)

theorem shows_draw :
    (Pattern.mk 0xF000 value fun operands => .draw operands.x operands.y operands.n).Shows
      (0x0F00 ||| (0x00F0 ||| 0x000F)) := by
  intro first second
  rw [Word.agreeOn_or_iff, Word.agreeOn_or_iff, ← x_eq_iff, ← y_eq_iff,
    ← Word.toUInt8_and_eq_iff (by decide)]
  exact Iff.of_eq (Instruction.draw.injEq _ _ _ _ _ _)

end Pattern

/-! ## The digits that are spared -/

/-- A form of opcodes in which a digit makes no difference. -/
structure LooseForm where
  mask : Word
  value : Word
  /-- The bits of the digit that makes none. -/
  spare : Word
deriving DecidableEq, Repr

/-- Comparing two registers spares the last digit, shifting a register the third one, and saving or
restoring all registers the second one. -/
def looseForms : List LooseForm := [
  ⟨0xF000, 0x5000, 0x000F⟩, ⟨0xF000, 0x9000, 0x000F⟩,
  ⟨0xF00F, 0x8006, 0x00F0⟩, ⟨0xF00F, 0x800E, 0x00F0⟩,
  ⟨0xF0FF, 0xF075, 0x0F00⟩, ⟨0xF0FF, 0xF085, 0x0F00⟩]

/-- Both opcodes have the form, and they differ at most in its spare digit. -/
structure LooseForm.Joins (form : LooseForm) (first second : Word) : Prop where
  fits : first &&& form.mask = form.value
  fits' : second &&& form.mask = form.value
  rest : first &&& ~~~form.spare = second &&& ~~~form.spare

namespace Pattern

/-- The bits of the opcodes of a pattern that make no difference. -/
def spare (pattern : Pattern) : Word :=
  ((looseForms.find? fun form => form.value == pattern.value).map LooseForm.spare).getD 0

theorem exists_shows : ∀ pattern ∈ opcodeTable,
    ∃ bits, pattern.Shows bits ∧ pattern.mask ||| bits = ~~~pattern.spare := by
  have rows : opcodeTable.Forall fun pattern =>
      ∃ bits, pattern.Shows bits ∧ pattern.mask ||| bits = ~~~pattern.spare := by
    unfold opcodeTable
    repeat' apply And.intro
    -- One of these lemmas is about a row, by what the row builds and from which operands.
    all_goals first
      | exact ⟨_, shows_exactly _, rfl⟩
      | exact ⟨_, shows_scrollDown, rfl⟩
      | exact ⟨_, shows_draw, rfl⟩
      | exact ⟨_, shows_register_none _, rfl⟩
      | exact ⟨_, shows_address (by intro _ _ same; cases same; rfl), rfl⟩
      | exact ⟨_, shows_register (by intro _ _ same; cases same; rfl), rfl⟩
      | exact ⟨_, shows_operation_first (by intro _ _ same; cases same; rfl), rfl⟩
      | exact ⟨_, shows_byte (by intro _ _ _ _ same; cases same; exact ⟨rfl, rfl⟩), rfl⟩
      | exact ⟨_, shows_pair (by intro _ _ _ _ same; cases same; exact ⟨rfl, rfl⟩), rfl⟩
      | exact ⟨_, shows_operation (by intro _ _ _ _ same; cases same; exact ⟨rfl, rfl⟩), rfl⟩
  exact List.forall_iff_forall_mem.mp rows

/-- Two opcodes of one pattern are read alike if they differ at most in what the pattern spares. -/
theorem build_eq_iff {pattern : Pattern} (mem : pattern ∈ opcodeTable) {first second : Word}
    (fits : pattern.fits first = true) (fits' : pattern.fits second = true) :
    pattern.build (Operands.ofOpcode first) = pattern.build (Operands.ofOpcode second) ↔
      Word.AgreeOn (~~~pattern.spare) first second := by
  obtain ⟨bits, shows, kept⟩ := exists_shows pattern mem
  have fixed : Word.AgreeOn pattern.mask first second :=
    (fits_iff.mp fits).trans (fits_iff.mp fits').symm
  rw [← kept, Word.agreeOn_or_iff, shows, and_iff_right fixed]

theorem spare_eq_zero_or_loose : ∀ pattern ∈ opcodeTable, pattern.spare = 0 ∨
    ∃ form ∈ looseForms, form.mask = pattern.mask ∧ form.value = pattern.value ∧
      form.spare = pattern.spare := by
  decide +kernel

theorem exists_of_loose : ∀ form ∈ looseForms, ∃ pattern ∈ opcodeTable,
    pattern.mask = form.mask ∧ pattern.value = form.value ∧ pattern.spare = form.spare := by
  decide +kernel

end Pattern

section Reading

variable {opcode first second : Word} {instruction : Instruction}

theorem lowTwelve_of_decode_native {address : Address}
    (decoded : Instruction.decode opcode = .ok (.nativeRoutine address)) :
    (opcode.nibble 12).val = 0 ∧ opcode &&& 0x0FFF = address := by
  have unfit : ∀ pattern ∈ opcodeTable, ¬ pattern.fits opcode = true := by
    intro pattern mem fits
    rw [decode_of_fits mem fits, Except.ok.injEq] at decoded
    have values := patternValue?_build pattern mem (Operands.ofOpcode opcode)
    rw [decoded] at values
    cases values
  rw [decode_of_not_fits unfit] at decoded
  split at decoded
  · next native => exact ⟨native, Instruction.nativeRoutine.inj (Except.ok.inj decoded)⟩
  · cases decoded

/-- A native routine is called by the opcode that is its address. -/
theorem eq_of_decode_native {address : Address}
    (decoded : Instruction.decode opcode = .ok (.nativeRoutine address)) : opcode = address := by
  obtain ⟨native, low⟩ := lowTwelve_of_decode_native decoded
  exact (Word.and_lowTwelve native).symm.trans low

/-- Opcodes that are read as one instruction are the same, but for a digit that is spared. -/
theorem eq_or_joins_of_decode (decoded : Instruction.decode first = .ok instruction)
    (decoded' : Instruction.decode second = .ok instruction) :
    first = second ∨ ∃ form ∈ looseForms, form.Joins first second := by
  rcases build_or_native_of_decode decoded with ⟨pattern, mem, fits, built⟩ | ⟨address, rfl⟩
  · have values := patternValue?_build pattern mem (Operands.ofOpcode first)
    rcases build_or_native_of_decode decoded' with ⟨other, mem', fits', built'⟩ | ⟨address, rfl⟩
    · rw [built, ← built', patternValue?_build other mem', Option.some_inj] at values
      obtain rfl := List.inj_on_of_nodup_map opcodeTable_values_nodup mem' mem values
      have agree := (Pattern.build_eq_iff mem fits fits').mp (built.trans built'.symm)
      rcases Pattern.spare_eq_zero_or_loose other mem with none | ⟨form, loose, mask, value, spare⟩
      · rw [none] at agree
        exact .inl (Word.agreeOn_all_iff.mp agree)
      · refine .inr ⟨form, loose, ?_, ?_, ?_⟩
        · rw [mask, value]
          exact Pattern.fits_iff.mp fits
        · rw [mask, value]
          exact Pattern.fits_iff.mp fits'
        · rw [spare]
          exact agree
    · rw [built] at values
      cases values
  · exact .inl ((eq_of_decode_native decoded).trans (eq_of_decode_native decoded').symm)

theorem decode_eq_of_joins {form : LooseForm} (loose : form ∈ looseForms)
    (joins : form.Joins first second) :
    Instruction.decode first = Instruction.decode second := by
  obtain ⟨pattern, mem, mask, value, spare⟩ := Pattern.exists_of_loose form loose
  have fits : pattern.fits first = true := by
    rw [Pattern.fits_iff, mask, value]
    exact joins.fits
  have fits' : pattern.fits second = true := by
    rw [Pattern.fits_iff, mask, value]
    exact joins.fits'
  have agree : Word.AgreeOn (~~~pattern.spare) first second := by
    rw [spare]
    exact joins.rest
  rw [decode_of_fits mem fits, decode_of_fits mem fits',
    (Pattern.build_eq_iff mem fits fits').mpr agree]

/-! ## The operands of an instruction -/

/-- The registers that an instruction names. -/
def Instruction.registers : Instruction → List Register
  | .skipIfSame x y => [x, y]
  | .skipUnlessSame x y => [x, y]
  | .combine _ x y => [x, y]
  | .draw x y _ => [x, y]
  | .skipIfByte x _ => [x]
  | .skipUnlessByte x _ => [x]
  | .set x _ => [x]
  | .increase x _ => [x]
  | .shiftRight x => [x]
  | .shiftLeft x => [x]
  | .random x _ => [x]
  | .skipIfDown x => [x]
  | .skipUnlessDown x => [x]
  | .readDelay x => [x]
  | .awaitKey x => [x]
  | .setDelay x => [x]
  | .setSound x => [x]
  | .increaseIndex x => [x]
  | .smallGlyph x => [x]
  | .largeGlyph x => [x]
  | .storeDecimal x => [x]
  | .storeRegisters last => [last]
  | .loadRegisters last => [last]
  | _ => []

/-- The addresses that an instruction names. -/
def Instruction.addresses : Instruction → List Address
  | .nativeRoutine address => [address]
  | .jump target => [target]
  | .enter target => [target]
  | .setIndex address => [address]
  | .jumpBeyond target => [target]
  | _ => []

theorem registers_build : ∀ pattern ∈ opcodeTable, ∀ operands,
    (pattern.build operands).registers = [] ∨
      (pattern.build operands).registers = [operands.x] ∨
      (pattern.build operands).registers = [operands.x, operands.y] := by
  have rows : opcodeTable.Forall fun pattern => ∀ operands,
      (pattern.build operands).registers = [] ∨
        (pattern.build operands).registers = [operands.x] ∨
        (pattern.build operands).registers = [operands.x, operands.y] := by
    unfold opcodeTable
    repeat' apply And.intro
    all_goals
      intro operands
      first
      | exact .inl rfl
      | exact .inr (.inl rfl)
      | exact .inr (.inr rfl)
  exact List.forall_iff_forall_mem.mp rows

theorem addresses_build : ∀ pattern ∈ opcodeTable, ∀ operands,
    (pattern.build operands).addresses = [] ∨
      (pattern.build operands).addresses = [operands.nnn] := by
  have rows : opcodeTable.Forall fun pattern => ∀ operands,
      (pattern.build operands).addresses = [] ∨
        (pattern.build operands).addresses = [operands.nnn] := by
    unfold opcodeTable
    repeat' apply And.intro
    all_goals
      intro operands
      first
      | exact .inl rfl
      | exact .inr rfl
  exact List.forall_iff_forall_mem.mp rows

/-- The operands of an instruction are digits of its opcode, and so they are small. -/
structure Instruction.OperandsFrom (instruction : Instruction) (opcode : Word) : Prop where
  registers : ∀ x ∈ instruction.registers, x.val ≤ 15 ∧
    (x.val = (opcode >>> 8 &&& 0x0F).toUInt8.toNat ∨
      x.val = (opcode >>> 4 &&& 0x0F).toUInt8.toNat)
  addresses : ∀ address ∈ instruction.addresses,
    address.toNat ≤ 0x0FFF ∧ address = opcode &&& 0x0FFF

theorem operandsFrom_of_decode (decoded : Instruction.decode opcode = .ok instruction) :
    instruction.OperandsFrom opcode := by
  have x : (opcode.nibble 8).val = (opcode >>> 8 &&& 0x0F).toUInt8.toNat :=
    (@toNat_shiftRight_and opcode 8 (by decide)).symm
  have y : (opcode.nibble 4).val = (opcode >>> 4 &&& 0x0F).toUInt8.toNat :=
    (@toNat_shiftRight_and opcode 4 (by decide)).symm
  have small (register : Register) : register.val ≤ 15 := Nat.le_of_lt_succ register.isLt
  rcases build_or_native_of_decode decoded with ⟨pattern, mem, -, rfl⟩ | ⟨address, rfl⟩
  · constructor
    · intro register named
      refine ⟨small register, ?_⟩
      rcases registers_build pattern mem (Operands.ofOpcode opcode) with names | names | names
      · rw [names] at named
        cases named
      · rw [names, List.mem_singleton] at named
        exact .inl (named ▸ x)
      · rw [names, List.mem_pair] at named
        rcases named with rfl | rfl
        · exact .inl x
        · exact .inr y
    · intro address named
      rcases addresses_build pattern mem (Operands.ofOpcode opcode) with names | names
      · rw [names] at named
        cases named
      · rw [names, List.mem_singleton] at named
        subst named
        exact ⟨toNat_lowTwelve_le opcode, rfl⟩
  · obtain ⟨-, low⟩ := lowTwelve_of_decode_native decoded
    subst low
    constructor
    · intro register named
      cases named
    · intro address named
      rw [List.mem_singleton.mp named]
      exact ⟨toNat_lowTwelve_le opcode, rfl⟩

/-- Reading an opcode forgets at most one digit of it, and that only in a few forms; and what it
takes for operands are digits of the opcode. -/
theorem decode_forgets_spare_digits {other : Instruction}
    (decoded : Instruction.decode first = .ok instruction)
    (decoded' : Instruction.decode second = .ok other) :
    (instruction = other ↔ first = second ∨ ∃ form ∈ looseForms, form.Joins first second) ∧
      instruction.OperandsFrom first := by
  refine ⟨⟨?_, ?_⟩, operandsFrom_of_decode decoded⟩
  · rintro rfl
    exact eq_or_joins_of_decode decoded decoded'
  · intro alike
    have same : Instruction.decode first = Instruction.decode second := by
      rcases alike with rfl | ⟨form, loose, joins⟩
      · rfl
      · exact decode_eq_of_joins loose joins
    rw [decoded, decoded'] at same
    exact Except.ok.inj same

/-- Two opcodes that compare the same registers, with different last digits. -/
theorem decode_forgets_spare_digits_compare :
    let instruction := Instruction.skipIfSame ⟨1, by decide⟩ ⟨2, by decide⟩
    (Instruction.decode 0x5120 = .ok instruction ∧ Instruction.decode 0x512F = .ok instruction) ∧
      (instruction = instruction ↔
        (0x5120 : Word) = 0x512F ∨ ∃ form ∈ looseForms, form.Joins 0x5120 0x512F) ∧
      instruction.OperandsFrom 0x5120 := by
  intro instruction
  have decoded : Instruction.decode 0x5120 = .ok instruction := rfl
  have decoded' : Instruction.decode 0x512F = .ok instruction := rfl
  exact ⟨⟨decoded, decoded'⟩, decode_forgets_spare_digits decoded decoded'⟩

end Reading

end Chip8
