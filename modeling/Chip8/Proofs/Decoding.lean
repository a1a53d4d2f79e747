import Mathlib.Data.List.Find
import Mathlib.Data.List.Nodup
import Chip8.Instruction.Table

/-!
# Reading opcodes

No opcode fits two patterns of the table, and every pattern stands in the group
of the opcodes that fit it. So an opcode is read as the one pattern that it
fits, wherever in the table that pattern stands. As no two patterns build the
same instruction, an instruction tells in turn which pattern its opcode fits.
-/

namespace Chip8

theorem Pattern.fits_iff {pattern : Pattern} {opcode : Word} :
    pattern.fits opcode = true ↔ opcode &&& pattern.mask = pattern.value :=
  beq_iff_eq

/-- Two patterns ask for different values of a bit that both of them fix. -/
def Pattern.Apart (first second : Pattern) : Prop :=
  first.value &&& second.mask ≠ second.value &&& first.mask

instance (first second : Pattern) : Decidable (first.Apart second) :=
  inferInstanceAs (Decidable (_ ≠ _))

theorem Pattern.Apart.not_fits {first second : Pattern} (apart : first.Apart second)
    {opcode : Word} (fits : first.fits opcode = true) : ¬ second.fits opcode = true := by
  intro other
  apply apart
  rw [← fits_iff.mp fits, ← fits_iff.mp other, UInt16.and_assoc, UInt16.and_assoc,
    UInt16.and_comm first.mask]

theorem opcodeTable_apart : opcodeTable.Pairwise Pattern.Apart := by
  decide +kernel

/-- An opcode fits at most one pattern of the table. -/
theorem eq_of_fits {first second : Pattern} (mem : first ∈ opcodeTable)
    (mem' : second ∈ opcodeTable) {opcode : Word} (fits : first.fits opcode = true)
    (fits' : second.fits opcode = true) : first = second := by
  by_contra different
  have apart := List.pairwise_iff_getElem.mp opcodeTable_apart
  obtain ⟨i, hi, rfl⟩ := List.getElem_of_mem mem
  obtain ⟨j, hj, rfl⟩ := List.getElem_of_mem mem'
  rcases Nat.lt_trichotomy i j with before | same | behind
  · exact (apart i j hi hj before).not_fits fits fits'
  · subst same
    exact different rfl
  · exact (apart j i hj hi behind).not_fits fits' fits

/-- The group of a word is told by its highest four bits alone. -/
theorem Word.nibble_twelve_and (word : Word) : (word &&& 0xF000).nibble 12 = word.nibble 12 := by
  apply Fin.ext
  have low : (0xF000 : Nat) >>> 12 = 2 ^ 4 - 1 := by decide
  simp only [Word.nibble, UInt16.toNat_and, UInt16.reduceToNat, Nat.shiftRight_and_distrib, low,
    Nat.and_two_pow_sub_one_eq_mod, Nat.mod_mod]

theorem toNat_lowTwelve_le (opcode : Word) : (opcode &&& 0x0FFF).toNat ≤ 0x0FFF := by
  rw [UInt16.toNat_and]
  exact Nat.and_le_right

theorem mask_covers_group : ∀ pattern ∈ opcodeTable, pattern.mask &&& 0xF000 = 0xF000 := by
  decide +kernel

theorem group_eq_of_fits {pattern : Pattern} (mem : pattern ∈ opcodeTable) {opcode : Word}
    (fits : pattern.fits opcode = true) : pattern.group = (Operands.ofOpcode opcode).group := by
  change pattern.value.nibble 12 = opcode.nibble 12
  rw [← Word.nibble_twelve_and pattern.value, ← Pattern.fits_iff.mp fits, UInt16.and_assoc,
    mask_covers_group pattern mem, Word.nibble_twelve_and]

/-- Looking through the patterns of one group finds what looking through all of them finds. -/
theorem find?_filter_group {table : List Pattern} (known : ∀ pattern ∈ table, pattern ∈ opcodeTable)
    (opcode : Word) :
    (table.filter fun pattern => pattern.group == (Operands.ofOpcode opcode).group).find?
        (·.fits opcode) = table.find? (·.fits opcode) := by
  rw [List.find?_filter]
  apply List.find?_congr
  intro pattern mem
  cases fits : pattern.fits opcode with
  | false => simp
  | true => simp [group_eq_of_fits (known pattern mem) fits]

/-- Looking through the group of an opcode finds what looking through the whole table finds. -/
theorem find?_groups (opcode : Word) :
    (groups.get (Operands.ofOpcode opcode).group).find? (·.fits opcode) =
      opcodeTable.find? (·.fits opcode) := by
  have group : groups.get (Operands.ofOpcode opcode).group =
      opcodeTable.filter fun pattern => pattern.group == (Operands.ofOpcode opcode).group :=
    Vector.getElem_ofFn _
  rw [group]
  exact find?_filter_group (fun _ mem => mem) opcode

/-- An opcode that fits a pattern of the table is read as that pattern says. -/
theorem decode_of_fits {pattern : Pattern} (mem : pattern ∈ opcodeTable) {opcode : Word}
    (fits : pattern.fits opcode = true) :
    Instruction.decode opcode = .ok (pattern.build (Operands.ofOpcode opcode)) := by
  unfold Instruction.decode
  dsimp only
  rw [find?_groups]
  cases found : opcodeTable.find? (·.fits opcode) with
  | none => exact absurd fits (List.find?_eq_none.mp found pattern mem)
  | some other =>
      have other_fits : other.fits opcode = true :=
        List.find?_some (p := fun pattern : Pattern => pattern.fits opcode) found
      have same : other = pattern :=
        eq_of_fits (List.mem_of_find?_eq_some found) mem other_fits fits
      rw [same]

theorem decode_of_form {pattern : Pattern} (mem : pattern ∈ opcodeTable) {opcode : Word}
    (form : opcode &&& pattern.mask = pattern.value) :
    Instruction.decode opcode = .ok (pattern.build (Operands.ofOpcode opcode)) :=
  decode_of_fits mem (Pattern.fits_iff.mpr form)

/-- An opcode that fits no pattern is a native routine in group zero and unknown elsewhere. -/
theorem decode_of_not_fits {opcode : Word}
    (unfit : ∀ pattern ∈ opcodeTable, ¬ pattern.fits opcode = true) :
    Instruction.decode opcode =
      if (opcode.nibble 12).val = 0 then .ok (.nativeRoutine (opcode &&& 0x0FFF))
      else .error (.unknownOpcode opcode) := by
  unfold Instruction.decode
  dsimp only
  rw [find?_groups, List.find?_eq_none.mpr unfit]
  rfl

theorem decode_eq_error_iff {opcode : Word} {fault : Fault} :
    Instruction.decode opcode = .error fault ↔
      ((opcode.nibble 12).val ≠ 0 ∧ ∀ pattern ∈ opcodeTable, ¬ pattern.fits opcode = true) ∧
        fault = .unknownOpcode opcode := by
  by_cases fit : ∃ pattern ∈ opcodeTable, pattern.fits opcode = true
  · obtain ⟨pattern, mem, fits⟩ := fit
    rw [decode_of_fits mem fits]
    constructor
    · intro impossible
      cases impossible
    · rintro ⟨⟨-, unfit⟩, -⟩
      exact absurd fits (unfit pattern mem)
  · have unfit : ∀ pattern ∈ opcodeTable, ¬ pattern.fits opcode = true := by
      intro pattern mem fits
      exact fit ⟨pattern, mem, fits⟩
    rw [decode_of_not_fits unfit]
    by_cases native : (opcode.nibble 12).val = 0
    · rw [if_pos native]
      constructor
      · intro impossible
        cases impossible
      · rintro ⟨⟨foreign, -⟩, -⟩
        exact absurd native foreign
    · rw [if_neg native, Except.error.injEq]
      constructor
      · intro unknown
        exact ⟨⟨native, unfit⟩, unknown.symm⟩
      · rintro ⟨-, unknown⟩
        exact unknown.symm

/-- What an opcode is read as is built by a pattern that it fits, or is a native routine. -/
theorem build_or_native_of_decode {opcode : Word} {instruction : Instruction}
    (decoded : Instruction.decode opcode = .ok instruction) :
    (∃ pattern ∈ opcodeTable, pattern.fits opcode = true ∧
      pattern.build (Operands.ofOpcode opcode) = instruction) ∨
      ∃ address, instruction = .nativeRoutine address := by
  by_cases fit : ∃ pattern ∈ opcodeTable, pattern.fits opcode = true
  · obtain ⟨pattern, mem, fits⟩ := fit
    rw [decode_of_fits mem fits, Except.ok.injEq] at decoded
    exact .inl ⟨pattern, mem, fits, decoded⟩
  · have unfit : ∀ pattern ∈ opcodeTable, ¬ pattern.fits opcode = true := by
      intro pattern mem fits
      exact fit ⟨pattern, mem, fits⟩
    rw [decode_of_not_fits unfit] at decoded
    split at decoded
    · exact .inr ⟨_, (Except.ok.inj decoded).symm⟩
    · cases decoded

/-- The value of the pattern that builds an instruction; none builds a native routine. -/
def Instruction.patternValue? : Instruction → Option Word
  | .nativeRoutine _ => none
  | .clear => some 0x00E0
  | .scrollDown _ => some 0x00C0
  | .leave => some 0x00EE
  | .scrollRight => some 0x00FB
  | .scrollLeft => some 0x00FC
  | .selectMode .low => some 0x00FE
  | .selectMode .high => some 0x00FF
  | .jump _ => some 0x1000
  | .enter _ => some 0x2000
  | .skipIfByte _ _ => some 0x3000
  | .skipUnlessByte _ _ => some 0x4000
  | .skipIfSame _ _ => some 0x5000
  | .set _ _ => some 0x6000
  | .increase _ _ => some 0x7000
  | .combine .copy _ _ => some 0x8000
  | .combine .or _ _ => some 0x8001
  | .combine .and _ _ => some 0x8002
  | .combine .xor _ _ => some 0x8003
  | .combine .add _ _ => some 0x8004
  | .combine .subtract _ _ => some 0x8005
  | .shiftRight _ => some 0x8006
  | .combine .subtractFrom _ _ => some 0x8007
  | .shiftLeft _ => some 0x800E
  | .skipUnlessSame _ _ => some 0x9000
  | .setIndex _ => some 0xA000
  | .jumpBeyond _ => some 0xB000
  | .random _ _ => some 0xC000
  | .draw _ _ _ => some 0xD000
  | .skipIfDown _ => some 0xE09E
  | .skipUnlessDown _ => some 0xE0A1
  | .readDelay _ => some 0xF007
  | .awaitKey _ => some 0xF00A
  | .setDelay _ => some 0xF015
  | .setSound _ => some 0xF018
  | .increaseIndex _ => some 0xF01E
  | .smallGlyph _ => some 0xF029
  | .largeGlyph _ => some 0xF030
  | .storeDecimal _ => some 0xF033
  | .storeRegisters _ => some 0xF055
  | .loadRegisters _ => some 0xF065
  | .saveRegisters => some 0xF075
  | .restoreRegisters => some 0xF085

theorem patternValue?_build : ∀ pattern ∈ opcodeTable, ∀ operands,
    (pattern.build operands).patternValue? = some pattern.value := by
  have rows : opcodeTable.Forall fun pattern => ∀ operands,
      (pattern.build operands).patternValue? = some pattern.value := by
    unfold opcodeTable
    repeat' apply And.intro
    all_goals intro operands; rfl
  exact List.forall_iff_forall_mem.mp rows

theorem opcodeTable_values_nodup : (opcodeTable.map Pattern.value).Nodup := by
  decide +kernel

/-- An opcode is read as an instruction that a pattern builds just when it fits that pattern and
holds the operands of that instruction. -/
theorem decode_eq_build_iff (pattern : Pattern) (mem : pattern ∈ opcodeTable) (opcode : Word)
    (operands : Operands) :
    Instruction.decode opcode = .ok (pattern.build operands) ↔
      opcode &&& pattern.mask = pattern.value ∧
        pattern.build (Operands.ofOpcode opcode) = pattern.build operands := by
  constructor
  · intro decoded
    have values := patternValue?_build pattern mem operands
    rcases build_or_native_of_decode decoded with ⟨other, other_mem, fits, built⟩ | ⟨_, native⟩
    · rw [← built, patternValue?_build other other_mem, Option.some_inj] at values
      obtain rfl : other = pattern :=
        List.inj_on_of_nodup_map opcodeTable_values_nodup other_mem mem values
      exact ⟨Pattern.fits_iff.mp fits, built⟩
    · rw [native] at values
      cases values
  · rintro ⟨fits, built⟩
    rw [decode_of_fits mem (Pattern.fits_iff.mpr fits), built]

theorem decode_eq_exactly_iff (value : Word) (instruction : Instruction)
    (mem : Pattern.exactly value instruction ∈ opcodeTable) {opcode : Word} :
    Instruction.decode opcode = .ok instruction ↔ opcode = value := by
  have built := decode_eq_build_iff _ mem opcode (Operands.ofOpcode opcode)
  have whole : opcode &&& 0xFFFF = opcode := UInt16.and_neg_one
  simpa only [Pattern.exactly, and_true, whole] using built

theorem decode_eq_address_iff (value : Word) (build : Address → Instruction)
    (mem : Pattern.address value build ∈ opcodeTable) (injective : Function.Injective build)
    {opcode : Word} {target : Address} :
    Instruction.decode opcode = .ok (build target) ↔
      opcode &&& 0xF000 = value ∧ opcode &&& 0x0FFF = target := by
  have built := decode_eq_build_iff _ mem opcode { Operands.ofOpcode opcode with nnn := target }
  simpa only [Pattern.address, Operands.ofOpcode, injective.eq_iff] using built

theorem decode_eq_register_iff (value : Word) (build : Register → Instruction)
    (mem : Pattern.register value build ∈ opcodeTable) (injective : Function.Injective build)
    {opcode : Word} {x : Register} :
    Instruction.decode opcode = .ok (build x) ↔
      opcode &&& 0xF0FF = value ∧ opcode.nibble 8 = x := by
  have built := decode_eq_build_iff _ mem opcode { Operands.ofOpcode opcode with x := x }
  simpa only [Pattern.register, Operands.ofOpcode, injective.eq_iff] using built

theorem decode_eq_byte_iff (value : Word) (build : Register → Byte → Instruction)
    (mem : Pattern.byte value build ∈ opcodeTable) (injective : Function.Injective2 build)
    {opcode : Word} {x : Register} {constant : Byte} :
    Instruction.decode opcode = .ok (build x constant) ↔
      opcode &&& 0xF000 = value ∧ opcode.nibble 8 = x ∧
        (opcode &&& 0x00FF).toUInt8 = constant := by
  have built := decode_eq_build_iff _ mem opcode
    { Operands.ofOpcode opcode with x := x, kk := constant }
  simpa only [Pattern.byte, Operands.ofOpcode, injective.eq_iff] using built

theorem decode_eq_draw_iff {opcode : Word} {x y : Register} {height : Byte} :
    Instruction.decode opcode = .ok (.draw x y height) ↔
      opcode &&& 0xF000 = 0xD000 ∧ opcode.nibble 8 = x ∧ opcode.nibble 4 = y ∧
        (opcode &&& 0x000F).toUInt8 = height := by
  have mem : Pattern.mk 0xF000 0xD000 (fun operands => .draw operands.x operands.y operands.n) ∈
      opcodeTable := by
    simp [opcodeTable]
  have built := decode_eq_build_iff _ mem opcode
    { Operands.ofOpcode opcode with x := x, y := y, n := height }
  simpa only [Operands.ofOpcode, Instruction.draw.injEq] using built

/-! ## Single instructions by the form of their opcodes -/

section Forms

variable {opcode : Word} {target : Address} {x last : Register}

theorem decode_eq_leave_iff : Instruction.decode opcode = .ok .leave ↔ opcode = 0x00EE :=
  decode_eq_exactly_iff 0x00EE .leave (by simp [opcodeTable])

theorem decode_eq_jump_iff : Instruction.decode opcode = .ok (.jump target) ↔
    opcode &&& 0xF000 = 0x1000 ∧ opcode &&& 0x0FFF = target :=
  decode_eq_address_iff 0x1000 .jump (by simp [opcodeTable]) fun _ _ => Instruction.jump.inj

theorem decode_eq_enter_iff : Instruction.decode opcode = .ok (.enter target) ↔
    opcode &&& 0xF000 = 0x2000 ∧ opcode &&& 0x0FFF = target :=
  decode_eq_address_iff 0x2000 .enter (by simp [opcodeTable]) fun _ _ => Instruction.enter.inj

theorem decode_eq_jumpBeyond_iff : Instruction.decode opcode = .ok (.jumpBeyond target) ↔
    opcode &&& 0xF000 = 0xB000 ∧ opcode &&& 0x0FFF = target :=
  decode_eq_address_iff 0xB000 .jumpBeyond (by simp [opcodeTable])
    fun _ _ => Instruction.jumpBeyond.inj

theorem decode_eq_skipIfDown_iff : Instruction.decode opcode = .ok (.skipIfDown x) ↔
    opcode &&& 0xF0FF = 0xE09E ∧ opcode.nibble 8 = x :=
  decode_eq_register_iff 0xE09E .skipIfDown (by simp [opcodeTable])
    fun _ _ => Instruction.skipIfDown.inj

theorem decode_eq_skipUnlessDown_iff : Instruction.decode opcode = .ok (.skipUnlessDown x) ↔
    opcode &&& 0xF0FF = 0xE0A1 ∧ opcode.nibble 8 = x :=
  decode_eq_register_iff 0xE0A1 .skipUnlessDown (by simp [opcodeTable])
    fun _ _ => Instruction.skipUnlessDown.inj

theorem decode_eq_storeDecimal_iff : Instruction.decode opcode = .ok (.storeDecimal x) ↔
    opcode &&& 0xF0FF = 0xF033 ∧ opcode.nibble 8 = x :=
  decode_eq_register_iff 0xF033 .storeDecimal (by simp [opcodeTable])
    fun _ _ => Instruction.storeDecimal.inj

theorem decode_eq_storeRegisters_iff : Instruction.decode opcode = .ok (.storeRegisters last) ↔
    opcode &&& 0xF0FF = 0xF055 ∧ opcode.nibble 8 = last :=
  decode_eq_register_iff 0xF055 .storeRegisters (by simp [opcodeTable])
    fun _ _ => Instruction.storeRegisters.inj

theorem decode_eq_loadRegisters_iff : Instruction.decode opcode = .ok (.loadRegisters last) ↔
    opcode &&& 0xF0FF = 0xF065 ∧ opcode.nibble 8 = last :=
  decode_eq_register_iff 0xF065 .loadRegisters (by simp [opcodeTable])
    fun _ _ => Instruction.loadRegisters.inj

theorem decode_eq_random_iff {mask : Byte} : Instruction.decode opcode = .ok (.random x mask) ↔
    opcode &&& 0xF000 = 0xC000 ∧ opcode.nibble 8 = x ∧ (opcode &&& 0x00FF).toUInt8 = mask :=
  decode_eq_byte_iff 0xC000 .random (by simp [opcodeTable]) fun _ _ _ _ => Instruction.random.inj

theorem decode_eq_increaseIndex_iff : Instruction.decode opcode = .ok (.increaseIndex x) ↔
    opcode &&& 0xF0FF = 0xF01E ∧ opcode.nibble 8 = x :=
  decode_eq_register_iff 0xF01E .increaseIndex (by simp [opcodeTable])
    fun _ _ => Instruction.increaseIndex.inj

end Forms

end Chip8
