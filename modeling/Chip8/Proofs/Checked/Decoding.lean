import Chip8.Instruction.Table
import Chip8.Proofs.Checked.Operations

/-!
# Decoding with every index checked

The digits of an opcode name registers and groups of patterns, and the top
digit of a pattern names its group. Each digit is checked where it becomes an
index; a digit of a word is always below sixteen.
-/

namespace Chip8

open Checked

variable {opcode : Word}

/-- The operands of an opcode; its upper three digits become indices. -/
def Operands.ofOpcode? (opcode : Word) : Option Operands := do
  let group ← index? (opcode >>> 12).toUInt8.toNat
  let x ← index? (opcode >>> 8 &&& 0x0F).toUInt8.toNat
  let y ← index? (opcode >>> 4 &&& 0x0F).toUInt8.toNat
  some {
    group := group
    x := x
    y := y
    n := (opcode &&& 0x000F).toUInt8
    kk := (opcode &&& 0x00FF).toUInt8
    nnn := opcode &&& 0x0FFF }

/-- Appends a pattern to its group. -/
def Pattern.sort? (groups : Vector (List Pattern) 16) (pattern : Pattern) :
    Option (Vector (List Pattern) 16) := do
  let group ← index? (pattern.value >>> 12).toNat
  some (groups.setIfInBounds group.val (groups.get group ++ [pattern]))

/-- The groups, by sorting the table pattern by pattern. -/
def groups? : Option (Vector (List Pattern) 16) :=
  opcodeTable.foldlM Pattern.sort? (Vector.replicate 16 [])

def Instruction.decode? (opcode : Word) : Option (Except Fault Instruction) := do
  let operands ← Operands.ofOpcode? opcode
  let groups ← groups?
  some <| match (groups.get operands.group).find? (·.fits opcode) with
    | some pattern => .ok (pattern.build operands)
    | none =>
        if operands.group.val = 0 then .ok (.nativeRoutine operands.nnn)
        else .error (.unknownOpcode opcode)

/-- The top digit of a word needs no mask. -/
theorem toNat_shiftRight_twelve (word : Word) : (word >>> 12).toNat = (word.nibble 12).val := by
  have small : word.toNat < 65536 := word.toNat_lt
  rw [UInt16.toNat_shiftRight, Word.nibble]
  change word.toNat >>> 12 = word.toNat >>> 12 % 16
  rw [Nat.shiftRight_eq_div_pow]
  omega

theorem toNat_shiftRight_and (word : Word) {shift : Word} (low : shift.toNat < 16) :
    (word >>> shift &&& 0x0F).toUInt8.toNat = (word.nibble shift.toNat).val := by
  rw [UInt16.toNat_toUInt8, UInt16.toNat_and, UInt16.toNat_shiftRight, Nat.mod_eq_of_lt low]
  have digit : word.toNat >>> shift.toNat &&& 15 = word.toNat >>> shift.toNat % 16 :=
    Nat.and_two_pow_sub_one_eq_mod _ 4
  change (word.toNat >>> shift.toNat &&& 15) % 256 = word.toNat >>> shift.toNat % 16
  omega

theorem Operands.ofOpcode?_eq (opcode : Word) : ofOpcode? opcode = some (ofOpcode opcode) := by
  have top : (opcode >>> 12).toUInt8.toNat = (opcode.nibble 12).val := by
    rw [UInt16.toNat_toUInt8, toNat_shiftRight_twelve]
    exact Nat.mod_eq_of_lt (Nat.lt_trans (opcode.nibble 12).isLt (by decide))
  have second : (opcode >>> 8 &&& 0x0F).toUInt8.toNat = (opcode.nibble 8).val :=
    @toNat_shiftRight_and opcode 8 (by decide)
  have third : (opcode >>> 4 &&& 0x0F).toUInt8.toNat = (opcode.nibble 4).val :=
    @toNat_shiftRight_and opcode 4 (by decide)
  rw [ofOpcode?, top, second, third, bind_of_passes (index?_val _), bind_of_passes (index?_val _),
    bind_of_passes (index?_val _)]
  rfl

/-- Appends a pattern to its group, whose number needs no check. -/
def Pattern.sort (groups : Vector (List Pattern) 16) (pattern : Pattern) :
    Vector (List Pattern) 16 :=
  groups.setIfInBounds pattern.group.val (groups.get pattern.group ++ [pattern])

theorem Pattern.sort?_eq (groups : Vector (List Pattern) 16) (pattern : Pattern) :
    sort? groups pattern = some (sort groups pattern) := by
  rw [sort?, toNat_shiftRight_twelve]
  exact bind_of_passes (index?_val _)

/-- Sorting appends to each group its patterns, in their order. -/
theorem get_foldl_sort (patterns : List Pattern) (groups : Vector (List Pattern) 16)
    (group : Fin 16) :
    (patterns.foldl Pattern.sort groups).get group =
      groups.get group ++ patterns.filter fun pattern => pattern.group == group := by
  induction patterns generalizing groups with
  | nil => exact (List.append_nil _).symm
  | cons pattern rest ih =>
      rw [List.foldl_cons, ih]
      have placed : (Pattern.sort groups pattern).get group =
          if pattern.group = group then groups.get group ++ [pattern] else groups.get group := by
        refine (Vector.getElem_setIfInBounds group.isLt).trans ?_
        by_cases same : pattern.group = group
        · subst same
          rw [if_pos rfl, if_pos rfl]
        · rw [if_neg fun equal => same (Fin.ext equal), if_neg same]
          rfl
      rw [placed, List.filter_cons]
      by_cases same : pattern.group = group
      · rw [if_pos same, if_pos (beq_iff_eq.mpr same), List.append_assoc]
        rfl
      · rw [if_neg same, if_neg fun equal => same (beq_iff_eq.mp equal)]

/-- Sorting any list of patterns needs no check. -/
theorem foldlM_sort?_eq (patterns : List Pattern) (groups : Vector (List Pattern) 16) :
    patterns.foldlM Pattern.sort? groups = some (patterns.foldl Pattern.sort groups) :=
  foldlM_eq_some (fun _ => True) trivial fun groups _ pattern _ =>
    ⟨Pattern.sort?_eq groups pattern, trivial⟩

/-- Sorted into groups that were empty before, the patterns of a group are those that belong there. -/
theorem get_sorted (patterns : List Pattern) (group : Fin 16) :
    (patterns.foldl Pattern.sort (Vector.replicate 16 [])).get group =
      patterns.filter fun pattern => pattern.group == group := by
  have empty : (Vector.replicate 16 ([] : List Pattern)).get group = [] :=
    Vector.getElem_replicate group.isLt
  rw [get_foldl_sort, empty, List.nil_append]

theorem groups?_eq : groups? = some groups := by
  rw [groups?, foldlM_sort?_eq]
  apply congrArg some
  apply Vector.ext
  intro index bound
  refine (get_sorted opcodeTable ⟨index, bound⟩).trans ?_
  rw [groups, Vector.getElem_ofFn]

/-- No index of decoding goes wrong, whatever the opcode. -/
theorem Instruction.decode?_eq (opcode : Word) : decode? opcode = some (decode opcode) := by
  rw [decode?, bind_of_passes (Operands.ofOpcode?_eq opcode), bind_of_passes groups?_eq]
  rfl

end Chip8
