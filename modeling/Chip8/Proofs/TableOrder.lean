import Chip8.Proofs.Checked.Decoding
import Chip8.Proofs.Decoding

/-!
# The order of the opcode table

Decoding looks an opcode up in one of sixteen groups, and takes the first
pattern there that it fits. Nothing hangs on that order: no opcode fits two
patterns, and none fits a pattern of another group. So every reordering of the
table, sorted into groups or looked through from end to end, reads the same
instructions.
-/

namespace Chip8

open Checked

variable {table : List Pattern} {opcode : Word}

/-- Reads an opcode by the first pattern of a list that it agrees with in all the bits that the
pattern fixes. -/
def Instruction.scan (table : List Pattern) (opcode : Word) : Except Fault Instruction :=
  match table.find? fun pattern => opcode &&& pattern.mask = pattern.value with
  | some pattern => .ok (pattern.build (Operands.ofOpcode opcode))
  | none =>
      if (opcode.nibble 12).val = 0 then .ok (.nativeRoutine (opcode &&& 0x0FFF))
      else .error (.unknownOpcode opcode)

/-- Sorts a list of patterns into groups, one by one, and reads an opcode by the first pattern of
its group that it agrees with. Every index is checked. -/
def Instruction.sortAndDecode? (table : List Pattern) (opcode : Word) :
    Option (Except Fault Instruction) := do
  let operands ← Operands.ofOpcode? opcode
  let groups ← table.foldlM Pattern.sort? (Vector.replicate 16 [])
  let first? := (groups.get operands.group).find? fun pattern =>
    opcode &&& pattern.mask = pattern.value
  some <| match first? with
    | some pattern => .ok (pattern.build operands)
    | none =>
        if operands.group.val = 0 then .ok (.nativeRoutine operands.nnn)
        else .error (.unknownOpcode opcode)

/-- One opcode agrees with both patterns. -/
def Pattern.Collide (first second : Pattern) : Prop :=
  ∃ opcode : Word, opcode &&& first.mask = first.value ∧ opcode &&& second.mask = second.value

theorem Pattern.Apart.not_collide {first second : Pattern} (apart : first.Apart second) :
    ¬ first.Collide second := by
  rintro ⟨opcode, fits, other⟩
  exact apart.not_fits (Pattern.fits_iff.mpr fits) (Pattern.fits_iff.mpr other)

/-- Put one after another, the groups are the table. -/
theorem flatten_groups : groups.toList.flatten = opcodeTable := rfl

theorem find?_fits (table : List Pattern) (opcode : Word) :
    (table.find? fun pattern => opcode &&& pattern.mask = pattern.value) =
      table.find? (·.fits opcode) :=
  rfl

/-- What an opcode finds is the pattern that it fits, in whatever order the patterns stand. -/
theorem find?_eq_some_iff (reordered : table.Perm opcodeTable) {pattern : Pattern} :
    table.find? (·.fits opcode) = some pattern ↔
      pattern ∈ opcodeTable ∧ pattern.fits opcode = true := by
  constructor
  · intro found
    exact ⟨reordered.mem_iff.mp (List.mem_of_find?_eq_some found),
      List.find?_some (p := fun pattern : Pattern => pattern.fits opcode) found⟩
  · rintro ⟨mem, fits⟩
    cases found : table.find? (·.fits opcode) with
    | none => exact absurd fits (List.find?_eq_none.mp found pattern (reordered.mem_iff.mpr mem))
    | some other =>
        have other_mem := reordered.mem_iff.mp (List.mem_of_find?_eq_some found)
        have other_fits : other.fits opcode = true :=
          List.find?_some (p := fun pattern : Pattern => pattern.fits opcode) found
        rw [eq_of_fits other_mem mem other_fits fits]

theorem find?_of_perm (reordered : table.Perm opcodeTable) (opcode : Word) :
    table.find? (·.fits opcode) = opcodeTable.find? (·.fits opcode) := by
  apply Option.ext
  intro pattern
  rw [find?_eq_some_iff reordered, find?_eq_some_iff (List.Perm.refl _)]

theorem decode_eq_scan (reordered : table.Perm opcodeTable) (opcode : Word) :
    Instruction.decode opcode = Instruction.scan table opcode := by
  unfold Instruction.decode Instruction.scan
  dsimp only
  rw [find?_fits, find?_groups, find?_of_perm reordered]
  rfl

theorem sortAndDecode?_eq (reordered : table.Perm opcodeTable) (opcode : Word) :
    Instruction.sortAndDecode? table opcode = some (Instruction.decode opcode) := by
  have known : ∀ pattern ∈ table, pattern ∈ opcodeTable := fun _ mem => reordered.mem_iff.mp mem
  rw [Instruction.sortAndDecode?, bind_of_passes (Operands.ofOpcode?_eq opcode),
    bind_of_passes (foldlM_sort?_eq table _)]
  dsimp only
  rw [find?_fits, get_sorted, find?_filter_group known, find?_of_perm reordered, ← find?_groups]
  rfl

/-- The table in some order, and what hangs on the order: nothing. -/
structure ReadsAlike (table : List Pattern) : Prop where
  length : table.length = 42
  /-- Looked through from end to end, it reads what the groups read. -/
  scanned : ∀ opcode, Instruction.decode opcode = Instruction.scan table opcode
  /-- Sorted into groups of its own, it reads the same. -/
  sorted : ∀ opcode,
    Instruction.sortAndDecode? table opcode = some (Instruction.decode opcode)
  /-- The groups hold each of its patterns, and hold it once. -/
  grouped : groups.toList.flatten.Perm table
  group : ∀ group, (groups.get group).Perm (table.filter fun pattern => pattern.group == group)
  apart : table.Pairwise fun first second => ¬ first.Collide second

/-- Opcodes are read alike in any order of the table. -/
theorem decode_in_any_order (reordered : table.Perm opcodeTable) : ReadsAlike table where
  length := reordered.length_eq
  scanned := decode_eq_scan reordered
  sorted := sortAndDecode?_eq reordered
  grouped := by
    rw [flatten_groups]
    exact reordered.symm
  group := by
    intro group
    have sorted : groups.get group =
        opcodeTable.filter fun pattern => pattern.group == group := Vector.getElem_ofFn _
    rw [sorted]
    exact (reordered.filter _).symm
  apart := by
    have symmetric : ∀ {first second : Pattern}, ¬ first.Collide second → ¬ second.Collide first := by
      rintro first second apart ⟨opcode, fits, other⟩
      exact apart ⟨opcode, other, fits⟩
    exact (reordered.pairwise_iff symmetric).mpr (opcodeTable_apart.imp Pattern.Apart.not_collide)

/-- The table from its end, where the patterns of the last group come first. -/
theorem decode_in_any_order_reverse :
    opcodeTable.reverse.Perm opcodeTable ∧ ReadsAlike opcodeTable.reverse :=
  ⟨List.reverse_perm _, decode_in_any_order (List.reverse_perm _)⟩

end Chip8
