import Chip8.Fault

/-!
# Memory

4096 bytes. A block is a range of addresses that starts at a word; reading or
writing a block fails as a whole when any part of it lies past the end.
-/

namespace Chip8

def Memory.size : Nat := 4096

abbrev Memory := Vector Byte Memory.size

namespace Memory

def blank : Memory := Vector.replicate size 0

/-- The byte at an address, zero where there is no memory. -/
def byte (memory : Memory) (address : Nat) : Byte := memory[address]?.getD 0

/-- The bytes from `start` on. -/
def block (memory : Memory) (start length : Nat) : List Byte :=
  (List.range length).map fun offset => memory.byte (start + offset)

/-- Puts bytes in place from `start` on; what lies past the end is dropped. -/
def overlay (memory : Memory) (start : Nat) : List Byte → Memory
  | [] => memory
  | value :: rest => overlay (memory.setIfInBounds start value) (start + 1) rest

/-- The first address of a range that lies outside memory. -/
def outside (start : Address) : Fault := .outsideMemory (max start.toNat size)

def read (memory : Memory) (start : Address) (length : Nat) : Except Fault (List Byte) :=
  if start.toNat + length ≤ size then .ok (memory.block start.toNat length)
  else .error (outside start)

def write (memory : Memory) (start : Address) (values : List Byte) : Except Fault Memory :=
  if start.toNat + values.length ≤ size then .ok (memory.overlay start.toNat values)
  else .error (outside start)

theorem read_inside {memory : Memory} {start : Address} {length : Nat}
    (inside : start.toNat + length ≤ size) :
    memory.read start length = .ok (memory.block start.toNat length) :=
  if_pos inside

theorem read_outside {memory : Memory} {start : Address} {length : Nat}
    (beyond : size < start.toNat + length) : memory.read start length = .error (outside start) :=
  if_neg (Nat.not_le.mpr beyond)

theorem read_eq_ok_iff {memory : Memory} {start : Address} {length : Nat} {bytes : List Byte} :
    memory.read start length = .ok bytes ↔
      start.toNat + length ≤ size ∧ memory.block start.toNat length = bytes := by
  unfold read
  split
  · next inside => rw [Except.ok.injEq, and_iff_right inside]
  · next beyond =>
      constructor
      · intro impossible
        cases impossible
      · rintro ⟨inside, -⟩
        exact absurd inside beyond

theorem write_inside {memory : Memory} {start : Address} {values : List Byte}
    (inside : start.toNat + values.length ≤ size) :
    memory.write start values = .ok (memory.overlay start.toNat values) :=
  if_pos inside

theorem write_outside {memory : Memory} {start : Address} {values : List Byte}
    (beyond : size < start.toNat + values.length) :
    memory.write start values = .error (outside start) :=
  if_neg (Nat.not_le.mpr beyond)

theorem length_block (memory : Memory) (start length : Nat) :
    (memory.block start length).length = length := by
  simp [block]

theorem getElem?_block (memory : Memory) (start : Nat) {length offset : Nat}
    (inside : offset < length) :
    (memory.block start length)[offset]? = some (memory.byte (start + offset)) := by
  rw [block, List.getElem?_map, List.getElem?_range inside]
  rfl

theorem block_eq_iff {memory : Memory} {start : Nat} {values : List Byte} :
    memory.block start values.length = values ↔
      ∀ offset (inside : offset < values.length),
        memory.byte (start + offset) = values[offset] := by
  constructor
  · intro same offset inside
    have found := getElem?_block memory start inside
    rw [same, List.getElem?_eq_getElem inside] at found
    exact (Option.some.inj found).symm
  · intro agree
    apply List.ext_getElem?
    intro offset
    by_cases inside : offset < values.length
    · rw [getElem?_block memory start inside, agree offset inside, List.getElem?_eq_getElem inside]
    · have beyond := Nat.le_of_not_lt inside
      rw [List.getElem?_eq_none beyond, List.getElem?_eq_none (by rwa [length_block])]

theorem block_congr {memory other : Memory} {start length : Nat}
    (agree : ∀ address, start ≤ address → address < start + length →
      other.byte address = memory.byte address) :
    other.block start length = memory.block start length := by
  unfold block
  apply List.map_congr_left
  intro offset mem
  have inside := List.mem_range.mp mem
  exact agree _ (Nat.le_add_right _ _) (Nat.add_lt_add_left inside _)

theorem eq_of_byte_eq {memory other : Memory}
    (same : ∀ address, address < size → memory.byte address = other.byte address) :
    memory = other := by
  apply Vector.ext
  intro address inside
  have bytes := same address inside
  unfold byte at bytes
  rwa [Vector.getElem?_eq_getElem inside, Vector.getElem?_eq_getElem inside] at bytes

theorem byte_setIfInBounds (memory : Memory) (start address : Nat) (value : Byte) :
    byte (memory.setIfInBounds start value) address =
      if start = address ∧ address < size then value else memory.byte address := by
  unfold byte
  rw [Vector.getElem?_setIfInBounds]
  by_cases same : start = address
  · by_cases inside : start < size
    · have inside' : address < size := same ▸ inside
      simp [same, inside']
    · have outside' : ¬ address < size := same ▸ inside
      simp [same, outside']
  · simp [same]

/-- An overlay shows its own bytes where it lies and the old ones elsewhere. -/
theorem byte_overlay (memory : Memory) (start : Nat) (values : List Byte) (address : Nat)
    (fits : start + values.length ≤ size) :
    (memory.overlay start values).byte address =
      if start ≤ address then values[address - start]?.getD (memory.byte address)
      else memory.byte address := by
  induction values generalizing memory start with
  | nil => simp [overlay]
  | cons value rest ih =>
      rw [List.length_cons] at fits
      rw [overlay, ih _ _ (by omega), byte_setIfInBounds]
      by_cases below : address < start
      · rw [if_neg (by omega), if_neg (by omega), if_neg (by omega)]
      · by_cases same : start = address
        · subst same
          rw [if_neg (by omega), if_pos ⟨rfl, by omega⟩, if_pos (Nat.le_refl _)]
          simp
        · obtain ⟨offset, rfl⟩ : ∃ offset, address = start + 1 + offset := ⟨address - (start + 1), by omega⟩
          rw [if_pos (by omega), if_neg (by omega), if_pos (by omega)]
          rw [show start + 1 + offset - (start + 1) = offset by omega,
            show start + 1 + offset - start = offset + 1 by omega]
          rfl

theorem byte_overlay_of_apart {memory : Memory} {start address : Nat} {values : List Byte}
    (fits : start + values.length ≤ size)
    (apart : address < start ∨ start + values.length ≤ address) :
    (memory.overlay start values).byte address = memory.byte address := by
  rw [byte_overlay _ _ _ _ fits]
  split
  · next behind =>
      rw [List.getElem?_eq_none (by omega)]
      rfl
  · rfl

theorem block_overlay (memory : Memory) {start : Nat} {values : List Byte}
    (fits : start + values.length ≤ size) :
    (memory.overlay start values).block start values.length = values := by
  rw [block_eq_iff]
  intro offset inside
  rw [byte_overlay _ _ _ _ fits, if_pos (Nat.le_add_right _ _), Nat.add_sub_cancel_left,
    List.getElem?_eq_getElem inside]
  rfl

theorem block_overlay_of_apart (memory : Memory) {start first length : Nat} {values : List Byte}
    (fits : start + values.length ≤ size)
    (apart : first + length ≤ start ∨ start + values.length ≤ first) :
    (memory.overlay start values).block first length = memory.block first length := by
  apply block_congr
  intro address behind inside
  apply byte_overlay_of_apart fits
  omega

/-- An overlay of bytes that are there already changes nothing. -/
theorem overlay_of_block {memory : Memory} {start : Nat} {values : List Byte}
    (fits : start + values.length ≤ size)
    (there : memory.block start values.length = values) :
    memory.overlay start values = memory := by
  apply eq_of_byte_eq
  intro address _
  by_cases apart : address < start ∨ start + values.length ≤ address
  · exact byte_overlay_of_apart fits apart
  · obtain ⟨offset, rfl⟩ : ∃ offset, address = start + offset := ⟨address - start, by omega⟩
    have inside : offset < values.length := by omega
    rw [block_eq_iff.mp (block_overlay memory fits) offset inside,
      block_eq_iff.mp there offset inside]

theorem overlay_append (memory : Memory) (start : Nat) (first second : List Byte) :
    memory.overlay start (first ++ second) =
      (memory.overlay start first).overlay (start + first.length) second := by
  induction first generalizing memory start with
  | nil => rfl
  | cons value rest ih =>
      rw [List.cons_append, overlay, ih, overlay, List.length_cons, Nat.add_assoc start 1,
        Nat.add_comm 1]

theorem byte_blank (address : Nat) : blank.byte address = 0 := by
  unfold byte blank
  rw [Vector.getElem?_replicate]
  split <;> rfl

theorem block_blank (start length : Nat) : blank.block start length = List.replicate length 0 := by
  refine List.eq_replicate_iff.mpr ⟨length_block _ _ _, ?_⟩
  intro value mem
  obtain ⟨offset, -, rfl⟩ := List.mem_map.mp mem
  exact byte_blank _

/-- An overlay changes nothing but the bytes where it lies. -/
theorem inside_of_byte_overlay_ne {memory : Memory} {start address : Nat} {values : List Byte}
    (fits : start + values.length ≤ size)
    (changed : (memory.overlay start values).byte address ≠ memory.byte address) :
    start ≤ address ∧ address < start + values.length := by
  rw [byte_overlay _ _ _ _ fits] at changed
  by_cases behind : start ≤ address
  · refine ⟨behind, ?_⟩
    rw [if_pos behind] at changed
    apply Nat.lt_of_not_le
    intro beyond
    rw [List.getElem?_eq_none (by omega)] at changed
    exact changed rfl
  · rw [if_neg behind] at changed
    exact absurd rfl changed

end Memory

end Chip8
