/-!
# Bytes, words, addresses and registers

The machine computes with 8-bit bytes and 16-bit words, most significant byte
first. An address is a word; only the first 4096 addresses exist in memory.
Sixteen registers hold a byte each.
-/

namespace Chip8

abbrev Byte := UInt8

abbrev Word := UInt16

abbrev Address := UInt16

/-- The index of one of the registers V0 to VF. -/
abbrev Register := Fin 16

/-- The register whose value moves the target of a jump on. -/
def firstRegister : Register := ⟨0, by decide⟩

/-- The register that arithmetic and drawing report into. -/
def flagRegister : Register := ⟨15, by decide⟩

/-- Reads bytes as one big-endian number; only the last two bytes count. -/
def Word.ofBytes (bytes : List Byte) : Word :=
  bytes.foldl (fun word byte => word <<< 8 ||| byte.toUInt16) 0

/-- The four bits of a word that start at bit `shift`. -/
def Word.nibble (word : Word) (shift : Nat) : Fin 16 :=
  ⟨word.toNat >>> shift % 16, Nat.mod_lt _ (by decide)⟩

/-- The address one instruction further on. -/
def Address.next (address : Address) : Address := address + 2

/-- The address one instruction back. -/
def Address.previous (address : Address) : Address := address - 2

theorem Address.previous_next (address : Address) : address.next.previous = address :=
  UInt16.add_sub_cancel address 2

theorem Address.toNat_next {address : Address} (room : address.toNat + 2 < 65536) :
    address.next.toNat = address.toNat + 2 := by
  rw [next, UInt16.toNat_add]
  exact Nat.mod_eq_of_lt room

theorem Address.toNat_previous {address : Address} (room : 2 ≤ address.toNat) :
    address.previous.toNat = address.toNat - 2 :=
  UInt16.toNat_sub_of_le address 2 room

theorem Word.ofBytes_pair (high low : Byte) :
    Word.ofBytes [high, low] = high.toUInt16 <<< 8 ||| low.toUInt16 := by
  simp [Word.ofBytes]

/-- Sixteen bytes, V0 to VF. -/
abbrev Registers := Vector Byte 16

namespace Registers

def blank : Registers := Vector.replicate 16 0

/-- The registers from V0 to `last`. -/
def upTo (registers : Registers) (last : Register) : List Byte :=
  registers.toList.take (last.val + 1)

/-- Fills the registers from V0 on; registers without a byte keep their value. -/
def fill (registers : Registers) (values : List Byte) : Registers :=
  Vector.ofFn fun index => values[index.val]?.getD (registers.get index)

theorem length_upTo (registers : Registers) (last : Register) :
    (registers.upTo last).length = last.val + 1 := by
  rw [upTo, List.length_take, Vector.length_toList]
  exact Nat.min_eq_left last.isLt

theorem getElem?_upTo (registers : Registers) {last index : Register} (range : index ≤ last) :
    (registers.upTo last)[index.val]? = some (registers.get index) := by
  rw [upTo, List.getElem?_take_of_lt (Nat.lt_succ_of_le range), Vector.getElem?_toList]
  exact Vector.getElem?_eq_getElem index.isLt

theorem get_fill (registers : Registers) (values : List Byte) (index : Register) :
    (registers.fill values).get index = values[index.val]?.getD (registers.get index) :=
  Vector.getElem_ofFn index.isLt

end Registers

end Chip8
