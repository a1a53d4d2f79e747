import Chip8.Proofs.Checked.Decoding
import Chip8.Proofs.Checked.Screen
import Chip8.Proofs.Control
import Chip8.Proofs.Soundness

/-!
# The machine with every operation checked

A machine indexes its registers, keys and memory, copies between them, counts
keys and adds to addresses. Here it does so by checked operations. On a sound
machine, and with an instruction that was read from an opcode, no check fails
and the outcome is the one that is meant.
-/

namespace Chip8

open Checked

/-! ## Keys -/

namespace Keypad

variable {keypad : Keypad}

def isDown? (keypad : Keypad) (key : Byte) : Option Bool :=
  if hasKey key then keypad.down[key.toNat]? else some false

def press? (keypad : Keypad) (key : Byte) : Option Keypad :=
  if hasKey key then do
    let down ← keypad.down[key.toNat]?
    if down then some keypad
    else do
      let heldCount ← byte? (keypad.heldCount.toNat + 1)
      some {
        down := keypad.down.setIfInBounds key.toNat true
        last := key
        heldCount := heldCount }
  else some keypad

def release? (keypad : Keypad) (key : Byte) : Option Keypad :=
  if hasKey key then do
    let down ← keypad.down[key.toNat]?
    if down then do
      let less ← difference? keypad.heldCount.toNat 1
      let heldCount ← byte? less
      some { keypad with
        down := keypad.down.setIfInBounds key.toNat false
        heldCount := heldCount }
    else some keypad
  else some keypad

theorem getElem?_down (keypad : Keypad) {key : Byte} (known : key.toNat < 16) :
    keypad.down[key.toNat]? = some (keypad.isDown key) := by
  rw [isDown_eq_getElem known]
  exact Vector.getElem?_eq_getElem known

theorem isDown?_eq (keypad : Keypad) (key : Byte) :
    keypad.isDown? key = some (keypad.isDown key) := by
  unfold isDown?
  by_cases known : key.toNat < size
  · rw [if_pos (hasKey_iff.mpr known), getElem?_down keypad known]
  · rw [if_neg (mt hasKey_iff.mp known), isDown_eq_false_of_le (Nat.le_of_not_lt known)]

theorem press?_eq (counted : keypad.Counted) (key : Byte) :
    keypad.press? key = some (keypad.press key) := by
  unfold press?
  by_cases known : key.toNat < size
  · rw [if_pos (hasKey_iff.mpr known), bind_of_passes (getElem?_down keypad known)]
    cases state : keypad.isDown key with
    | true => rw [press_of_down state]; rfl
    | false =>
        rw [press_of_up known state, if_neg Bool.false_ne_true, ← counted.toNat_add_one,
          bind_of_passes (byte?_toNat _)]
  · rw [if_neg (mt hasKey_iff.mp known), press_of_le (Nat.le_of_not_lt known)]

/-- A keypad whose count has no room fails its check; no counted one does. -/
example : { blank with heldCount := 255 }.press? 0 = none := by decide

theorem release?_eq (counted : keypad.Counted) (key : Byte) :
    keypad.release? key = some (keypad.release key) := by
  unfold release?
  by_cases known : key.toNat < size
  · rw [if_pos (hasKey_iff.mpr known), bind_of_passes (getElem?_down keypad known)]
    cases state : keypad.isDown key with
    | true =>
        rw [release_of_down state, if_pos rfl,
          bind_of_passes (difference?_of_le (counted.heldCount_pos state)),
          ← counted.toNat_sub_one state, bind_of_passes (byte?_toNat _)]
    | false => rw [release_of_up state]; rfl
  · rw [if_neg (mt hasKey_iff.mp known), release_of_le (Nat.le_of_not_lt known)]

end Keypad

/-! ## Glyphs, memory and registers -/

def Font.addressOf? (font : Font) (digit : Byte) : Option Address := do
  let distance ← word? (digit.toUInt16.toNat * font.height.toNat)
  word? (font.offset.toNat + distance.toNat)

theorem Font.addressOf?_eq {font : Font}
    (room : font.offset.toNat + 255 * font.height.toNat < 65536) (digit : Byte) :
    font.addressOf? digit = some (font.addressOf digit) := by
  have distance := Font.toNat_distance room digit
  rw [addressOf?, UInt8.toNat_toUInt16, ← distance, bind_of_passes (word?_toNat _), distance,
    ← Font.toNat_addressOf room, word?_toNat]

/-- Copies bytes over a range of memory, which must exist and be as long as they are. -/
def Memory.copy? (memory : Memory) (start length : Nat) (values : List Byte) : Option Memory :=
  if start + length ≤ Memory.size ∧ values.length = length then some (memory.overlay start values)
  else none

theorem Memory.copy?_of_le {memory : Memory} {start : Nat} {values : List Byte}
    (inside : start + values.length ≤ Memory.size) :
    memory.copy? start values.length values = some (memory.overlay start values) :=
  if_pos ⟨inside, rfl⟩

/-- Filling with values that the old registers continue is filling with the values alone. -/
theorem Registers.fill_append_drop (registers : Registers) (values : List Byte) :
    registers.fill (values ++ registers.toList.drop values.length) = registers.fill values := by
  apply Vector.ext
  intro index bound
  refine (registers.get_fill _ ⟨index, bound⟩).trans
    (Eq.trans ?_ (registers.get_fill values ⟨index, bound⟩).symm)
  dsimp only
  by_cases fresh : index < values.length
  · rw [List.getElem?_append_left fresh]
  · have beyond := Nat.le_of_not_lt fresh
    have old : registers.toList[index]? = some (registers.get ⟨index, bound⟩) := by
      rw [Vector.getElem?_toList]
      exact Vector.getElem?_eq_getElem bound
    rw [List.getElem?_append_right beyond, List.getElem?_drop, Nat.add_sub_cancel' beyond, old,
      List.getElem?_eq_none beyond]
    rfl

namespace Machine

variable {machine : Machine}

/-- Writes bytes from the index on, over a range of the length that was asked for. -/
def store? (machine : Machine) (length : Nat) (values : List Byte) : Option Outcome :=
  if machine.index.toNat + length ≤ Memory.size then do
    let memory ← machine.memory.copy? machine.index.toNat length values
    some (.done { machine with memory := memory })
  else some (.failed machine (Memory.outside machine.index))

/-- Loads registers by way of a second bank of sixteen. -/
def loadRegisters? (machine : Machine) (last : Register) : Option Outcome :=
  match machine.memory.read machine.index (last.val + 1) with
  | .error fault => some (.failed machine fault)
  | .ok values => do
      let bank ← copy? (List.replicate 16 0) 0 (last.val + 1) values
      let loaded ← range? bank 0 (last.val + 1)
      let registers ← copy? machine.registers.toList 0 (last.val + 1) loaded
      some (.done { machine with registers := machine.registers.fill registers })

def draw? (machine : Machine) (x y : Register) (height : Byte) : Option Outcome := do
  let shape := Sprite.Shape.ofHeight height
  let top ← remainder? (machine.value y).toNat machine.screen.height
  let room ← difference? machine.screen.height top
  match machine.memory.read machine.index (min shape.height room * shape.rowBytes) with
  | .error fault => some (.failed machine fault)
  | .ok bytes => do
      let rows ← pieces? shape.rowBytes bytes
      let (screen, collision) ← machine.screen.draw? (machine.value x) (machine.value y)
        ⟨shape.width, rows.map Word.ofBytes⟩
      some (.done ({ machine with screen := screen }.setFlag collision))

def jumpBeyond? (machine : Machine) (target : Address) : Option Outcome := do
  let sum ← word? (target.toNat + (machine.value firstRegister).toUInt16.toNat)
  some (.done { machine with programCounter := sum })

def skipOnKey? (machine : Machine) (x : Register) (condition : Bool → Bool) : Option Outcome :=
  let key := machine.value x
  if Keypad.hasKey key then do
    let down ← machine.keypad.isDown? key
    some (.done (machine.skipWhen (condition down)))
  else some (.failed machine (.unknownKey key))

def execute? (machine : Machine) : Instruction → Option Outcome
  | .scrollDown rows => do
      let screen ← machine.screen.scrollDown? rows.toNat
      some (.done { machine with screen := screen })
  | .scrollRight => do
      let screen ← machine.screen.scrollRight?
      some (.done { machine with screen := screen })
  | .scrollLeft => do
      let screen ← machine.screen.scrollLeft?
      some (.done { machine with screen := screen })
  | .draw x y height => machine.draw? x y height
  | .jumpBeyond target => machine.jumpBeyond? target
  | .skipIfDown x => machine.skipOnKey? x id
  | .skipUnlessDown x => machine.skipOnKey? x not
  | .smallGlyph x => do
      let address ← Font.small.addressOf? (machine.value x)
      some (.done { machine with index := address })
  | .largeGlyph x => do
      let address ← Font.large.addressOf? (machine.value x)
      some (.done { machine with index := address })
  | .storeDecimal x => machine.store? 3 (decimalDigits (machine.value x))
  | .storeRegisters last => do
      let values ← range? machine.registers.toList 0 (last.val + 1)
      machine.store? (last.val + 1) values
  | .loadRegisters last => machine.loadRegisters? last
  -- The others only use registers, whose indices are checked when the opcode is read, and
  -- arithmetic that is meant to wrap.
  | instruction => some (machine.execute instruction)

def step? (machine : Machine) : Option Outcome :=
  match machine.memory.read machine.programCounter 2 with
  | .error fault => some (.failed machine fault)
  | .ok bytes => do
      let high ← bytes[0]?
      let low ← bytes[1]?
      let decoded ← Instruction.decode? (Word.ofBytes [high, low])
      match decoded with
      | .error fault => some (.failed machine.advance fault)
      | .ok instruction => machine.advance.execute? instruction

def load? (machine : Machine) (rom : Rom) : Option Loading :=
  if Rom.capacity < rom.length then
    some ⟨machine, some (.tooLarge rom.length Rom.capacity)⟩
  else do
    let memory ← machine.memory.copy? loadAddress.toNat rom.length rom
    some ⟨{ machine with memory := memory }, none⟩

/-- Memory with the fonts copied into place. -/
def firmware? : Option Memory := do
  let memory ← Memory.blank.copy? Font.small.offset.toNat 80 Font.small.glyphs
  memory.copy? Font.large.offset.toNat 160 Font.large.glyphs

def boot? (random : RandomSource) (rom : Rom) : Option (Except RomError Machine) := do
  let memory ← firmware?
  let loaded ← { blank random with memory := memory }.load? rom
  some <| match loaded with
    | ⟨machine, none⟩ => .ok machine
    | ⟨_, some error⟩ => .error error

/-! ## No check of an instruction fails -/

theorem store?_eq {length : Nat} {values : List Byte} (size : values.length = length) :
    machine.store? length values = some (machine.store values) := by
  subst size
  unfold store?
  by_cases inside : machine.index.toNat + values.length ≤ Memory.size
  · rw [if_pos inside, bind_of_passes (Memory.copy?_of_le inside), store,
      Memory.write_inside inside]
  · rw [if_neg inside, store, Memory.write_outside (Nat.lt_of_not_le inside)]

theorem loadRegisters?_eq (machine : Machine) (last : Register) :
    machine.loadRegisters? last = some (machine.loadRegisters last) := by
  unfold loadRegisters? loadRegisters
  cases found : machine.memory.read machine.index (last.val + 1) with
  | error fault => rfl
  | ok values =>
      have size : values.length = last.val + 1 := by
        rw [← (Memory.read_eq_ok_iff.mp found).2, Memory.length_block]
      have room : values.length ≤ 16 := size ▸ last.isLt
      have loaded : range? (values ++ (List.replicate 16 0).drop values.length) 0 values.length =
          some values := by
        rw [range?_of_le (by rw [List.length_append]; omega), List.drop_zero, List.take_left]
      dsimp only
      rw [← size, bind_of_passes (copy?_head (by rwa [List.length_replicate])),
        bind_of_passes loaded, bind_of_passes (copy?_head (by rwa [Vector.length_toList])),
        Registers.fill_append_drop]

theorem draw?_eq (formed : machine.screen.WellFormed) (x y : Register) (height : Byte) :
    machine.draw? x y height = some (machine.draw x y height) := by
  have below := Nat.mod_lt (machine.value y).toNat machine.screen.height_pos
  unfold draw? draw shownRows
  dsimp only
  rw [bind_of_passes (remainder?_of_pos machine.screen.height_pos),
    bind_of_passes (difference?_of_le (Nat.le_of_lt below))]
  generalize min (Sprite.Shape.ofHeight height).height
    (machine.screen.height - (machine.value y).toNat % machine.screen.height) = count
  cases found : machine.memory.read machine.index
      (count * (Sprite.Shape.ofHeight height).rowBytes) with
  | error fault => rfl
  | ok bytes =>
      have size : bytes.length = count * (Sprite.Shape.ofHeight height).rowBytes := by
        rw [← (Memory.read_eq_ok_iff.mp found).2, Memory.length_block]
      dsimp only
      rw [bind_of_passes (pieces?_of_length (Sprite.Shape.rowBytes_ofHeight_pos height) size), List.map_map]
      exact bind_of_passes (Screen.draw?_eq formed (Sprite.Shape.width_ofHeight_le height) _ _)

theorem jumpBeyond?_eq {target : Address} (low : target.toNat ≤ 0x0FFF) :
    machine.jumpBeyond? target = some (machine.execute (.jumpBeyond target)) := by
  have sum := toNat_jumpBeyond low (machine.value firstRegister)
  rw [← UInt8.toNat_toUInt16] at sum
  rw [jumpBeyond?, ← sum, bind_of_passes (word?_toNat _)]
  rfl

theorem skipOnKey?_eq (machine : Machine) (x : Register) (condition : Bool → Bool) :
    machine.skipOnKey? x condition = some (machine.skipOnKey x condition) := by
  unfold skipOnKey? skipOnKey
  dsimp only
  cases Keypad.hasKey (machine.value x) with
  | false => rfl
  | true => exact bind_of_passes (Keypad.isDown?_eq _ _)

theorem execute?_eq (sound : machine.Sound) {opcode : Word} {instruction : Instruction}
    (decoded : Instruction.decode opcode = .ok instruction) :
    machine.execute? instruction = some (machine.execute instruction) := by
  cases instruction with
  | scrollDown rows => exact bind_of_passes (Screen.scrollDown?_eq _ _)
  | scrollRight => exact bind_of_passes (Screen.scrollRight?_eq sound.screen)
  | scrollLeft => exact bind_of_passes (Screen.scrollLeft?_eq sound.screen)
  | draw x y height => exact draw?_eq sound.screen x y height
  | jumpBeyond target =>
      obtain ⟨-, rfl⟩ := decode_eq_jumpBeyond_iff.mp decoded
      exact jumpBeyond?_eq (toNat_lowTwelve_le opcode)
  | skipIfDown x => exact skipOnKey?_eq _ _ _
  | skipUnlessDown x => exact skipOnKey?_eq _ _ _
  | smallGlyph x => exact bind_of_passes (Font.addressOf?_eq (by decide) _)
  | largeGlyph x => exact bind_of_passes (Font.addressOf?_eq (by decide) _)
  | storeDecimal x => exact store?_eq rfl
  | storeRegisters last =>
      have room : 0 + (last.val + 1) ≤ machine.registers.toList.length := by
        rw [Vector.length_toList, Nat.zero_add]
        exact last.isLt
      refine (bind_of_passes (range?_of_le room)).trans ?_
      exact store?_eq (Registers.length_upTo machine.registers last)
  | loadRegisters last => exact loadRegisters?_eq machine last
  | _ => rfl

/-! ## No check of an operation fails -/

theorem step?_eq (sound : machine.Sound) : machine.step? = some machine.step := by
  by_cases fetches : machine.Fetches
  · have bytes : machine.memory.read machine.programCounter 2 =
        .ok [machine.memory.byte machine.programCounter.toNat,
          machine.memory.byte (machine.programCounter.toNat + 1)] :=
      Memory.read_inside fetches
    rw [step?, bytes]
    refine (bind_of_passes (Instruction.decode?_eq machine.opcode)).trans ?_
    cases decoded : Instruction.decode machine.opcode with
    | error fault => rw [step_of_decode_error fetches decoded]
    | ok instruction =>
        rw [step_of_decode fetches decoded]
        exact execute?_eq (advance_sound sound) decoded
  · rw [step?, Memory.read_outside (Nat.lt_of_not_le fetches), step_of_not_fetches fetches]
    rfl

theorem load?_eq (machine : Machine) (rom : Rom) :
    machine.load? rom = some (machine.load rom) := by
  by_cases large : Rom.capacity < rom.length
  · rw [load?, if_pos large, load_of_large machine large]
  · have fits := Nat.le_of_not_lt large
    rw [load?, if_neg large, load_of_fits machine fits,
      bind_of_passes (Memory.copy?_of_le (loadAddress_add_le fits))]

theorem firmware?_eq : firmware? = some firmware := by
  have small : Memory.blank.copy? Font.small.offset.toNat 80 Font.small.glyphs =
      some (Memory.blank.overlay Font.small.offset.toNat Font.small.glyphs) :=
    if_pos ⟨by decide, Font.small_length⟩
  rw [firmware?, bind_of_passes small]
  exact if_pos ⟨by decide, Font.large_length⟩

theorem boot?_eq (random : RandomSource) (rom : Rom) :
    boot? random rom = some (boot random rom) := by
  rw [boot?, bind_of_passes firmware?_eq, bind_of_passes (load?_eq _ rom)]
  rfl

end Machine

end Chip8
