import Chip8.Session.Basic
import Chip8.Proofs.Programs

/-!
# Where programs lie

A program is refused for its length alone, and in the same words wherever its
length is looked at. One that fits lies behind the fonts of a new machine with
zeros before and after it; on a machine that has run already it takes the place
of the bytes where it lies, and of nothing else.
-/

namespace Chip8

namespace Machine

variable {machine : Machine} {random : RandomSource} {rom : Rom}

/-! ## The memory of a new machine -/

theorem smallFont_fits : 0 + Font.small.glyphs.length ≤ Memory.size := by
  rw [Font.small_length]
  decide

theorem largeFont_fits : 80 + Font.large.glyphs.length ≤ Memory.size := by
  rw [Font.large_length]
  decide

theorem firmware_eq :
    firmware = (Memory.blank.overlay 0 Font.small.glyphs).overlay 80 Font.large.glyphs :=
  rfl

theorem firmware_smallFont : firmware.block 0 80 = Font.small.glyphs := by
  have apart := Memory.block_overlay_of_apart (Memory.blank.overlay 0 Font.small.glyphs)
    largeFont_fits (.inl (Nat.le_refl (0 + 80)))
  have there := Memory.block_overlay Memory.blank smallFont_fits
  rw [Font.small_length] at there
  exact apart.trans there

theorem firmware_largeFont : firmware.block 80 160 = Font.large.glyphs := by
  have there := Memory.block_overlay (Memory.blank.overlay 0 Font.small.glyphs) largeFont_fits
  rwa [Font.large_length] at there

theorem firmware_zero {first : Nat} (behind : 240 ≤ first) (length : Nat) :
    firmware.block first length = List.replicate length 0 := by
  have large : 80 + Font.large.glyphs.length ≤ first := by rwa [Font.large_length]
  have small : 0 + Font.small.glyphs.length ≤ first := by
    rw [Font.small_length]
    omega
  rw [firmware_eq, Memory.block_overlay_of_apart _ largeFont_fits (.inr large),
    Memory.block_overlay_of_apart _ smallFont_fits (.inr small), Memory.block_blank]

/-- Where everything lies in the memory of a new machine. -/
structure LaidOut (memory : Memory) (rom : Rom) : Prop where
  smallFont : memory.block 0 80 = Font.small.glyphs
  largeFont : memory.block 80 160 = Font.large.glyphs
  before : memory.block 240 272 = List.replicate 272 0
  program : memory.block 512 rom.length = rom
  behind : memory.block (512 + rom.length) (3584 - rom.length) =
    List.replicate (3584 - rom.length) 0

theorem firmware_laidOut (fits : rom.length ≤ Rom.capacity) :
    LaidOut (firmware.overlay loadAddress.toNat rom) rom := by
  have inside := loadAddress_add_le fits
  have below {first length : Nat} (apart : first + length ≤ 512) :
      (firmware.overlay loadAddress.toNat rom).block first length = firmware.block first length :=
    Memory.block_overlay_of_apart firmware inside (.inl apart)
  constructor
  · rw [below (by decide), firmware_smallFont]
  · rw [below (by decide), firmware_largeFont]
  · rw [below (by decide), firmware_zero (by decide)]
  · exact Memory.block_overlay firmware inside
  · refine (Memory.block_overlay_of_apart firmware inside (.inr (Nat.le_refl _))).trans ?_
    have start : loadAddress.toNat = 512 := rfl
    exact firmware_zero (by omega) _

theorem laidOut_of_boot (booted : boot random rom = .ok machine) :
    LaidOut machine.memory rom := by
  have fits := fits_of_boot booted
  obtain rfl := eq_of_boot booted
  exact firmware_laidOut fits

/-- Zeros at the end of a program make no difference, as there are zeros already. -/
theorem boot_append_zeros (random : RandomSource) {count : Nat}
    (fits : rom.length + count ≤ Rom.capacity) :
    boot random (rom ++ List.replicate count 0) = boot random rom := by
  have fits' : (rom ++ List.replicate count 0).length ≤ Rom.capacity := by
    rwa [List.length_append, List.length_replicate]
  have inside := loadAddress_add_le fits'
  rw [List.length_append, ← Nat.add_assoc] at inside
  have shorter : rom.length ≤ Rom.capacity := by omega
  rw [boot_of_fits random fits', boot_of_fits random shorter, Memory.overlay_append,
    Memory.overlay_of_block inside]
  rw [List.length_replicate,
    Memory.block_overlay_of_apart _ (loadAddress_add_le shorter) (.inr (Nat.le_refl _))]
  have start : loadAddress.toNat = 512 := rfl
  exact firmware_zero (by omega) _

/-! ## A program that takes its place -/

/-- A machine that is as before but for the bytes where the program lies. -/
structure Receives (before : Machine) (rom : Rom) (after : Machine) : Prop where
  program : after.memory.block 512 rom.length = rom
  kept : ∀ address, address < 512 ∨ 512 + rom.length ≤ address →
    after.memory.byte address = before.memory.byte address
  rest : after = { before with memory := after.memory }

theorem receives_overlay (machine : Machine) (fits : rom.length ≤ Rom.capacity) :
    machine.Receives rom
      { machine with memory := machine.memory.overlay loadAddress.toNat rom } := by
  have inside := loadAddress_add_le fits
  constructor
  · exact Memory.block_overlay machine.memory inside
  · intro address apart
    exact Memory.byte_overlay_of_apart inside apart
  · rfl

end Machine

/-! ## Programs by their length -/

theorem RomError.message_tooLarge (size : Nat) : (RomError.tooLarge size 3584).message =
    "ROM is too large (" ++ toString size ++ " bytes), max size is 3584 bytes" := by
  have limit : " bytes), max size is " ++ (toString 3584 ++ " bytes") =
      " bytes), max size is 3584 bytes" := by
    decide
  unfold RomError.message
  dsimp only
  rw [String.append_assoc, String.append_assoc, limit]

namespace Rom

/-- What becomes of a program that is short enough, wherever it is looked at. -/
structure Accepted (rom : Rom) : Prop where
  file : ∀ read path, read path = .ok rom → Rom.load read path = .ok rom
  /-- A machine is set up, and its memory is laid out around the program. -/
  boot : ∀ random, ∃ machine, Machine.boot random rom = .ok machine ∧
    Machine.LaidOut machine.memory rom
  padded : ∀ random count, rom.length + count ≤ 3584 →
    Machine.boot random (rom ++ List.replicate count 0) = Machine.boot random rom
  load : ∀ machine : Machine, ∃ after, machine.load rom = ⟨after, none⟩ ∧
    machine.perform (.load rom) = after ∧ machine.Receives rom after

/-- What becomes of a program that is too long, wherever it is looked at. -/
structure Refused (rom : Rom) : Prop where
  file : ∀ read path, read path = .ok rom →
    Rom.load read path = .error (.tooLarge rom.length 3584)
  boot : ∀ random, Machine.boot random rom = .error (.tooLarge rom.length 3584)
  /-- The machine is left as it is, also beside the error. -/
  load : ∀ machine : Machine, machine.load rom = ⟨machine, some (.tooLarge rom.length 3584)⟩ ∧
    machine.perform (.load rom) = machine
  message : (RomError.tooLarge rom.length 3584).message =
    "ROM is too large (" ++ toString rom.length ++ " bytes), max size is 3584 bytes"

theorem load_file_of_fits {rom : Rom} {read : String → Except SystemError (List Byte)}
    {path : String} (found : read path = .ok rom) (fits : rom.length ≤ capacity) :
    Rom.load read path = .ok rom := by
  rw [Rom.load, found]
  exact if_neg (Nat.not_lt.mpr fits)

theorem load_file_of_large {rom : Rom} {read : String → Except SystemError (List Byte)}
    {path : String} (found : read path = .ok rom) (large : capacity < rom.length) :
    Rom.load read path = .error (.tooLarge rom.length capacity) := by
  rw [Rom.load, found]
  exact if_pos large

theorem fits_of_load_file {rom : Rom} {read : String → Except SystemError (List Byte)}
    {path : String} (loaded : Rom.load read path = .ok rom) : rom.length ≤ capacity := by
  unfold Rom.load at loaded
  split at loaded
  · cases loaded
  · split at loaded
    · cases loaded
    · next within =>
        obtain rfl := Except.ok.inj loaded
        exact Nat.le_of_not_lt within

theorem accepted_of_fits {rom : Rom} (fits : rom.length ≤ capacity) : rom.Accepted where
  file _ _ found := load_file_of_fits found fits
  boot random := by
    have booted := Machine.boot_of_fits random fits
    exact ⟨_, booted, Machine.laidOut_of_boot booted⟩
  padded random count room := Machine.boot_append_zeros random room
  load machine :=
    ⟨_, Machine.load_of_fits machine fits, Machine.perform_load_of_fits machine fits,
      Machine.receives_overlay machine fits⟩

theorem refused_of_large {rom : Rom} (large : capacity < rom.length) : rom.Refused where
  file _ _ found := load_file_of_large found large
  boot random := Machine.boot_of_large random large
  load machine :=
    ⟨Machine.load_of_large machine large, Machine.perform_load_of_large machine large⟩
  message := RomError.message_tooLarge rom.length

/-- Whether a program is put in place is decided by its length alone, and alike for a file, a new
machine and one that has run. So a session starts whenever its file can be read. -/
theorem placed_or_refused (rom : Rom) :
    (rom.length ≤ 3584 → rom.Accepted) ∧ (3584 < rom.length → rom.Refused) ∧
      ∀ (settings : Settings) read random, Rom.load read settings.romPath = .ok rom →
        ∃ machine, Machine.boot random rom = .ok machine ∧
          settings.start read random = .ok (Runner.start machine settings.speed) := by
  refine ⟨accepted_of_fits, refused_of_large, ?_⟩
  intro settings read random loaded
  have fits : rom.length ≤ capacity := fits_of_load_file loaded
  obtain ⟨machine, booted, -⟩ := (accepted_of_fits fits).boot random
  refine ⟨machine, booted, ?_⟩
  rw [Settings.start, loaded]
  dsimp only
  rw [booted]
  rfl

end Rom

end Chip8
