import Chip8.Proofs.DrawStep
import Chip8.Proofs.Untouched

/-!
# Glyphs

The fonts lie below all programs, so nothing but a store of the program can
spoil them. As long as none does, looking a digit up leads to the rows of its
glyph. And wherever a look-up leads, for a digit or not, the largest sprite fits
into memory from there on.
-/

namespace Chip8

/-- The bytes of the glyph of a digit. -/
def Font.glyph (font : Font) (digit : Byte) : List Byte :=
  (font.glyphs.drop (digit.toNat * font.height.toNat)).take font.height.toNat

/-- The fonts by which a program can look digits up. -/
inductive Typeface where
  | small
  | large
deriving DecidableEq, Repr

namespace Typeface

def font : Typeface → Font
  | .small => Font.small
  | .large => Font.large

def lookup (x : Register) : Typeface → Instruction
  | .small => .smallGlyph x
  | .large => .largeGlyph x

/-- The opcode that looks a digit up, without its register. -/
def form : Typeface → Word
  | .small => 0xF029
  | .large => 0xF030

variable {typeface : Typeface} {memory : Memory} {digit : Byte}

theorem decode_lookup {opcode : Word} (form : opcode &&& 0xF0FF = typeface.form) :
    Instruction.decode opcode = .ok (typeface.lookup (opcode.nibble 8)) := by
  cases typeface with
  | small =>
      have mem : Pattern.register 0xF029 .smallGlyph ∈ opcodeTable := by simp [opcodeTable]
      exact decode_of_form mem form
  | large =>
      have mem : Pattern.register 0xF030 .largeGlyph ∈ opcodeTable := by simp [opcodeTable]
      exact decode_of_form mem form

theorem toNat_addressOf (typeface : Typeface) (digit : Byte) :
    (typeface.font.addressOf digit).toNat =
      typeface.font.offset.toNat + digit.toNat * typeface.font.height.toNat := by
  apply Font.toNat_addressOf
  cases typeface <;> decide

/-- The last address that any look-up leads to is that of the large glyph of 255. -/
theorem toNat_addressOf_le (typeface : Typeface) (digit : Byte) :
    (typeface.font.addressOf digit).toNat ≤ 2630 := by
  have bound := digit.toNat_lt
  rw [toNat_addressOf]
  cases typeface with
  | small =>
      change 0 + digit.toNat * 5 ≤ 2630
      omega
  | large =>
      change 80 + digit.toNat * 10 ≤ 2630
      omega

/-- Where a font lies in memory, the glyphs of its digits lie where they are looked up. -/
theorem glyph_of_block (held : memory.block typeface.font.offset.toNat
      (16 * typeface.font.height.toNat) = typeface.font.glyphs) (known : digit.toNat ≤ 15) :
    memory.block (typeface.font.addressOf digit).toNat typeface.font.height.toNat =
      typeface.font.glyph digit := by
  rw [Font.glyph, ← held, Memory.row_of_block _ _ (Nat.lt_succ_of_le known), toNat_addressOf]

end Typeface

namespace Machine

variable {start machine : Machine} {actions : List Action} {action : Action}
  {typeface : Typeface}

/-- The action is a step that looks a digit up. -/
def LooksUp (typeface : Typeface) (machine : Machine) (action : Action) : Prop :=
  action = .step ∧ machine.Fetches ∧ machine.opcode &&& 0xF0FF = typeface.form

/-- No step of a history stores a byte where the fonts lie. -/
def SparesFonts (start : Machine) (actions : List Action) : Prop :=
  ∀ address, address < 0xF0 → ∀ n, ¬ start.HappensAt actions (StoresAt address) n

theorem step_of_looksUp (looks : machine.LooksUp typeface action) :
    machine.step = .done { machine.advance with
      index := typeface.font.addressOf (machine.value machine.operandX) } := by
  obtain ⟨-, fetches, form⟩ := looks
  rw [step_of_decode fetches (Typeface.decode_lookup form)]
  cases typeface <;> rfl

theorem block_of_sparesFonts (spares : start.SparesFonts actions) {first length : Nat}
    (low : first + length ≤ 0xF0) :
    (start.run actions).memory.block first length = start.memory.block first length := by
  apply Memory.block_congr
  intro address behind inside
  have below : address < 0xF0 := Nat.lt_of_lt_of_le inside low
  exact byte_run (untouched_of_low (Nat.lt_trans below (by decide)) (spares address below))

theorem holds_of_sparesFonts {random : RandomSource} {rom : Rom}
    (booted : boot random rom = .ok start) (spares : start.SparesFonts actions)
    (typeface : Typeface) :
    (start.run actions).memory.block typeface.font.offset.toNat
      (16 * typeface.font.height.toNat) = typeface.font.glyphs := by
  have laidOut := laidOut_of_boot booted
  cases typeface with
  | small => exact (block_of_sparesFonts spares (by decide)).trans laidOut.smallFont
  | large => exact (block_of_sparesFonts spares (by decide)).trans laidOut.largeFont

theorem spriteDemand_le (machine : Machine) : machine.spriteDemand ≤ 32 := by
  have digit : machine.operandN < 16 := Nat.mod_lt _ (by decide)
  refine Nat.le_trans (Nat.mul_le_mul_right _ machine.spriteRows_le) ?_
  unfold spriteHeight spriteRowBytes
  split <;> omega

/-- What the fonts are good for on a machine that a history leads to. -/
structure FontsServe (start : Machine) (actions : List Action) (machine : Machine) : Prop where
  kept : start.SparesFonts actions →
    machine.memory.block 0 80 = Font.small.glyphs ∧
      machine.memory.block 80 160 = Font.large.glyphs
  /-- Looking a digit up leads to its glyph. -/
  found : start.SparesFonts actions → ∀ typeface, machine.LooksUp typeface .step →
    (machine.value machine.operandX).toNat ≤ 15 →
      machine.step.fault? = none ∧
        machine.step.machine.memory.block machine.step.machine.index.toNat
            typeface.font.height.toNat =
          typeface.font.glyph (machine.value machine.operandX)
  /-- From where a look-up has led, whatever the byte, and the memory, every sprite is drawn. -/
  drawn : ∀ typeface n, start.HappensAt actions (LooksUp typeface) n →
    machine.index = (start.run (actions.take (n + 1))).index → machine.Fetches →
      machine.opcode &&& 0xF000 = 0xD000 → machine.step.fault? = none

theorem index_of_happensAt {n : Nat} (happens : start.HappensAt actions (LooksUp typeface) n) :
    (start.run (actions.take (n + 1))).index.toNat ≤ 2630 := by
  obtain ⟨action, here, looks⟩ := happens
  obtain rfl := looks.1
  rw [run_take_succ here, perform_step, step_of_looksUp looks]
  exact typeface.toNat_addressOf_le _

/-- The fonts serve throughout every history of a machine. -/
theorem fonts_serve {random : RandomSource} {rom : Rom} (booted : boot random rom = .ok start)
    (reached : start.run actions = machine) : start.FontsServe actions machine := by
  subst reached
  constructor
  case kept =>
    intro spares
    exact ⟨holds_of_sparesFonts booted spares .small, holds_of_sparesFonts booted spares .large⟩
  case found =>
    intro spares typeface looks known
    rw [step_of_looksUp looks]
    exact ⟨rfl, Typeface.glyph_of_block (holds_of_sparesFonts booted spares typeface) known⟩
  case drawn =>
    intro typeface n happens same fetches form
    have low := index_of_happensAt happens
    have demand := (start.run actions).spriteDemand_le
    have size : Memory.size = 4096 := rfl
    rw [step_of_draw fetches form (by rw [same]; omega)]
    rfl

/-- Looks the large ten up and draws a square sprite from there. -/
def lookingProgram : Rom := [0x60, 0x0A, 0xF0, 0x30, 0xD0, 0x00]

theorem looking_sets (stands : machine.StandsIn lookingProgram 0) :
    machine.opcode = 0x600A ∧ machine.step.machine.StandsIn lookingProgram 2 ∧
      machine.step.machine.value 0 = 10 := by
  have decoded : Instruction.decode 0x600A = .ok (.set 0 10) := rfl
  refine ⟨(stands.opcode (by decide)).trans (by decide), ?_⟩
  rw [stands.step (by decide) (by decide) decoded]
  exact ⟨stands.onward (by decide) rfl rfl, value_setRegister_self _ _ _⟩

theorem looking_looks (stands : machine.StandsIn lookingProgram 2) :
    machine.LooksUp .large .step ∧ machine.opcode = 0xF030 ∧
      machine.step.machine.StandsIn lookingProgram 4 := by
  have opcode : machine.opcode = 0xF030 := (stands.opcode (by decide)).trans (by decide)
  have decoded : Instruction.decode 0xF030 = .ok (.largeGlyph 0) := rfl
  refine ⟨⟨rfl, stands.fetches (by decide), opcode ▸ by decide⟩, opcode, ?_⟩
  rw [stands.step (by decide) (by decide) decoded]
  exact stands.onward (by decide) rfl rfl

theorem looking_draws (stands : machine.StandsIn lookingProgram 4) :
    machine.Fetches ∧ machine.opcode &&& 0xF000 = 0xD000 :=
  ⟨stands.fetches (by decide), stands.opcode (by decide) ▸ by decide⟩

theorem looking_spares (stands : machine.StandsIn lookingProgram 0) :
    machine.SparesFonts [.step] ∧ machine.SparesFonts [.step, .step] := by
  obtain ⟨sets, onward, -⟩ := looking_sets stands
  obtain ⟨-, looks, -⟩ := looking_looks onward
  have first (address : Nat) : ¬ machine.StoresAt address .step := fun stores =>
    not_writesByte_of_opcode (sets ▸ by decide) (sets ▸ by decide) stores.2
  have second (address : Nat) : ¬ machine.step.machine.StoresAt address .step := fun stores =>
    not_writesByte_of_opcode (looks ▸ by decide) (looks ▸ by decide) stores.2
  constructor
  · intro address _
    exact never_cons_iff.mpr ⟨first address, never_nil⟩
  · intro address _
    exact never_cons_iff.mpr ⟨first address, never_cons_iff.mpr ⟨second address, never_nil⟩⟩

/-- The large ten is found and drawn, if the fonts serve. -/
theorem looking_served (stands : machine.StandsIn lookingProgram 0)
    (one : machine.FontsServe [.step] (machine.run [.step]))
    (two : machine.FontsServe [.step, .step] (machine.run [.step, .step])) :
    let drawing := machine.run [.step, .step]
    drawing.memory.block drawing.index.toNat 10 = Font.large.glyph 10 ∧
      drawing.step.fault? = none := by
  obtain ⟨-, second, ten⟩ := looking_sets stands
  obtain ⟨looks, opcode, third⟩ := looking_looks second
  obtain ⟨fetches, draws⟩ := looking_draws third
  have digit : machine.step.machine.value machine.step.machine.operandX = 10 :=
    (congrArg (fun opcode : Word => machine.step.machine.value (opcode.nibble 8)) opcode).trans ten
  have found := (one.found (looking_spares stands).1 .large looks (digit ▸ by decide)).2
  have happens : machine.HappensAt [.step, .step] (LooksUp .large) 1 := ⟨.step, rfl, looks⟩
  exact ⟨digit ▸ found, two.drawn .large 1 happens rfl fetches draws⟩

/-- The fonts serve a program that looks the large ten up and draws from there. -/
theorem fonts_serve_large_ten :
    let start := { blank (.ofSeed 0) with
      memory := firmware.overlay loadAddress.toNat lookingProgram }
    let drawing := start.run [.step, .step]
    boot (.ofSeed 0) lookingProgram = .ok start ∧ start.SparesFonts [.step, .step] ∧
      start.FontsServe [.step] (start.run [.step]) ∧ start.FontsServe [.step, .step] drawing ∧
      drawing.memory.block drawing.index.toNat 10 = Font.large.glyph 10 ∧
      drawing.step.fault? = none := by
  intro start drawing
  have booted : boot (.ofSeed 0) lookingProgram = .ok start := rfl
  have stands := standsIn_of_boot booted
  have one : start.FontsServe [.step] (start.run [.step]) := fonts_serve booted rfl
  have two : start.FontsServe [.step, .step] drawing := fonts_serve booted rfl
  exact ⟨booted, (looking_spares stands).2, one, two, looking_served stands one two⟩

end Machine

end Chip8
