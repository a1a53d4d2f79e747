import Chip8.Proofs.Sprites

/-!
# The step that draws

A step at a draw opcode turns over exactly the screen positions that the sprite
covers and reports an overlap in the flag register. It looks at no byte of a
row below the screen, and yet it draws what the whole sprite would.
-/

namespace Chip8

namespace Machine

variable {machine : Machine}

/-- The screen with the sprite drawn on it, and whether that switched a cell off. -/
def spriteDrawn (machine : Machine) : Screen × Bool :=
  machine.screen.draw (machine.value machine.operandX) (machine.value machine.operandY)
    (machine.spriteOfRows machine.spriteRows)

theorem drawn_operands :
    machine.drawn machine.operandX machine.operandY (machine.opcode &&& 0x000F).toUInt8 =
      machine.spriteDrawn := by
  unfold drawn spriteDrawn shownSprite
  rw [spriteLength_operands]
  change machine.screen.draw _ _ (machine.spriteShape.sprite
    (machine.shownRows machine.operandY machine.spriteShape) _) = _
  rw [shownRows_operands]
  rfl

theorem step_of_draw (fetches : machine.Fetches) (form : machine.opcode &&& 0xF000 = 0xD000)
    (room : machine.index.toNat + machine.spriteDemand ≤ Memory.size) :
    machine.step = .done
      ({ machine.advance with screen := machine.spriteDrawn.1 }.setFlag machine.spriteDrawn.2) := by
  have near : machine.advance.beyond?
      (machine.advance.spriteLength machine.operandY (machine.opcode &&& 0x000F).toUInt8) =
        none := by
    apply beyond?_eq_none_iff.mpr
    change machine.index.toNat +
      machine.spriteLength machine.operandY (machine.opcode &&& 0x000F).toUInt8 ≤ Memory.size
    rw [spriteLength_operands]
    exact room
  rw [step_of_decode fetches (decode_draw form), execute, draw_of_near near, ← drawn_operands]
  rfl

/-- Of the rows below the screen it does not matter whether they are part of the sprite. -/
theorem covers_spriteOfRows {count : Nat} (shown : machine.spriteRows ≤ count)
    (short : count ≤ machine.spriteHeight) {px py : Nat} (above : py < machine.screen.height) :
    machine.screen.covers (machine.value machine.operandX) (machine.value machine.operandY)
      (machine.spriteOfRows count) px py = machine.spriteAt px py := by
  change ((decide (machine.spriteLeft ≤ px) && decide (machine.spriteTop ≤ py)) &&
    (machine.spriteOfRows count).isSet (px - machine.spriteLeft) (py - machine.spriteTop)) = _
  unfold spriteAt
  rw [Bool.decide_and]
  by_cases under : machine.spriteTop ≤ py
  · have visible : py - machine.spriteTop < machine.screen.height - machine.spriteTop := by omega
    by_cases row : py - machine.spriteTop < machine.spriteHeight
    · have present : py - machine.spriteTop < count :=
        Nat.lt_of_lt_of_le (Nat.lt_min.mpr ⟨row, visible⟩) shown
      rw [isSet_spriteOfRows short present]
    · rw [isSet_spriteOfRows_of_le (by omega)]
      unfold spriteBit
      simp only [row, and_false, decide_false, Bool.false_and]
  · simp only [under, decide_false, Bool.and_false, Bool.false_and]

/-- Some position is lit and has a set bit of the sprite on it. -/
def Overlaps (machine : Machine) : Prop :=
  ∃ px py, (px < machine.screen.width ∧ py < machine.screen.height) ∧
    machine.screen.isLit px py = true ∧ machine.spriteAt px py = true

theorem spriteDrawn_isLit (formed : machine.screen.WellFormed) {px py : Nat}
    (inside : px < machine.screen.width) (above : py < machine.screen.height) :
    machine.spriteDrawn.1.isLit px py =
      (machine.screen.isLit px py ^^ machine.spriteAt px py) := by
  rw [spriteDrawn, Screen.isLit_draw formed inside above,
    covers_spriteOfRows (Nat.le_refl _) spriteRows_le above]

theorem spriteDrawn_collision_iff : machine.spriteDrawn.2 = true ↔ machine.Overlaps := by
  rw [spriteDrawn, Screen.draw_collision_iff, Overlaps]
  apply exists_congr
  intro px
  apply exists_congr
  intro py
  apply and_congr_right
  rintro ⟨-, above⟩
  rw [covers_spriteOfRows (Nat.le_refl _) spriteRows_le above]

/-- Clipping the whole sprite at the bottom edge leaves the rows that are read. -/
theorem covered_whole :
    machine.screen.covered (machine.value machine.operandX) (machine.value machine.operandY)
        (machine.spriteOfRows machine.spriteHeight) =
      machine.screen.covered (machine.value machine.operandX) (machine.value machine.operandY)
        (machine.spriteOfRows machine.spriteRows) := by
  have rows : (machine.spriteOfRows machine.spriteHeight).rows.take
        (machine.screen.height - machine.spriteTop) =
      (machine.spriteOfRows machine.spriteRows).rows.take
        (machine.screen.height - machine.spriteTop) := by
    simp only [spriteOfRows_rows, ← List.map_take, List.take_range, spriteRows]
    rw [Nat.min_comm (machine.screen.height - machine.spriteTop) machine.spriteHeight,
      Nat.min_eq_right (Nat.min_le_right _ _)]
  unfold Screen.covered Sprite.spots
  dsimp only
  rw [← spriteTop, rows]
  rfl

theorem draw_whole :
    machine.screen.draw (machine.value machine.operandX) (machine.value machine.operandY)
        (machine.spriteOfRows machine.spriteHeight) = machine.spriteDrawn := by
  unfold spriteDrawn Screen.draw
  rw [covered_whole]

theorem spriteRows_congr {memory : Memory}
    (same : { machine with memory := memory }.opcode = machine.opcode) :
    { machine with memory := memory }.spriteRows = machine.spriteRows := by
  unfold spriteRows spriteHeight spriteTop operandY operandN
  rw [same]
  rfl

theorem spriteRowBytes_congr {memory : Memory}
    (same : { machine with memory := memory }.opcode = machine.opcode) :
    { machine with memory := memory }.spriteRowBytes = machine.spriteRowBytes := by
  unfold spriteRowBytes operandN
  rw [same]

/-- Memory that has the same bytes in the visible rows of the sprite draws the same. -/
theorem spriteDrawn_of_agree {memory : Memory}
    (same : { machine with memory := memory }.opcode = machine.opcode)
    (agree : ∀ address, machine.index.toNat ≤ address →
      address < machine.index.toNat + machine.spriteDemand →
        memory.byte address = machine.memory.byte address) :
    { machine with memory := memory }.spriteDrawn = machine.spriteDrawn := by
  have sprite : { machine with memory := memory }.spriteOfRows machine.spriteRows =
      machine.spriteOfRows machine.spriteRows := by
    unfold spriteOfRows spriteShape
    rw [same, spriteRowBytes_congr same]
    exact congrArg (machine.spriteShape.sprite machine.spriteRows) (Memory.block_congr agree)
  unfold spriteDrawn operandX operandY
  rw [spriteRows_congr same, sprite, same]
  rfl

/-- What a step leaves behind that has drawn the sprite of its opcode. -/
structure DrawsSprite (machine : Machine) : Prop where
  succeeds : machine.step.fault? = none
  /-- Each position is turned over if the sprite has a set bit on it. -/
  pixels : ∀ px py, px < machine.screen.width → py < machine.screen.height →
    machine.step.machine.screen.isLit px py =
      (machine.screen.isLit px py ^^ machine.spriteAt px py)
  overlap : machine.Overlaps → machine.step.machine.value flagRegister = 1
  noOverlap : ¬ machine.Overlaps → machine.step.machine.value flagRegister = 0
  /-- Nothing changes but the picture, the flag register and the advanced program counter. -/
  frame : machine.step.machine =
    { machine with
      programCounter := machine.programCounter.next
      registers := machine.registers.set flagRegister.val (machine.step.machine.value flagRegister)
      screen := { machine.screen with cells := machine.step.machine.screen.cells } }
  counter : machine.step.machine.programCounter.toNat = machine.programCounter.toNat + 2
  formed : machine.step.machine.screen.WellFormed
  /-- Besides its own two bytes the step depends on the rows above the bottom edge alone. -/
  unread : ∀ memory : Memory,
    memory.byte machine.programCounter.toNat =
        machine.memory.byte machine.programCounter.toNat →
      memory.byte (machine.programCounter.toNat + 1) =
          machine.memory.byte (machine.programCounter.toNat + 1) →
        (∀ address, machine.index.toNat ≤ address →
          address < machine.index.toNat + machine.spriteDemand →
            memory.byte address = machine.memory.byte address) →
          { machine with memory := memory }.step =
            ⟨{ machine.step.machine with memory := memory }, none⟩
  /-- Reading all rows and clipping them while drawing has the same result. -/
  whole : ∀ bytes,
    machine.memory.read machine.index (machine.spriteHeight * machine.spriteRowBytes) =
        .ok bytes →
      machine.screen.draw (machine.value machine.operandX) (machine.value machine.operandY)
          (machine.spriteShape.sprite machine.spriteHeight bytes) =
        (machine.step.machine.screen, decide (machine.step.machine.value flagRegister = 1))

theorem flag_step_of_draw (fetches : machine.Fetches)
    (form : machine.opcode &&& 0xF000 = 0xD000)
    (room : machine.index.toNat + machine.spriteDemand ≤ Memory.size) :
    machine.step.machine.value flagRegister = if machine.spriteDrawn.2 then 1 else 0 := by
  rw [step_of_draw fetches form room]
  exact (value_setRegister _ _ _ _).trans (if_pos rfl)

/-- A draw opcode whose visible rows lie in memory draws its sprite. -/
theorem step_draws_sprite (formed : machine.screen.WellFormed)
    (fetches : machine.programCounter.toNat + 2 ≤ 4096)
    (form : machine.opcode &&& 0xF000 = 0xD000)
    (room : machine.index.toNat + machine.spriteDemand ≤ 4096) : machine.DrawsSprite := by
  have step := step_of_draw fetches form room
  have screen : machine.step.machine.screen = machine.spriteDrawn.1 := by
    rw [step]
    rfl
  have flag := flag_step_of_draw fetches form room
  constructor
  case succeeds =>
    rw [step]
    rfl
  case pixels =>
    intro px py inside above
    rw [screen, spriteDrawn_isLit formed inside above]
  case overlap =>
    intro overlaps
    rw [flag, if_pos (spriteDrawn_collision_iff.mpr overlaps)]
  case noOverlap =>
    intro apart
    rw [flag, if_neg (fun collision => apart (spriteDrawn_collision_iff.mp collision))]
  case frame =>
    rw [flag, step]
    rfl
  case counter =>
    rw [step]
    exact toNat_next_of_fetches fetches
  case formed =>
    rw [screen]
    exact Screen.draw_wellFormed formed _ _ _
  case unread =>
    intro memory high low agree
    have same : { machine with memory := memory }.opcode = machine.opcode := by
      unfold opcode
      rw [high, low]
    have drawn := spriteDrawn_of_agree same agree
    have demand : { machine with memory := memory }.spriteDemand = machine.spriteDemand :=
      congrArg₂ (· * ·) (spriteRows_congr same) (spriteRowBytes_congr same)
    have fetches' : { machine with memory := memory }.Fetches := fetches
    rw [step_of_draw fetches' (same ▸ form) (demand ▸ room), drawn, step]
    rfl
  case whole =>
    intro bytes read
    obtain ⟨-, rfl⟩ := Memory.read_eq_ok_iff.mp read
    have collision : decide (machine.step.machine.value flagRegister = 1) =
        machine.spriteDrawn.2 := by
      rw [flag]
      cases machine.spriteDrawn.2 <;> rfl
    rw [collision, screen]
    exact draw_whole

/-- A sprite in the last corner of the screen, of which one row is read from the last byte of
memory, with the flag register as its column. -/
theorem step_draws_sprite_corner :
    let machine := { blank (.ofStream fun _ => 0) with
      index := 0x0FFF
      registers := (Registers.blank.set 13 31).set 15 62
      memory := Vector.replicate Memory.size 0xDF }
    (machine.opcode = 0xDFDF ∧ machine.spriteDemand = 1) ∧ machine.DrawsSprite :=
  ⟨⟨by decide +kernel, by decide +kernel⟩,
    step_draws_sprite (Screen.blank_wellFormed .low) (by decide +kernel) (by decide +kernel)
      (by decide +kernel)⟩

end Machine

end Chip8
