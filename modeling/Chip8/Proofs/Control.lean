import Chip8.Machine.History
import Chip8.Proofs.Stepping

/-!
# Where control goes

Each instruction moves the program counter in one of a few ways, and only
entering and leaving a subroutine touch the stack. Whatever happens to a
machine, its program counter therefore stays below a fixed bound, its stack
within its limit, and no move of the program counter wraps around.
-/

namespace Chip8

/-- The instructions that may skip the next one. -/
def Instruction.isSkip : Instruction → Bool
  | .skipIfByte _ _ => true
  | .skipUnlessByte _ _ => true
  | .skipIfSame _ _ => true
  | .skipUnlessSame _ _ => true
  | .skipIfDown _ => true
  | .skipUnlessDown _ => true
  | _ => false

/-- The instructions that set the program counter outright. -/
def Instruction.isTransfer : Instruction → Bool
  | .jump _ => true
  | .jumpBeyond _ => true
  | .enter _ => true
  | .leave => true
  | _ => false

namespace Machine

/-- Where an instruction leads the program counter and the stack of a machine. -/
inductive Leads (before : Machine) : Instruction → Machine → Prop where
  | onward {instruction : Instruction} {after : Machine}
      (counter : after.programCounter = before.programCounter)
      (stack : after.stack = before.stack) : Leads before instruction after
  | skip {instruction : Instruction} {after : Machine} (skips : instruction.isSkip = true)
      (counter : after.programCounter = before.programCounter.next)
      (stack : after.stack = before.stack) : Leads before instruction after
  | wait {x : Register} {after : Machine} (unheld : before.keypad.awaited? = none)
      (counter : after.programCounter = before.programCounter.previous)
      (stack : after.stack = before.stack) : Leads before (.awaitKey x) after
  | jump {target : Address} {after : Machine} (counter : after.programCounter = target)
      (stack : after.stack = before.stack) : Leads before (.jump target) after
  | jumpBeyond {target : Address} {after : Machine}
      (counter : after.programCounter = target + (before.value firstRegister).toUInt16)
      (stack : after.stack = before.stack) : Leads before (.jumpBeyond target) after
  | enter {target : Address} {after : Machine} (room : before.stack.length < CallStack.limit)
      (counter : after.programCounter = target)
      (stack : after.stack = before.programCounter :: before.stack) :
      Leads before (.enter target) after
  | leave {address : Address} {after : Machine}
      (counter : after.programCounter = address)
      (stack : before.stack = address :: after.stack) : Leads before .leave after

variable {machine : Machine}

theorem leads_skipWhen {instruction : Instruction} (skips : instruction.isSkip = true)
    (condition : Bool) : machine.Leads instruction (machine.skipWhen condition) := by
  cases condition with
  | false => exact .onward rfl rfl
  | true => exact .skip skips rfl rfl

theorem leads_awaitKey (machine : Machine) (x : Register) :
    machine.Leads (.awaitKey x) (machine.awaitKey x) := by
  unfold awaitKey
  cases held : machine.keypad.awaited? with
  | some key => exact .onward rfl rfl
  | none => exact .wait held rfl rfl

theorem leads_increaseIndex (machine : Machine) (x : Register) :
    machine.Leads (.increaseIndex x) (machine.increaseIndex x) := by
  unfold increaseIndex
  dsimp only
  split
  · exact .onward rfl rfl
  · exact .onward rfl rfl

theorem leads_effect {instruction : Instruction}
    (clear : machine.hindrance? instruction = none) :
    machine.Leads instruction (machine.effect instruction) := by
  cases instruction with
  | jump target => exact .jump rfl rfl
  | jumpBeyond target => exact .jumpBeyond rfl rfl
  | enter target => exact .enter (hindrance?_enter_eq_none_iff.mp clear) rfl rfl
  | leave =>
      obtain ⟨address, rest, entries⟩ :=
        List.exists_cons_of_ne_nil (hindrance?_leave_eq_none_iff.mp clear)
      rw [effect_leave entries]
      exact .leave rfl entries
  | skipIfByte x value => exact leads_skipWhen rfl _
  | skipUnlessByte x value => exact leads_skipWhen rfl _
  | skipIfSame x y => exact leads_skipWhen rfl _
  | skipUnlessSame x y => exact leads_skipWhen rfl _
  | skipIfDown x => exact leads_skipWhen rfl _
  | skipUnlessDown x => exact leads_skipWhen rfl _
  | awaitKey x => exact leads_awaitKey machine x
  | increaseIndex x => exact leads_increaseIndex machine x
  | combine operation x y => cases operation <;> exact .onward rfl rfl
  | loadRegisters last =>
      rw [effect_loadRegisters]
      exact .onward rfl rfl
  | _ => exact .onward rfl rfl

/-- A failing instruction leads nowhere, every other one as its kind says. -/
theorem execute_leads (machine : Machine) (instruction : Instruction) :
    machine.Leads instruction (machine.execute instruction).machine := by
  cases hindered : machine.hindrance? instruction with
  | none =>
      rw [execute_of_clear hindered]
      exact leads_effect hindered
  | some fault =>
      rw [execute_of_hindrance hindered]
      exact .onward rfl rfl

/-! ## Bounds that no history leaves -/

/-- The program counter and the stack are in their ranges. -/
structure ControlBounded (machine : Machine) : Prop where
  counter : machine.programCounter.toNat ≤ 0x10FE
  depth : machine.stack.length ≤ 16
  returns : ∀ address ∈ machine.stack, 2 ≤ address.toNat ∧ address.toNat ≤ 0x1000

theorem controlBounded_of_same {after : Machine} (bounded : machine.ControlBounded)
    (counter : after.programCounter.toNat ≤ 0x10FE) (stack : after.stack = machine.stack) :
    after.ControlBounded where
  counter := counter
  depth := stack ▸ bounded.depth
  returns := stack ▸ bounded.returns

theorem toNat_jumpBeyond {target : Address} (low : target.toNat ≤ 0x0FFF) (offset : Byte) :
    (target + offset.toUInt16).toNat = target.toNat + offset.toNat := by
  have small := offset.toNat_lt
  rw [UInt16.toNat_add, UInt8.toNat_toUInt16]
  exact Nat.mod_eq_of_lt (by omega)

/-- The ways of control, for an opcode that was fetched, keep to the bounds. -/
theorem controlBounded_of_leads {instruction : Instruction} {after : Machine}
    (bounded : machine.ControlBounded) (fetches : machine.Fetches)
    (decoded : Instruction.decode machine.opcode = .ok instruction)
    (leads : machine.advance.Leads instruction after) : after.ControlBounded := by
  have low : machine.programCounter.toNat + 2 ≤ 4096 := fetches
  have next : machine.advance.programCounter.toNat = machine.programCounter.toNat + 2 :=
    toNat_next_of_fetches fetches
  cases leads with
  | onward counter stack =>
      refine controlBounded_of_same bounded ?_ stack
      rw [counter]
      omega
  | skip skips counter stack =>
      refine controlBounded_of_same bounded ?_ stack
      rw [counter, Address.toNat_next (by omega)]
      omega
  | wait unheld counter stack =>
      refine controlBounded_of_same bounded ?_ stack
      rw [counter, Address.toNat_previous (by omega)]
      omega
  | @jump target _ counter stack =>
      obtain ⟨-, rfl⟩ := decode_eq_jump_iff.mp decoded
      have below := toNat_lowTwelve_le machine.opcode
      refine controlBounded_of_same bounded ?_ stack
      rw [counter]
      omega
  | @jumpBeyond target _ counter stack =>
      obtain ⟨-, rfl⟩ := decode_eq_jumpBeyond_iff.mp decoded
      have below := toNat_lowTwelve_le machine.opcode
      have small := (machine.advance.value firstRegister).toNat_lt
      refine controlBounded_of_same bounded ?_ stack
      rw [counter, toNat_jumpBeyond below]
      omega
  | @enter target _ room counter stack =>
      obtain ⟨-, rfl⟩ := decode_eq_enter_iff.mp decoded
      have below := toNat_lowTwelve_le machine.opcode
      constructor
      · rw [counter]
        omega
      · rw [stack, List.length_cons]
        exact room
      · rw [stack]
        intro address mem
        rcases List.mem_cons.mp mem with rfl | older
        · omega
        · exact bounded.returns address older
  | @leave address _ counter stack =>
      have entries : machine.stack = address :: after.stack := stack
      have range := bounded.returns address (entries ▸ List.mem_cons_self)
      constructor
      · rw [counter]
        omega
      · have depth := bounded.depth
        rw [entries, List.length_cons] at depth
        omega
      · intro other mem
        exact bounded.returns other (entries ▸ List.mem_cons_of_mem _ mem)

theorem step_controlBounded (bounded : machine.ControlBounded) :
    machine.step.machine.ControlBounded := by
  by_cases fetches : machine.Fetches
  · have low : machine.programCounter.toNat + 2 ≤ 4096 := fetches
    have next : machine.advance.programCounter.toNat = machine.programCounter.toNat + 2 :=
      toNat_next_of_fetches fetches
    cases decoded : Instruction.decode machine.opcode with
    | error fault =>
        rw [step_of_decode_error fetches decoded]
        refine controlBounded_of_same bounded ?_ rfl
        change machine.advance.programCounter.toNat ≤ 0x10FE
        omega
    | ok instruction =>
        rw [step_of_decode fetches decoded]
        exact controlBounded_of_leads bounded fetches decoded (execute_leads _ _)
  · rw [step_of_not_fetches fetches]
    exact bounded

theorem perform_controlBounded (bounded : machine.ControlBounded) (action : Action) :
    (machine.perform action).ControlBounded := by
  cases action with
  | step => exact step_controlBounded bounded
  | tick => exact controlBounded_of_same bounded bounded.counter rfl
  | press key => exact controlBounded_of_same bounded bounded.counter rfl
  | release key => exact controlBounded_of_same bounded bounded.counter rfl
  | load rom =>
      obtain ⟨memory, same⟩ := machine.perform_load rom
      rw [same]
      exact controlBounded_of_same bounded bounded.counter rfl

theorem memory_of_boot {random : RandomSource} {rom : Rom} (booted : boot random rom = .ok machine)
    (offset : Nat) (inside : offset < rom.length) :
    machine.memory.byte (loadAddress.toNat + offset) = rom[offset] := by
  have room := loadAddress_add_le (fits_of_boot booted)
  rw [eq_of_boot booted]
  change (firmware.overlay loadAddress.toNat rom).byte _ = _
  rw [Memory.byte_overlay _ _ _ _ room, if_pos (Nat.le_add_right _ _),
    Nat.add_sub_cancel_left, List.getElem?_eq_getElem inside]
  rfl

/-- The first opcode of a new machine is the first of its program. -/
theorem opcode_of_boot {random : RandomSource} {high low : Byte} {rest : List Byte}
    (booted : boot random (high :: low :: rest) = .ok machine) :
    machine.opcode = Word.ofBytes [high, low] := by
  have counter : machine.programCounter = loadAddress := by rw [eq_of_boot booted]; rfl
  have first := memory_of_boot booted 0 (by simp)
  have second := memory_of_boot booted 1 (by simp)
  rw [opcode, counter]
  exact congrArg₂ (fun high low => Word.ofBytes [high, low]) first second

theorem pending?_of_boot {random : RandomSource} {high low : Byte} {rest : List Byte}
    (booted : boot random (high :: low :: rest) = .ok machine) :
    machine.pending? = (Instruction.decode (Word.ofBytes [high, low])).toOption := by
  have counter : machine.programCounter = loadAddress := by rw [eq_of_boot booted]; rfl
  have fetches : machine.Fetches := by
    rw [Fetches, counter]
    decide
  rw [pending?, fetch_of_fetches fetches, opcode_of_boot booted]

theorem boot_controlBounded {random : RandomSource} {rom : Rom}
    (booted : boot random rom = .ok machine) : machine.ControlBounded := by
  obtain rfl := eq_of_boot booted
  constructor
  · exact (by decide : loadAddress.toNat ≤ 0x10FE)
  · exact Nat.zero_le _
  · intro address mem
    cases mem

theorem reachable_controlBounded (reachable : Reachable machine) : machine.ControlBounded := by
  induction reachable with
  | boot booted => exact boot_controlBounded booted
  | perform action _ ih => exact perform_controlBounded ih action

/-! ## Moves of the program counter -/

/-- A move of the program counter by one instruction. -/
inductive Move where
  | advance
  | rewind
deriving DecidableEq, Repr

def Move.target (address : Address) : Move → Address
  | .advance => address.next
  | .rewind => address.previous

/-- A move from an address goes where it would go if addresses had no end. -/
def Move.Exact (address : Address) : Move → Prop
  | .advance => address.next.toNat = address.toNat + 2
  | .rewind => address.previous.toNat + 2 = address.toNat

/-- The moves that a step can make, and from where: past its opcode, past the next one if it is
about to skip, and back to its opcode if it waits for a key. -/
inductive Moves (machine : Machine) : Move → Address → Prop where
  | fetched {opcode : Word} (fetched : machine.fetch = .ok opcode) :
      Moves machine .advance machine.programCounter
  | skipped {instruction : Instruction} (pending : machine.pending? = some instruction)
      (skips : instruction.isSkip = true) : Moves machine .advance machine.advance.programCounter
  | waited {x : Register} (pending : machine.pending? = some (.awaitKey x)) :
      Moves machine .rewind machine.advance.programCounter

/-- The program counter gets to an address by the moves of a step, or by a transfer of control. -/
inductive Travels (machine : Machine) : Address → Prop where
  | still : Travels machine machine.programCounter
  | moved {move : Move} {address : Address} (travelled : Travels machine address)
      (moves : machine.Moves move address) : Travels machine (move.target address)
  | transferred {instruction : Instruction} {address : Address}
      (pending : machine.pending? = some instruction)
      (transfers : instruction.isTransfer = true) : Travels machine address

theorem travels_advance (fetches : machine.Fetches) :
    machine.Travels machine.advance.programCounter :=
  .moved .still (.fetched (fetch_of_fetches fetches))

theorem travels_of_leads {instruction : Instruction} {after : Machine}
    (fetches : machine.Fetches) (pending : machine.pending? = some instruction)
    (leads : machine.advance.Leads instruction after) :
    machine.Travels after.programCounter := by
  cases leads with
  | onward counter stack =>
      rw [counter]
      exact travels_advance fetches
  | skip skips counter stack =>
      rw [counter]
      exact .moved (travels_advance fetches) (.skipped pending skips)
  | wait unheld counter stack =>
      rw [counter]
      exact .moved (travels_advance fetches) (.waited pending)
  | jump counter stack => exact .transferred pending rfl
  | jumpBeyond counter stack => exact .transferred pending rfl
  | enter room counter stack => exact .transferred pending rfl
  | leave counter stack => exact .transferred pending rfl

/-- The moves of a step and its transfer of control are all that happens to its program counter. -/
theorem step_travels (machine : Machine) :
    machine.Travels machine.step.machine.programCounter := by
  by_cases fetches : machine.Fetches
  · cases decoded : Instruction.decode machine.opcode with
    | error fault =>
        rw [step_of_decode_error fetches decoded]
        exact travels_advance fetches
    | ok instruction =>
        rw [step_of_decode fetches decoded]
        have pending := pending?_eq_some_iff.mpr ⟨fetches, decoded⟩
        exact travels_of_leads fetches pending (execute_leads _ _)
  · rw [step_of_not_fetches fetches]
    exact .still

theorem move_exact {move : Move} {address : Address} (moves : machine.Moves move address) :
    move.Exact address := by
  cases moves with
  | fetched fetched => exact toNat_next_of_fetches (fetches_of_fetch fetched).1
  | skipped pending skips =>
      have fetches := (pending?_eq_some_iff.mp pending).1
      have low : machine.programCounter.toNat + 2 ≤ 4096 := fetches
      have next : machine.advance.programCounter.toNat = machine.programCounter.toNat + 2 :=
        toNat_next_of_fetches fetches
      exact Address.toNat_next (by omega)
  | waited pending =>
      have fetches := (pending?_eq_some_iff.mp pending).1
      have next : machine.advance.programCounter.toNat = machine.programCounter.toNat + 2 :=
        toNat_next_of_fetches fetches
      have room : 2 ≤ machine.advance.programCounter.toNat := by omega
      rw [Move.Exact, Address.toNat_previous room]
      omega

/-- Whatever has happened to a machine, its program counter and its stack are in their ranges, and
no move that its next step makes with the program counter wraps around. -/
theorem reachable_control (reachable : Reachable machine) :
    machine.ControlBounded ∧ machine.Travels machine.step.machine.programCounter ∧
      ∀ move address, machine.Moves move address → move.Exact address := by
  have bounded := reachable_controlBounded reachable
  exact ⟨bounded, step_travels machine, fun _ _ => move_exact⟩

/-- A machine whose program starts with a call of the last address. -/
theorem reachable_control_call :
    let start := { blank (.ofSeed 0) with
      memory := firmware.overlay loadAddress.toNat [0x2F, 0xFF] }
    let machine := start.step.machine
    Reachable machine ∧ machine.programCounter = 0x0FFF ∧ machine.stack = [0x0202] ∧
      machine.ControlBounded ∧ machine.Travels machine.step.machine.programCounter ∧
      ∀ move address, machine.Moves move address → move.Exact address := by
  intro start machine
  have booted : boot (.ofSeed 0) [0x2F, 0xFF] = .ok start := rfl
  have reachable : Reachable machine := (Reachable.boot booted).step
  have opcode : start.opcode = 0x2FFF := opcode_of_boot booted
  have decoded : Instruction.decode start.opcode = .ok (.enter 0x0FFF) := by
    rw [opcode]
    rfl
  have fetches : start.Fetches := by decide
  have called : machine = (start.advance.execute (.enter 0x0FFF)).machine :=
    congrArg Outcome.machine (step_of_decode fetches decoded)
  exact ⟨reachable, called ▸ rfl, called ▸ rfl, reachable_control reachable⟩

end Machine

end Chip8
