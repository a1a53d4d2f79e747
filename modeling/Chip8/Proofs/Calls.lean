import Chip8.Proofs.Control

/-!
# Calls and returns

A call puts the address behind it on the stack, and only a return takes an
entry off again. So whatever happens in between, at the moment when the stack
is back at the depth of the call it is the stack of the call, and the program
goes on behind the call.
-/

namespace Chip8.Machine

variable {machine before after : Machine}

/-- What an action can do to the stack. -/
inductive StackMove (before after : Machine) : Prop where
  | kept (stack : after.stack = before.stack)
  | entered (stack : after.stack = before.programCounter.next :: before.stack)
  | left {address : Address} (stack : before.stack = address :: after.stack)
      (counter : after.programCounter = address)

theorem stackMove_of_leads {instruction : Instruction}
    (leads : before.advance.Leads instruction after) : before.StackMove after := by
  cases leads with
  | onward _ stack => exact .kept stack
  | skip _ _ stack => exact .kept stack
  | wait _ _ stack => exact .kept stack
  | jump _ stack => exact .kept stack
  | jumpBeyond _ stack => exact .kept stack
  | enter _ _ stack => exact .entered stack
  | leave counter stack => exact .left stack counter

theorem step_stackMove (machine : Machine) : machine.StackMove machine.step.machine := by
  by_cases fetches : machine.Fetches
  · cases decoded : Instruction.decode machine.opcode with
    | error fault =>
        rw [step_of_decode_error fetches decoded]
        exact .kept rfl
    | ok instruction =>
        rw [step_of_decode fetches decoded]
        exact stackMove_of_leads (execute_leads _ _)
  · rw [step_of_not_fetches fetches]
    exact .kept rfl

theorem perform_stackMove (machine : Machine) (action : Action) :
    machine.StackMove (machine.perform action) := by
  cases action with
  | step => exact step_stackMove machine
  | tick => exact .kept rfl
  | press key => exact .kept rfl
  | release key => exact .kept rfl
  | load rom =>
      obtain ⟨memory, same⟩ := machine.perform_load rom
      rw [same]
      exact .kept rfl

/-- An entry and all that lies below it stay until a return takes that entry. -/
theorem suffix_or_left {address : Address} {rest : List Address}
    (moved : before.StackMove after) (held : address :: rest <:+ before.stack) :
    address :: rest <:+ after.stack ∨ (after.stack = rest ∧ after.programCounter = address) := by
  cases moved with
  | kept stack => exact .inl (stack ▸ held)
  | entered stack =>
      rw [stack]
      exact .inl (held.trans (List.suffix_cons _ _))
  | left stack counter =>
      rw [stack] at held
      rcases List.suffix_cons_iff.mp held with same | below
      · obtain ⟨rfl, rfl⟩ := List.cons.inj same
        exact .inr ⟨rfl, counter⟩
      · exact .inl below

/-- The first time that the stack of a history is down at `rest`, the entry above has just been
taken. -/
theorem run_left {address : Address} {rest : List Address} (actions : List Action)
    (held : address :: rest <:+ machine.stack)
    (above : ∀ n < actions.length, rest.length < (machine.run (actions.take n)).stack.length)
    (back : (machine.run actions).stack.length = rest.length) :
    (machine.run actions).stack = rest ∧ (machine.run actions).programCounter = address := by
  induction actions generalizing machine with
  | nil =>
      have deep : rest.length + 1 ≤ machine.stack.length := held.length_le
      have flat : machine.stack.length = rest.length := back
      omega
  | cons action later ih =>
      rcases suffix_or_left (perform_stackMove machine action) held with held | ⟨stack, counter⟩
      · refine ih held ?_ back
        intro n inside
        exact above (n + 1) (Nat.succ_lt_succ inside)
      · cases later with
        | nil => exact ⟨stack, counter⟩
        | cons next later =>
            have above : rest.length < (machine.perform action).stack.length :=
              above 1 (by simp)
            rw [stack] at above
            exact absurd above (Nat.lt_irrefl _)

/-- A call with room on the stack leaves the address behind it on top. -/
theorem stack_of_call (fetches : machine.Fetches) (form : machine.opcode &&& 0xF000 = 0x2000)
    (room : machine.stack.length < CallStack.limit) :
    machine.step.machine.stack = machine.programCounter.next :: machine.stack := by
  have clear : machine.advance.hindrance? (.enter (machine.opcode &&& 0x0FFF)) = none :=
    hindrance?_enter_eq_none_iff.mpr room
  rw [step_of_decode fetches (decode_eq_enter_iff.mpr ⟨form, rfl⟩), execute, enter_of_room clear]
  rfl

/-- After a call, whatever happens while the stack is deeper than before it, the first moment when
the stack is back at that depth finds it as it was before the call, entry for entry, and the program
counter two behind the call. -/
theorem call_returns (fetches : machine.programCounter.toNat + 2 ≤ 4096)
    (form : machine.opcode &&& 0xF000 = 0x2000) (room : machine.stack.length < 16)
    (actions : List Action)
    (above : ∀ n < actions.length,
      machine.stack.length < (machine.step.machine.run (actions.take n)).stack.length)
    (back : (machine.step.machine.run actions).stack.length = machine.stack.length) :
    (machine.step.machine.run actions).stack = machine.stack ∧
      (machine.step.machine.run actions).programCounter.toNat =
        machine.programCounter.toNat + 2 := by
  have held : machine.programCounter.next :: machine.stack <:+ machine.step.machine.stack :=
    stack_of_call fetches form room ▸ List.suffix_refl _
  obtain ⟨stack, counter⟩ := run_left actions held above back
  refine ⟨stack, ?_⟩
  rw [counter]
  exact toNat_next_of_fetches fetches

/-- A call into a routine that fails at first, calls the line behind the first call, and comes back
from both calls. -/
theorem call_returns_nested :
    let machine := { blank (.ofStream fun _ => 0) with
      programCounter := 0
      stack := [0x0300]
      memory := Memory.blank.overlay 0 [0x20, 0x04, 0x00, 0xEE, 0x80, 0x08, 0x20, 0x02, 0x00, 0xEE] }
    let actions := [.step, .tick, .step, .press 3, .step, .step]
    (machine.step.machine.stepFaults actions = [some (.unknownOpcode 0x8008), none, none, none] ∧
      ∀ n < actions.length, 1 < (machine.step.machine.run (actions.take n)).stack.length) ∧
      (machine.step.machine.run actions).stack = [0x0300] ∧
        (machine.step.machine.run actions).programCounter.toNat = 0x0002 :=
  ⟨⟨by decide +kernel, by decide +kernel⟩,
    call_returns (by decide +kernel) (by decide +kernel) (by decide +kernel) _ (by decide +kernel)
      (by decide +kernel)⟩

end Chip8.Machine
