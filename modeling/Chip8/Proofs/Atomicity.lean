import Chip8.Proofs.Stepping

/-!
# Failing steps

A step that fails changes nothing but the program counter, and that only if the
opcode could be fetched.
-/

namespace Chip8

/-- The faults that a fetched opcode can end in. -/
inductive Word.Raises (opcode : Word) : Fault → Prop where
  | unknown (unreadable : Instruction.decode opcode = .error (.unknownOpcode opcode)) :
      Raises opcode (.unknownOpcode opcode)
  | enter {target : Address} (decoded : Instruction.decode opcode = .ok (.enter target)) :
      Raises opcode .stackOverflow
  | leave (decoded : Instruction.decode opcode = .ok .leave) : Raises opcode .stackUnderflow
  | skipIfDown {x : Register} {key : Byte}
      (decoded : Instruction.decode opcode = .ok (.skipIfDown x)) : Raises opcode (.unknownKey key)
  | skipUnlessDown {x : Register} {key : Byte}
      (decoded : Instruction.decode opcode = .ok (.skipUnlessDown x)) :
      Raises opcode (.unknownKey key)
  | draw {x y : Register} {height : Byte} {address : Nat}
      (decoded : Instruction.decode opcode = .ok (.draw x y height)) :
      Raises opcode (.outsideMemory address)
  | storeDecimal {x : Register} {address : Nat}
      (decoded : Instruction.decode opcode = .ok (.storeDecimal x)) :
      Raises opcode (.outsideMemory address)
  | storeRegisters {last : Register} {address : Nat}
      (decoded : Instruction.decode opcode = .ok (.storeRegisters last)) :
      Raises opcode (.outsideMemory address)
  | loadRegisters {last : Register} {address : Nat}
      (decoded : Instruction.decode opcode = .ok (.loadRegisters last)) :
      Raises opcode (.outsideMemory address)

namespace Machine

theorem raises_of_hindrance {machine : Machine} {opcode : Word} {instruction : Instruction}
    {fault : Fault} (decoded : Instruction.decode opcode = .ok instruction)
    (hindered : machine.hindrance? instruction = some fault) : opcode.Raises fault := by
  cases instruction with
  | enter target =>
      obtain ⟨-, rfl⟩ := hindrance?_enter_eq_some_iff.mp hindered
      exact .enter decoded
  | leave =>
      obtain ⟨-, rfl⟩ := hindrance?_leave_eq_some_iff.mp hindered
      exact .leave decoded
  | skipIfDown x =>
      obtain ⟨-, rfl⟩ := keyless?_eq_some_iff.mp hindered
      exact .skipIfDown decoded
  | skipUnlessDown x =>
      obtain ⟨-, rfl⟩ := keyless?_eq_some_iff.mp hindered
      exact .skipUnlessDown decoded
  | draw x y height =>
      obtain ⟨-, rfl⟩ := beyond?_eq_some_iff.mp hindered
      exact .draw decoded
  | storeDecimal x =>
      obtain ⟨-, rfl⟩ := beyond?_eq_some_iff.mp hindered
      exact .storeDecimal decoded
  | storeRegisters last =>
      obtain ⟨-, rfl⟩ := beyond?_eq_some_iff.mp hindered
      exact .storeRegisters decoded
  | loadRegisters last =>
      obtain ⟨-, rfl⟩ := beyond?_eq_some_iff.mp hindered
      exact .loadRegisters decoded
  | _ => cases hindered

/-- What a step that fails leaves behind. -/
structure FailsCleanly (machine : Machine) (fault : Fault) : Prop where
  /-- All of the machine is as it was, the program counter apart. -/
  unchanged : machine.step.machine =
    { machine with programCounter := machine.step.machine.programCounter }
  unfetched : ∀ cause, machine.fetch = .error cause →
    cause = fault ∧ machine.step.machine.programCounter = machine.programCounter
  fetched : ∀ opcode, machine.fetch = .ok opcode →
    opcode.Raises fault ∧
      machine.step.machine.programCounter.toNat = machine.programCounter.toNat + 2

theorem failsCleanly_of_beyond {machine : Machine} (beyond : ¬ machine.Fetches) :
    machine.FailsCleanly machine.fetchFault where
  unchanged := by rw [step_of_not_fetches beyond]; rfl
  unfetched := by
    intro cause failed
    rw [fetch_of_not_fetches beyond, Except.error.injEq] at failed
    rw [step_of_not_fetches beyond]
    exact ⟨failed.symm, rfl⟩
  fetched := by
    intro opcode fetched
    exact absurd (fetches_of_fetch fetched).1 beyond

theorem failsCleanly_of_advance {machine : Machine} {fault : Fault} (fetches : machine.Fetches)
    (failed : machine.step = .failed machine.advance fault)
    (raises : machine.opcode.Raises fault) : machine.FailsCleanly fault where
  unchanged := by rw [failed]; rfl
  unfetched := by
    intro cause unfetched
    rw [fetch_of_fetches fetches] at unfetched
    cases unfetched
  fetched := by
    intro opcode fetched
    obtain ⟨-, rfl⟩ := fetches_of_fetch fetched
    rw [failed]
    exact ⟨raises, toNat_next_of_fetches fetches⟩

/-- A failing step leaves all of the machine as it was, the program counter apart. That one stays
if the opcode could not be fetched, and is two further on if the opcode then turned out unknown or
could not be carried out. -/
theorem step_fault_atomic {machine : Machine} {fault : Fault}
    (failed : machine.step.fault? = some fault) : machine.FailsCleanly fault := by
  cases failsAt_of_step failed with
  | fetching beyond same =>
      rw [← same]
      exact failsCleanly_of_beyond beyond
  | reading fetches unreadable =>
      obtain ⟨-, rfl⟩ := decode_eq_error_iff.mp unreadable
      exact failsCleanly_of_advance fetches (step_of_decode_error fetches unreadable)
        (.unknown unreadable)
  | executing instruction fetches decoded hindered =>
      exact failsCleanly_of_advance fetches (step_of_hindrance fetches decoded hindered)
        (raises_of_hindrance decoded hindered)

/-- A sprite behind the end of memory. -/
theorem step_fault_atomic_draw :
    let machine := { blank (.ofStream fun _ => 0) with
      memory := Vector.replicate Memory.size 0xD1
      index := 0x1000 }
    machine.step.fault? = some (.outsideMemory 4096) ∧
      machine.FailsCleanly (.outsideMemory 4096) :=
  ⟨by decide +kernel, step_fault_atomic (by decide +kernel)⟩

end Machine

end Chip8
