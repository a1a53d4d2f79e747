import Chip8.Journal
import Chip8.Proofs.Stepping

/-!
# What the journal tells

An action that is reported as ignored has moved the program counter at most. A
run reports one opcode for each reading while it goes on, and its end in the
last line and nowhere else; so there is an error in the journal of a run just
when the run has failed.
-/

namespace Chip8

namespace Event

/-- The events of what was asked for and not done. -/
def isIgnored : Event → Bool
  | .routineIgnored _ | .pressIgnored _ | .releaseIgnored _ => true
  | _ => false

def isFetched : Event → Bool
  | .fetched _ _ => true
  | _ => false

/-- The events by which a runner reports its end. -/
def isEnd : Event → Bool
  | .runnerStopped _ | .runnerAborted _ _ => true
  | _ => false

theorem isEnd_of_error {event : Event} (error : event.level = .error) : event.isEnd = true := by
  cases event with
  | runnerAborted address fault => rfl
  | _ => cases error

end Event

namespace Machine

variable {machine : Machine} {action : Action} {event : Event}

theorem stepEvents_of_fetches (fetches : machine.Fetches) : ∃ rest,
    machine.stepEvents = .fetched machine.programCounter machine.opcode :: rest ∧
      ∀ event ∈ rest, ∃ address, event = .routineIgnored address ∧
        Instruction.decode machine.opcode = .ok (.nativeRoutine address) := by
  refine ⟨_, by rw [stepEvents, fetch_of_fetches fetches], ?_⟩
  intro event reported
  split at reported
  · next address decoded =>
      obtain rfl := List.mem_singleton.mp reported
      exact ⟨address, rfl, decoded⟩
  · cases reported

theorem stepEvents_of_not_fetches (beyond : ¬ machine.Fetches) : machine.stepEvents = [] := by
  rw [stepEvents, fetch_of_not_fetches beyond]

theorem fetches_of_reported (reported : event ∈ machine.stepEvents) : machine.Fetches := by
  by_contra beyond
  rw [stepEvents_of_not_fetches beyond] at reported
  cases reported

theorem isEnd_of_stepEvents (reported : event ∈ machine.stepEvents) : event.isEnd = false := by
  obtain ⟨rest, events, routine⟩ := stepEvents_of_fetches (fetches_of_reported reported)
  rw [events] at reported
  rcases List.mem_cons.mp reported with rfl | later
  · rfl
  · obtain ⟨address, rfl, -⟩ := routine event later
    rfl

theorem countP_stepEvents (fetches : machine.Fetches) :
    machine.stepEvents.countP Event.isFetched = 1 := by
  obtain ⟨rest, events, routine⟩ := stepEvents_of_fetches fetches
  have others : rest.countP Event.isFetched = 0 := by
    apply List.countP_eq_zero.mpr
    intro event later
    obtain ⟨address, rfl, -⟩ := routine event later
    exact Bool.false_ne_true
  rw [events, List.countP_cons_of_pos rfl, others]

/-- A key that is ignored changes nothing, and a routine that is ignored is passed by. -/
theorem perform_of_ignored (reported : event ∈ machine.events action)
    (ignored : event.isIgnored = true) :
    machine.perform action = machine ∨ machine.perform action = machine.advance := by
  cases action with
  | step =>
      have fetches := fetches_of_reported reported
      obtain ⟨rest, events, routine⟩ := stepEvents_of_fetches fetches
      rw [Machine.events, events] at reported
      rcases List.mem_cons.mp reported with rfl | later
      · cases ignored
      · obtain ⟨address, -, decoded⟩ := routine event later
        refine .inr ?_
        rw [perform_step, step_of_decode fetches decoded]
        rfl
  | tick => cases reported
  | press key =>
      rw [Machine.events] at reported
      split at reported
      · cases reported
      · next absent =>
          refine .inl ?_
          rw [perform, press, Keypad.press_of_le (Nat.le_of_not_lt (mt decide_eq_true absent))]
  | release key =>
      rw [Machine.events] at reported
      split at reported
      · cases reported
      · next absent =>
          refine .inl ?_
          rw [perform, release, Keypad.release_of_le (Nat.le_of_not_lt (mt decide_eq_true absent))]
  | load rom =>
      rw [Machine.events, loadEvents] at reported
      split at reported
      · cases reported
      · obtain rfl := List.mem_singleton.mp reported
        cases ignored

end Machine

namespace Runner

variable {runner ended next : Runner} {reading : Reading} {readings : List Reading} {event : Event}
  {address : Address} {fault : Fault} {progress : Progress}

theorem countEvents_eq_batchDone {elapsed : Nanoseconds}
    (reported : event ∈ runner.countEvents elapsed) :
    ∃ size pause, event = .batchDone size pause := by
  unfold countEvents at reported
  split at reported
  · cases reported
  · exact ⟨_, _, List.mem_singleton.mp reported⟩

theorem isEnd_of_turnEvents (reported : event ∈ runner.turnEvents reading) :
    event.isEnd = false := by
  unfold turnEvents at reported
  split at reported
  · cases reported
  · rcases List.mem_append.mp reported with stepped | counted
    · exact Machine.isEnd_of_stepEvents stepped
    · split at counted
      · cases counted
      · obtain ⟨size, pause, rfl⟩ := countEvents_eq_batchDone counted
        rfl

theorem countP_turnEvents (onward : runner.turn reading = (next, .running)) :
    (runner.turnEvents reading).countP Event.isFetched = 1 := by
  obtain ⟨stop, elapsed⟩ := reading
  cases stop with
  | true => cases onward
  | false =>
      cases failed : runner.machine.step.fault? with
      | some fault =>
          rw [turn_of_fault failed] at onward
          cases onward
      | none =>
          have fetches : runner.machine.Fetches := by
            by_contra beyond
            rw [Machine.step_of_not_fetches beyond] at failed
            cases failed
          have others : (runner.countEvents elapsed).countP Event.isFetched = 0 := by
            apply List.countP_eq_zero.mpr
            intro event counted
            obtain ⟨size, pause, rfl⟩ := countEvents_eq_batchDone counted
            exact Bool.false_ne_true
          have events : runner.turnEvents ⟨false, elapsed⟩ =
              runner.machine.stepEvents ++ runner.countEvents elapsed := by
            rw [turnEvents, failed]
            rfl
          rw [events, List.countP_append, Machine.countP_stepEvents fetches, others]

/-- What a run reports is what its turns report, none of which is an end, and then its own end. -/
theorem exists_runEvents_eq (runner : Runner) (readings : List Reading) : ∃ turns,
    (∀ event ∈ turns, event.isEnd = false) ∧
      runner.runEvents readings =
        turns ++ (runner.run readings).1.endEvents (runner.run readings).2 := by
  induction readings generalizing runner with
  | nil => exact ⟨[], fun event none => absurd none List.not_mem_nil, rfl⟩
  | cons reading rest ih =>
      have quiet : ∀ event ∈ runner.turnEvents reading, event.isEnd = false :=
        fun event reported => isEnd_of_turnEvents reported
      rw [runEvents, run]
      obtain ⟨next, progress⟩ := runner.turn reading
      cases progress with
      | running =>
          obtain ⟨turns, later, events⟩ := ih next
          refine ⟨runner.turnEvents reading ++ turns, ?_, ?_⟩
          · intro event reported
            exact (List.mem_append.mp reported).elim (quiet event) (later event)
          · rw [List.append_assoc, ← events]
      | stopped => exact ⟨_, quiet, rfl⟩
      | failed fault => exact ⟨_, quiet, rfl⟩

theorem mem_runEvents_iff (ends : event.isEnd = true) :
    event ∈ runner.runEvents readings ↔
      event ∈ (runner.run readings).1.endEvents (runner.run readings).2 := by
  obtain ⟨turns, quiet, events⟩ := exists_runEvents_eq runner readings
  rw [events, List.mem_append]
  refine or_iff_right fun early => ?_
  rw [quiet event early] at ends
  cases ends

theorem stopped_mem_endEvents_iff : .runnerStopped address ∈ ended.endEvents progress ↔
    progress = .stopped ∧ ended.machine.programCounter = address := by
  cases progress <;> simp [endEvents, eq_comm]

theorem aborted_mem_endEvents_iff : .runnerAborted address fault ∈ ended.endEvents progress ↔
    progress = .failed fault ∧ ended.machine.programCounter = address := by
  cases progress <;> simp [endEvents, eq_comm, and_comm]

/-- The journal of a run tells how the run has ended, and where. -/
theorem runEvents_tell_end (runner : Runner) (readings : List Reading) :
    (∀ address, .runnerStopped address ∈ runner.runEvents readings ↔
        (runner.run readings).2 = .stopped ∧
          (runner.run readings).1.machine.programCounter = address) ∧
      (∀ address fault, .runnerAborted address fault ∈ runner.runEvents readings ↔
        (runner.run readings).2 = .failed fault ∧
          (runner.run readings).1.machine.programCounter = address) ∧
      ((∃ event ∈ runner.runEvents readings, event.level = .error) ↔
        ∃ fault, (runner.run readings).2 = .failed fault) := by
  refine ⟨fun address => ?_, fun address fault => ?_, ?_⟩
  · rw [mem_runEvents_iff rfl, stopped_mem_endEvents_iff]
  · rw [mem_runEvents_iff rfl, aborted_mem_endEvents_iff]
  · constructor
    · rintro ⟨event, reported, error⟩
      have atEnd := (mem_runEvents_iff (Event.isEnd_of_error error)).mp reported
      cases event with
      | runnerAborted address fault => exact ⟨fault, (aborted_mem_endEvents_iff.mp atEnd).1⟩
      | _ => cases error
    · rintro ⟨fault, failed⟩
      refine ⟨_, (mem_runEvents_iff rfl).mpr (aborted_mem_endEvents_iff.mpr ⟨failed, rfl⟩), rfl⟩

/-- While a run goes on, it reports one opcode for each reading. -/
theorem countP_runEvents (onward : (runner.run readings).2 = .running) :
    (runner.runEvents readings).countP Event.isFetched = readings.length := by
  induction readings generalizing runner with
  | nil => rfl
  | cons reading rest ih =>
      rw [run] at onward
      rw [runEvents, List.countP_append, List.length_cons, Nat.add_comm]
      cases turned : runner.turn reading with
      | mk next progress =>
          rw [turned] at onward
          cases progress with
          | running => rw [countP_turnEvents turned, ih onward]
          | stopped => cases onward
          | failed fault => cases onward

end Runner

end Chip8
