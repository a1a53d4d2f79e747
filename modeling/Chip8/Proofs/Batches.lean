import Chip8.Machine.History
import Chip8.Runner

/-!
# Batches of steps

A runner steps its machine in batches, at a pace that it takes from the time
the batches need. None of this reaches the machine: a run comes to what the
plain loop comes to, which steps the machine until the stop flag is up or a
step fails.
-/

namespace Chip8

namespace Machine

/-- The plain loop: reads the flag before each step and ends with the first step that fails. -/
def runPlainly (machine : Machine) : List Bool → Machine × Progress
  | [] => (machine, .running)
  | true :: _ => (machine, .stopped)
  | false :: flags =>
      match machine.step.fault? with
      | some fault => (machine.step.machine, .failed fault)
      | none => machine.step.machine.runPlainly flags

variable {machine : Machine} {flags : List Bool}

theorem runPlainly_of_fault {fault : Fault} (failed : machine.step.fault? = some fault) :
    machine.runPlainly (false :: flags) = (machine.step.machine, .failed fault) := by
  rw [runPlainly, failed]

theorem runPlainly_of_done (done : machine.step.fault? = none) :
    machine.runPlainly (false :: flags) = machine.step.machine.runPlainly flags := by
  rw [runPlainly, done]

/-- The plain loop takes its steps one by one, as long as they succeed. -/
theorem runPlainly_append (count : Nat)
    (done : ∀ j < count, (machine.after j).step.fault? = none) :
    machine.runPlainly (List.replicate count false ++ flags) =
      (machine.after count).runPlainly flags := by
  induction count generalizing machine with
  | zero => rfl
  | succ count ih =>
      have first : machine.step.fault? = none := done 0 (Nat.succ_pos count)
      rw [List.replicate_succ, List.cons_append, runPlainly_of_done first]
      apply ih
      intro j inside
      exact done (j + 1) (Nat.succ_lt_succ inside)

/-- A loop that has been stopped goes on as if it had not been. -/
theorem runPlainly_resume {count : Nat} {rest : List Bool} {stopped : Machine}
    (ended : machine.runPlainly (List.replicate count false ++ true :: rest) = (stopped, .stopped)) :
    machine.runPlainly (List.replicate count false ++ flags) = stopped.runPlainly flags := by
  induction count generalizing machine with
  | zero =>
      have same : machine = stopped := congrArg Prod.fst ended
      rw [same]
      rfl
  | succ count ih =>
      rw [List.replicate_succ, List.cons_append] at ended ⊢
      cases outcome : machine.step.fault? with
      | none =>
          rw [runPlainly_of_done outcome] at ended ⊢
          exact ih ended
      | some fault =>
          rw [runPlainly_of_fault outcome] at ended
          cases ended

/-- Flags behind the first one that is up are not read. -/
theorem runPlainly_unread (machine : Machine) (count : Nat) (rest rest' : List Bool) :
    machine.runPlainly (List.replicate count false ++ true :: rest) =
      machine.runPlainly (List.replicate count false ++ true :: rest') := by
  induction count generalizing machine with
  | zero => rfl
  | succ count ih =>
      rw [List.replicate_succ, List.cons_append, List.cons_append]
      cases outcome : machine.step.fault? with
      | none =>
          rw [runPlainly_of_done outcome, runPlainly_of_done outcome]
          exact ih _
      | some fault => rw [runPlainly_of_fault outcome, runPlainly_of_fault outcome]

end Machine

/-! ## Runners -/

namespace Runner

/-- Whatever its pace and its place in the batch, a runner does what the plain loop does. -/
theorem run_eq_plain (runner : Runner) (readings : List Reading) :
    ((runner.run readings).1.machine, (runner.run readings).2) =
      runner.machine.runPlainly (readings.map Reading.stop) := by
  induction readings generalizing runner with
  | nil => rfl
  | cons reading rest ih =>
      obtain ⟨stop, elapsed⟩ := reading
      cases stop with
      | true => rfl
      | false =>
          rw [List.map_cons]
          cases outcome : runner.machine.step.fault? with
          | some fault => rw [run_of_fault outcome, Machine.runPlainly_of_fault outcome]
          | none =>
              rw [run, turn_of_done outcome, Machine.runPlainly_of_done outcome]
              refine (ih _).trans ?_
              unfold count
              split <;> rfl

/-- A run that has ended takes no notice of further readings. -/
theorem run_append_of_ended {runner : Runner} {first : List Reading}
    (ended : (runner.run first).2 ≠ .running) (second : List Reading) :
    runner.run (first ++ second) = runner.run first := by
  induction first generalizing runner with
  | nil => exact absurd rfl ended
  | cons reading rest ih =>
      rw [List.cons_append, run, run] at *
      split
      · next next turned =>
          rw [turned] at ended
          exact ih ended
      · rfl

/-! ## Nested batches -/

/-- How a batch ends: it is done and leaves flags that it has not read, or the run is over. -/
inductive BatchEnd where
  | done (machine : Machine) (flags : List Bool)
  | ended (machine : Machine) (progress : Progress)

/-- The rest of a batch, `count` instructions long. -/
def batch : (count : Nat) → Machine → List Bool → BatchEnd
  | 0, machine, flags => .done machine flags
  | _ + 1, machine, [] => .ended machine .running
  | _ + 1, machine, true :: _ => .ended machine .stopped
  | count + 1, machine, false :: flags =>
      match machine.step.fault? with
      | some fault => .ended machine.step.machine (.failed fault)
      | none => batch count machine.step.machine flags

/-- Batch after batch, each at the pace that the duration of the one before gives. A batch without
instructions would be repeated forever; it ends the run here. -/
def batches (pace : Pace) (machine : Machine) (flags : List Bool)
    (durations : Nat → Nanoseconds) : Machine × Progress :=
  match batch pace.batchSize machine flags with
  | .ended machine progress => (machine, progress)
  | .done machine rest =>
      if rest.length < flags.length then
        batches (pace.adjust (durations 0)) machine rest fun number => durations (number + 1)
      else (machine, .running)
termination_by flags.length

theorem batch_plain (count : Nat) (machine : Machine) (flags : List Bool) :
    machine.runPlainly flags =
      match batch count machine flags with
      | .ended machine progress => (machine, progress)
      | .done machine rest => machine.runPlainly rest := by
  induction count generalizing machine flags with
  | zero => rfl
  | succ count ih =>
      cases flags with
      | nil => rfl
      | cons flag flags =>
          cases flag with
          | true => rfl
          | false =>
              cases outcome : machine.step.fault? with
              | some fault => simp only [batch, Machine.runPlainly, outcome]
              | none =>
                  simp only [batch, Machine.runPlainly, outcome]
                  exact ih _ _

theorem length_of_batch_done {count : Nat} {machine next : Machine} {flags rest : List Bool}
    (done : batch count machine flags = .done next rest) : rest.length + count = flags.length := by
  induction count generalizing machine flags with
  | zero =>
      cases done
      rfl
  | succ count ih =>
      cases flags with
      | nil => cases done
      | cons flag flags =>
          cases flag with
          | true => cases done
          | false =>
              cases outcome : machine.step.fault? with
              | some fault =>
                  simp only [batch, outcome] at done
                  cases done
              | none =>
                  simp only [batch, outcome] at done
                  rw [List.length_cons, ← ih done, Nat.add_assoc]

/-- The nested loops come to what the plain loop comes to. -/
theorem batches_eq_plain (pace : Pace) (positive : 0 < pace.batchSize) (machine : Machine)
    (flags : List Bool) (durations : Nat → Nanoseconds) :
    batches pace machine flags durations = machine.runPlainly flags := by
  induction pace, machine, flags, durations using batches.induct with
  | case1 pace machine flags durations next progress finished =>
      rw [batches, batch_plain pace.batchSize, finished]
  | case2 pace machine flags durations next rest done shorter ih =>
      rw [batches, batch_plain pace.batchSize machine, done]
      dsimp only
      rw [if_pos shorter]
      exact ih positive
  | case3 pace machine flags durations next rest done stuck =>
      have length := length_of_batch_done done
      omega

end Runner

/-! ## What a run comes to -/

/-- The machine that a run at a speed leaves behind, and how far it came. -/
def Machine.runAt (machine : Machine) (speed : UInt32) (readings : List Reading) :
    Machine × Progress :=
  let ended := (Runner.start machine speed).run readings
  (ended.1.machine, ended.2)

namespace Machine

variable {machine : Machine} {speed : UInt32} {readings : List Reading} {k : Nat}

theorem runAt_eq_plain (machine : Machine) (speed : UInt32) (readings : List Reading) :
    machine.runAt speed readings = machine.runPlainly (readings.map Reading.stop) :=
  (Runner.start machine speed).run_eq_plain readings

/-- The flags up to the first one that is up. -/
theorem flags_of_findIdx? (raised : readings.findIdx? Reading.stop = some k) :
    ∃ rest, readings.map Reading.stop = List.replicate k false ++ true :: rest := by
  induction readings generalizing k with
  | nil => cases raised
  | cons reading later ih =>
      rw [List.findIdx?_cons] at raised
      cases stop : reading.stop with
      | true =>
          rw [stop, if_pos rfl] at raised
          cases raised
          exact ⟨later.map Reading.stop, by rw [List.map_cons, stop]; rfl⟩
      | false =>
          rw [stop, if_neg Bool.false_ne_true] at raised
          obtain ⟨count, found, rfl⟩ := Option.map_eq_some_iff.mp raised
          obtain ⟨rest, flags⟩ := ih found
          exact ⟨rest, by rw [List.map_cons, stop, flags]; rfl⟩

/-- What a run comes to whose stop flag is up at reading `k` and not before. -/
structure RunsPlainly (machine : Machine) (speed : UInt32) (readings : List Reading) (k : Nat) :
    Prop where
  /-- If `k` steps succeed, these are the steps that are taken. -/
  succeeds : (∀ j < k, (machine.after j).step.fault? = none) →
    machine.runAt speed readings = (machine.after k, .stopped)
  /-- Otherwise the run ends with the first step that fails, at the reading of that step. -/
  fails : ∀ j < k, ∀ fault, (∀ i < j, (machine.after i).step.fault? = none) →
    (machine.after j).step.fault? = some fault →
      machine.runAt speed readings = (machine.after (j + 1), .failed fault) ∧
        (Runner.start machine speed).run readings =
          (Runner.start machine speed).run (readings.take (j + 1))
  /-- Nested batches come to the same, whatever time each of them takes. -/
  batched : ∀ durations,
    Runner.batches (Pace.ofSpeed speed) machine (readings.map Reading.stop) durations =
      machine.runAt speed readings
  /-- Neither the speed nor any measured time has an influence. -/
  paceless : ∀ speed' readings', readings'.findIdx? Reading.stop = some k →
    machine.runAt speed' readings' = machine.runAt speed readings
  /-- A run that was stopped can be taken up again, at any speed. -/
  resumes : ∀ stopped, machine.runAt speed readings = (stopped, .stopped) →
    ∀ later speed₂ speed₃ readings₂ readings₃, readings₂.findIdx? Reading.stop = some later →
      readings₃.findIdx? Reading.stop = some (k + later) →
        stopped.runAt speed₂ readings₂ = machine.runAt speed₃ readings₃

/-- Up to the first step that fails a run takes the steps of the plain loop; there it ends. -/
theorem runAt_of_fault {rest : List Bool} {j : Nat} {fault : Fault}
    (flags : readings.map Reading.stop = List.replicate j false ++ false :: rest)
    (before : ∀ i < j, (machine.after i).step.fault? = none)
    (failed : (machine.after j).step.fault? = some fault) :
    machine.runAt speed readings = (machine.after (j + 1), .failed fault) := by
  rw [runAt_eq_plain, flags, runPlainly_append j before, runPlainly_of_fault failed, after_succ]

/-- A runner whose flag is first up at some reading takes the steps before it, as the plain loop
does, up to the first one that fails. -/
theorem run_refines_steps (raised : readings.findIdx? Reading.stop = some k) :
    machine.RunsPlainly speed readings k := by
  obtain ⟨rest, flags⟩ := flags_of_findIdx? raised
  constructor
  case succeeds =>
    intro done
    rw [runAt_eq_plain, flags, runPlainly_append k done]
    rfl
  case fails =>
    intro j inside fault before failed
    obtain ⟨more, rfl⟩ : ∃ more, k = j + 1 + more := ⟨k - (j + 1), by omega⟩
    rw [Nat.add_assoc, Nat.add_comm 1, ← List.replicate_append_replicate, List.replicate_succ,
      List.append_assoc, List.cons_append] at flags
    have early : (readings.take (j + 1)).map Reading.stop =
        List.replicate j false ++ false :: [] := by
      rw [List.map_take, flags, List.take_append, List.length_replicate, Nat.add_sub_cancel_left,
        List.take_of_length_le (by simp)]
      rfl
    refine ⟨runAt_of_fault flags before failed, ?_⟩
    have ended : ((Runner.start machine speed).run (readings.take (j + 1))).2 ≠ .running := by
      have result : machine.runAt speed (readings.take (j + 1)) =
          (machine.after (j + 1), .failed fault) := runAt_of_fault early before failed
      have progress : ((Runner.start machine speed).run (readings.take (j + 1))).2 =
          .failed fault := congrArg Prod.snd result
      rw [progress]
      intro impossible
      cases impossible
    have unread := Runner.run_append_of_ended ended (readings.drop (j + 1))
    rw [List.take_append_drop] at unread
    exact unread
  case batched =>
    intro durations
    rw [Runner.batches_eq_plain _ (Pace.batchSize_pos speed), runAt_eq_plain]
  case paceless =>
    intro speed' readings' raised'
    obtain ⟨rest', flags'⟩ := flags_of_findIdx? raised'
    rw [runAt_eq_plain, runAt_eq_plain, flags, flags']
    exact runPlainly_unread machine k rest' rest
  case resumes =>
    intro stopped ended later speed₂ speed₃ readings₂ readings₃ raised₂ raised₃
    obtain ⟨rest₂, flags₂⟩ := flags_of_findIdx? raised₂
    obtain ⟨rest₃, flags₃⟩ := flags_of_findIdx? raised₃
    rw [runAt_eq_plain, flags] at ended
    rw [runAt_eq_plain, runAt_eq_plain, flags₂, flags₃, ← List.replicate_append_replicate,
      List.append_assoc, runPlainly_resume ended]
    exact runPlainly_unread stopped later rest₂ rest₃

/-- Five steps at two instructions a second, with the flag going up in the third batch. -/
theorem run_refines_steps_third_batch :
    let machine := blank (.ofStream fun _ => 0)
    let readings := [⟨false, 7⟩, ⟨false, 2000000000⟩, ⟨false, 0⟩, ⟨false, 1⟩, ⟨false, 3⟩, ⟨true, 0⟩]
    readings.findIdx? Reading.stop = some 5 ∧ machine.RunsPlainly 2 readings 5 :=
  ⟨by decide, run_refines_steps (by decide)⟩

end Machine

end Chip8
