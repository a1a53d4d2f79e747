import Chip8.Proofs.Checked.Durations

/-!
# The budget of a second

What a batch is to sleep and what it was busy before add up to a second, as
long as it was not busy for longer. Only the division into single pauses rounds
down, and what it loses does not add up over the batches: of all that was
measured, the pauses depend on the last batch alone, and on this one only by
the time it was busy.
-/

namespace Chip8

namespace Pace

variable {pace other : Pace} {elapsed longer : Nanoseconds}

/-- The pace after batches that took these times. -/
def after (speed : UInt32) (measured : List Nanoseconds) : Pace :=
  measured.foldl adjust (ofSpeed speed)

/-! ## One batch -/

/-- The next pauses fit into what the busy time leaves of a second. -/
theorem pauses_le (pace : Pace) (elapsed : Nanoseconds) :
    (pace.adjust elapsed).pause * pace.batchSize ≤ oneSecond - pace.busy elapsed :=
  Nat.div_mul_le_self _ _

/-- With one more nanosecond each they would not. -/
theorem spare_lt (pos : 0 < pace.batchSize) (elapsed : Nanoseconds) :
    oneSecond - pace.busy elapsed <
      (pace.adjust elapsed).pause * pace.batchSize + pace.batchSize :=
  Nat.lt_div_mul_add pos

theorem pause_of_late (late : oneSecond < pace.busy elapsed) : (pace.adjust elapsed).pause = 0 := by
  rw [adjust, Nat.sub_eq_zero_of_le (Nat.le_of_lt late), Nat.zero_div]

/-- A batch that sleeps as long as it was to sleep is busy for the rest. -/
theorem busy_asked_add (pace : Pace) (busy : Nanoseconds) :
    pace.busy (pace.pause * pace.batchSize + busy) = busy :=
  Nat.add_sub_cancel_left _ _

theorem busy_le_busy (le : elapsed ≤ longer) : pace.busy elapsed ≤ pace.busy longer :=
  Nat.sub_le_sub_right le _

/-- The next pauses are the same for all paces that have been busy for the same time. -/
theorem pause_eq_of_busy {measured : Nanoseconds} (size : other.batchSize = pace.batchSize)
    (busy : other.busy measured = pace.busy elapsed) :
    (other.adjust measured).pause = (pace.adjust elapsed).pause := by
  rw [adjust, adjust, size, busy]

theorem pause_le_of_le (le : elapsed ≤ longer) :
    (pace.adjust longer).pause ≤ (pace.adjust elapsed).pause :=
  Nat.div_le_div_right (Nat.sub_le_sub_left (busy_le_busy le) _)

/-! ## Batch after batch -/

/-- The pauses of a batch fit into a second. -/
structure Fits (pace : Pace) : Prop where
  pos : 0 < pace.batchSize
  asked_le : pace.pause * pace.batchSize ≤ oneSecond

theorem fits_ofSpeed (speed : UInt32) : (ofSpeed speed).Fits where
  pos := batchSize_pos speed
  asked_le := by
    rw [ofSpeed, Nat.zero_mul]
    exact Nat.zero_le _

theorem Fits.adjust (fits : pace.Fits) (elapsed : Nanoseconds) : (pace.adjust elapsed).Fits where
  pos := fits.pos
  asked_le := Nat.le_trans (pace.pauses_le elapsed) (Nat.sub_le _ _)

theorem Fits.foldl_adjust (fits : pace.Fits) (measured : List Nanoseconds) :
    (measured.foldl Pace.adjust pace).Fits := by
  induction measured generalizing pace with
  | nil => exact fits
  | cons elapsed rest ih => exact ih (fits.adjust elapsed)

theorem batchSize_foldl_adjust (pace : Pace) (measured : List Nanoseconds) :
    (measured.foldl adjust pace).batchSize = pace.batchSize := by
  induction measured generalizing pace with
  | nil => rfl
  | cons elapsed rest ih => exact ih (pace.adjust elapsed)

theorem fits_after (speed : UInt32) (measured : List Nanoseconds) : (after speed measured).Fits :=
  (fits_ofSpeed speed).foldl_adjust measured

end Pace

/-! ## On a clock -/

namespace Checked.Pacer

/-- A pacer whose pauses fit into a second takes in any durations, and comes to the same pace. -/
theorem foldlM_adjust?_eq {pacer : Pacer} (fits : pacer.pace.Fits) (durations : List Duration) :
    ∃ last, durations.foldlM adjust? pacer = some last ∧
      last.pace = (durations.map Duration.total).foldl Pace.adjust pacer.pace := by
  induction durations generalizing pacer with
  | nil => exact ⟨pacer, rfl, rfl⟩
  | cons elapsed rest ih =>
      obtain ⟨next, passes, same⟩ := adjust?_eq fits.pos fits.asked_le elapsed
      obtain ⟨last, passes', same'⟩ := ih (same ▸ fits.adjust elapsed.total)
      refine ⟨last, ?_, ?_⟩
      · rw [List.foldlM_cons, bind_of_passes passes, passes']
      · rw [same', same, List.map_cons, List.foldl_cons]

end Checked.Pacer

namespace Pace

/-- What a measurement makes of the pace that the earlier ones have led to. -/
structure KeepsBudget (speed : UInt32) (measured : List Nanoseconds) (elapsed : Nanoseconds)
    (pace next : Pace) : Prop where
  batchSize : pace.batchSize = max speed.toNat 1 ∧ next.batchSize = pace.batchSize
  /-- Busy for no more than a second, a batch is left the rest of it, up to the rounding. -/
  fills : pace.busy elapsed ≤ oneSecond →
    next.pause * pace.batchSize + pace.busy elapsed ≤ oneSecond ∧
      oneSecond < next.pause * pace.batchSize + pace.busy elapsed + pace.batchSize
  late : oneSecond < pace.busy elapsed → next.pause = 0
  /-- Any other pace that is busy for the same time is followed by the same pauses. -/
  driftless : ∀ other : Pace, other.batchSize = pace.batchSize →
    (other.adjust (other.pause * other.batchSize + pace.busy elapsed)).pause = next.pause
  antitone : ∀ longer, elapsed ≤ longer → (pace.adjust longer).pause ≤ next.pause
  /-- A clock that counts seconds and nanoseconds measures the same. -/
  clocked : ∀ durations : List Checked.Duration,
    durations.map Checked.Duration.total = measured ++ [elapsed] →
      ∃ pacer, durations.foldlM Checked.Pacer.adjust? (.ofSpeed speed) = some pacer ∧
        pacer.pace = next

/-- At every speed and after all measurements, the budget of a second is kept. -/
theorem keeps_budget (speed : UInt32) (measured : List Nanoseconds) (elapsed : Nanoseconds) :
    KeepsBudget speed measured elapsed (after speed measured)
      (after speed (measured ++ [elapsed])) := by
  have fits := fits_after speed measured
  have next : after speed (measured ++ [elapsed]) = (after speed measured).adjust elapsed :=
    List.foldl_append
  constructor
  case batchSize =>
    rw [next]
    exact ⟨batchSize_foldl_adjust _ measured, rfl⟩
  case fills =>
    intro inTime
    have lower := spare_lt fits.pos elapsed
    rw [next]
    constructor
    · exact Nat.add_le_of_le_sub inTime (pauses_le _ elapsed)
    · rw [Nat.add_right_comm]
      exact (Nat.sub_lt_iff_lt_add inTime).mp lower
  case late =>
    rw [next]
    exact pause_of_late
  case driftless =>
    intro other size
    rw [next]
    exact pause_eq_of_busy size (other.busy_asked_add _)
  case antitone =>
    intro longer le
    rw [next]
    exact pause_le_of_le le
  case clocked =>
    intro durations total
    have start := Checked.Pacer.pace_ofSpeed speed
    obtain ⟨pacer, passes, same⟩ := Checked.Pacer.foldlM_adjust?_eq
      (start ▸ fits_ofSpeed speed) durations
    exact ⟨pacer, passes, by rw [same, start, total, after]⟩

/-- A tenth of a second more than the pauses asked for leaves nine tenths to the next ones. -/
example : (after 500 [500000000, 600000000]).pause = 900000000 / 500 := by decide

end Pace

end Chip8
