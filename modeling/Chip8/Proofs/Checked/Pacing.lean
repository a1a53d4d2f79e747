import Chip8.Proofs.Budget
import Chip8.Runner

/-!
# Pacing without overflow

The pauses of a batch are multiplied by the size of the batch without a check
whether the product fits. It always does: each adjustment leaves pauses that
fit into a second all together, whatever was measured before. A runner comes to
no other pauses than these.
-/

namespace Chip8

namespace Checked.Pacer

variable {pacer next : Pacer} {elapsed : Duration}

theorem batchSize_adjust? (adjusted : pacer.adjust? elapsed = some next) :
    next.batchSize = pacer.batchSize := by
  unfold adjust? at adjusted
  obtain ⟨asked, -, rest⟩ := Option.bind_eq_some_iff.mp adjusted
  split at rest
  · obtain rfl := Option.some.inj rest
    rfl
  · obtain ⟨pause, -, rest⟩ := Option.bind_eq_some_iff.mp rest
    obtain rfl := Option.some.inj rest
    rfl

theorem batchSize_foldlM_adjust? (durations : List Duration)
    (adjusted : durations.foldlM adjust? pacer = some next) : next.batchSize = pacer.batchSize := by
  induction durations generalizing pacer with
  | nil =>
      obtain rfl := Option.some.inj adjusted
      rfl
  | cons elapsed rest ih =>
      rw [List.foldlM_cons] at adjusted
      obtain ⟨middle, first, later⟩ := Option.bind_eq_some_iff.mp adjusted
      rw [ih later, batchSize_adjust? first]

/-- What a pacer keeps to, and the operations of its next adjustment, none of which goes wrong. -/
structure Safe (speed : UInt32) (pacer : Pacer) : Prop where
  batchSize : pacer.batchSize = max speed 1
  pos : 0 < pacer.batchSize.toNat
  asked_le : pacer.pause.total * pacer.batchSize.toNat ≤ oneSecond
  pause_le : pacer.pause.total ≤ oneSecond
  product : ∃ asked, pacer.pause.times? pacer.batchSize = some asked ∧
    asked.total = pacer.pause.total * pacer.batchSize.toNat
  quotient : ∀ spare : Duration, ∃ pause, spare.dividedBy? pacer.batchSize = some pause ∧
    pause.total = spare.total / pacer.batchSize.toNat
  adjusts : ∀ elapsed, ∃ next, pacer.adjust? elapsed = some next

/-- All that can go wrong is kept from going wrong by pauses that fit into a second. -/
theorem safe_of_fits {speed : UInt32} (size : pacer.batchSize = max speed 1)
    (fits : pacer.pace.Fits) : pacer.Safe speed where
  batchSize := size
  pos := fits.pos
  asked_le := fits.asked_le
  pause_le := Nat.le_trans (Nat.le_mul_of_pos_right _ fits.pos) fits.asked_le
  product := by
    have le : pacer.pause.total * pacer.batchSize.toNat ≤ Duration.second.total := by
      rw [Duration.total_second]
      exact fits.asked_le
    rw [Duration.times?_eq]
    exact Duration.ofTotal?_of_le le
  quotient := by
    intro spare
    rw [Duration.dividedBy?_eq spare fits.pos]
    exact Duration.ofTotal?_of_le (Nat.div_le_self _ _)
  adjusts := by
    intro elapsed
    obtain ⟨next, passes, -⟩ := adjust?_eq fits.pos fits.asked_le elapsed
    exact ⟨next, passes⟩

end Checked.Pacer

/-! ## The pace of a runner -/

namespace Runner

/-- What a runner reads off a flag and a clock. -/
def clocked (stop : Bool) (elapsed : Checked.Duration) : Reading := ⟨stop, elapsed.total⟩

/-- A turn changes the pace at most at the end of a batch, by the time that the batch has taken. -/
theorem pace_turn (runner : Runner) (reading : Reading) :
    (runner.turn reading).1.pace = runner.pace ∨
      (runner.turn reading).1.pace = runner.pace.adjust reading.elapsed := by
  unfold turn
  split
  · exact .inl rfl
  · dsimp only
    split
    · exact .inl rfl
    · unfold count
      split
      · exact .inl rfl
      · exact .inr rfl

/-- The pace of a run is that of some of the times that it has read, in their order. -/
theorem pace_run (runner : Runner) (readings : List (Bool × Checked.Duration)) :
    ∃ measured : List Checked.Duration, measured.Sublist (readings.map Prod.snd) ∧
      (runner.run (readings.map fun read => clocked read.1 read.2)).1.pace =
        (measured.map Checked.Duration.total).foldl Pace.adjust runner.pace := by
  induction readings generalizing runner with
  | nil => exact ⟨[], List.Sublist.refl _, rfl⟩
  | cons read rest ih =>
      obtain ⟨stop, elapsed⟩ := read
      have paced := runner.pace_turn (clocked stop elapsed)
      rw [List.map_cons, List.map_cons, run]
      split
      case h_1 next turned =>
        rw [turned] at paced
        obtain ⟨measured, sublist, same⟩ := ih next
        rcases paced with kept | adjusted
        · exact ⟨measured, sublist.cons _, by rw [same, ← kept]⟩
        · exact ⟨elapsed :: measured, sublist.cons_cons _, by rw [same, adjusted]; rfl⟩
      case h_2 =>
        rcases paced with kept | adjusted
        · exact ⟨[], List.nil_sublist _, kept⟩
        · exact ⟨[elapsed], (List.nil_sublist _).cons_cons _, adjusted⟩

end Runner

namespace Checked.Pacer

/-- At every speed and after all measurements, a pacer can take in every further one, and the pace
of a run is that of a pacer which has taken in some of the times that the run has read. -/
theorem never_overflows (speed : UInt32) :
    (∀ durations : List Duration, ∃ pacer, durations.foldlM adjust? (ofSpeed speed) = some pacer ∧
      pacer.pace = Pace.after speed (durations.map Duration.total) ∧ pacer.Safe speed) ∧
    ∀ (machine : Machine) (readings : List (Bool × Duration)),
      ∃ measured : List Duration, measured.Sublist (readings.map Prod.snd) ∧
        ((Runner.start machine speed).run
          (readings.map fun read => Runner.clocked read.1 read.2)).1.pace =
          Pace.after speed (measured.map Duration.total) := by
  constructor
  · intro durations
    have start := pace_ofSpeed speed
    obtain ⟨pacer, passes, same⟩ := foldlM_adjust?_eq (start ▸ Pace.fits_ofSpeed speed) durations
    have after : pacer.pace = Pace.after speed (durations.map Duration.total) := by
      rw [same, start]
      rfl
    have fits : pacer.pace.Fits := after ▸ Pace.fits_after speed _
    exact ⟨pacer, passes, after, safe_of_fits (batchSize_foldlM_adjust? durations passes) fits⟩
  · intro machine readings
    exact (Runner.start machine speed).pace_run readings

end Checked.Pacer

end Chip8
