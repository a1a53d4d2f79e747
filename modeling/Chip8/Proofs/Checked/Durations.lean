import Chip8.Runner
import Chip8.Proofs.Checked.Operations

/-!
# Durations

A clock counts whole seconds in 64 bits and beside them the nanoseconds below
a second. Products carry from these to the seconds, differences borrow, and
quotients pass the seconds left over down. All of them come to what plain
numbers of nanoseconds come to, as long as the seconds fit, and so does a pacer
that computes with them.
-/

namespace Chip8.Checked

structure Duration where
  seconds : Nat
  nanoseconds : Nat
  seconds_lt : seconds < 18446744073709551616
  nanoseconds_lt : nanoseconds < oneSecond
deriving DecidableEq

namespace Duration

def zero : Duration := ⟨0, 0, by decide, by decide⟩

def second : Duration := ⟨1, 0, by decide, by decide⟩

/-- All of its nanoseconds. -/
def total (duration : Duration) : Nat := duration.seconds * oneSecond + duration.nanoseconds

/-- A duration put together from seconds and nanoseconds, both of which must be in range. -/
def of? (seconds nanoseconds : Nat) : Option Duration :=
  if inRange : seconds < 18446744073709551616 ∧ nanoseconds < oneSecond then
    some ⟨seconds, nanoseconds, inRange.1, inRange.2⟩
  else none

/-- The duration of a number of nanoseconds, whose seconds must fit. -/
def ofTotal? (total : Nanoseconds) : Option Duration := of? (total / oneSecond) (total % oneSecond)

theorem oneSecond_pos : 0 < oneSecond := by decide

theorem of?_of_wide {seconds nanoseconds : Nat} (wide : 18446744073709551616 ≤ seconds) :
    of? seconds nanoseconds = none :=
  dif_neg fun inRange => Nat.not_lt.mpr wide inRange.1

theorem ofTotal?_add {seconds nanoseconds : Nat} (below : nanoseconds < oneSecond) :
    ofTotal? (seconds * oneSecond + nanoseconds) = of? seconds nanoseconds := by
  rw [ofTotal?, Nat.mul_comm, Nat.mul_add_div oneSecond_pos, Nat.div_eq_of_lt below,
    Nat.mul_add_mod, Nat.mod_eq_of_lt below, Nat.add_zero]

/-- What a duration contains is a duration. -/
theorem ofTotal?_of_le {duration : Duration} {count : Nat} (le : count ≤ duration.total) :
    ∃ part, ofTotal? count = some part ∧ part.total = count := by
  have fits : count / oneSecond < 18446744073709551616 := by
    have seconds_lt := duration.seconds_lt
    have nanoseconds_lt := duration.nanoseconds_lt
    simp only [total, oneSecond] at le nanoseconds_lt ⊢
    omega
  have below : count % oneSecond < oneSecond := Nat.mod_lt count oneSecond_pos
  refine ⟨⟨_, _, fits, below⟩, dif_pos ⟨fits, below⟩, ?_⟩
  rw [total, Nat.mul_comm]
  exact Nat.div_add_mod count oneSecond

theorem total_second : second.total = oneSecond := by decide

theorem total_zero : zero.total = 0 := by decide

/-! ## Multiples -/

/-- A multiple. What its nanoseconds come to above a second is carried. -/
def times? (duration : Duration) (factor : UInt32) : Option Duration := do
  let nanoseconds ← wide? (duration.nanoseconds * factor.toNat)
  let seconds ← wide? (duration.seconds * factor.toNat)
  let carried ← wide? (seconds + nanoseconds / oneSecond)
  of? carried (nanoseconds % oneSecond)

theorem nanoseconds_mul_lt (duration : Duration) (factor : UInt32) :
    duration.nanoseconds * factor.toNat < 18446744073709551616 := by
  have product : duration.nanoseconds * factor.toNat ≤ 1000000000 * 4294967296 :=
    Nat.mul_le_mul (Nat.le_of_lt duration.nanoseconds_lt) (Nat.le_of_lt factor.toNat_lt)
  omega

theorem total_mul (duration : Duration) (factor : Nat) :
    duration.total * factor =
      (duration.seconds * factor + duration.nanoseconds * factor / oneSecond) * oneSecond +
        duration.nanoseconds * factor % oneSecond := by
  have parts := Nat.div_add_mod (duration.nanoseconds * factor) oneSecond
  rw [Nat.mul_comm] at parts
  rw [total, Nat.add_mul, Nat.add_mul, Nat.add_assoc, parts, Nat.mul_right_comm]

theorem times?_eq (duration : Duration) (factor : UInt32) :
    duration.times? factor = ofTotal? (duration.total * factor.toNat) := by
  rw [total_mul, ofTotal?_add (Nat.mod_lt _ oneSecond_pos), times?,
    bind_of_passes (wide?_of_lt (duration.nanoseconds_mul_lt factor))]
  by_cases fits : duration.seconds * factor.toNat +
      duration.nanoseconds * factor.toNat / oneSecond < 18446744073709551616
  · rw [bind_of_passes (wide?_of_lt (Nat.lt_of_le_of_lt (Nat.le_add_right _ _) fits)),
      bind_of_passes (wide?_of_lt fits)]
  · rw [of?_of_wide (Nat.le_of_not_lt fits)]
    unfold wide?
    split
    · dsimp only [Option.bind_some, bind]
      rw [if_neg fits]
      rfl
    · rfl

/-! ## Differences -/

/-- A difference. Where the nanoseconds do not suffice, a second is borrowed. -/
def minus? (first second : Duration) : Option Duration := do
  let seconds ← difference? first.seconds second.seconds
  if second.nanoseconds ≤ first.nanoseconds then
    of? seconds (first.nanoseconds - second.nanoseconds)
  else
    let borrowed ← difference? seconds 1
    of? borrowed (first.nanoseconds + oneSecond - second.nanoseconds)

theorem minus?_of_le {first second : Duration} (le : second.total ≤ first.total) :
    first.minus? second = ofTotal? (first.total - second.total) := by
  have below := first.nanoseconds_lt
  have below' := second.nanoseconds_lt
  simp only [total, oneSecond] at le below below'
  rw [minus?, bind_of_passes (difference?_of_le (by omega))]
  by_cases enough : second.nanoseconds ≤ first.nanoseconds
  · have parts : first.total - second.total = (first.seconds - second.seconds) * oneSecond +
        (first.nanoseconds - second.nanoseconds) := by
      simp only [total, oneSecond]
      omega
    rw [if_pos enough, parts, ofTotal?_add (by rw [oneSecond]; omega)]
  · have parts : first.total - second.total = (first.seconds - second.seconds - 1) * oneSecond +
        (first.nanoseconds + oneSecond - second.nanoseconds) := by
      simp only [total, oneSecond]
      omega
    rw [if_neg enough, bind_of_passes (difference?_of_le (by omega)), parts,
      ofTotal?_add (by rw [oneSecond]; omega)]

theorem minus?_of_lt {first second : Duration} (lt : first.total < second.total) :
    first.minus? second = none := by
  have below := first.nanoseconds_lt
  have below' := second.nanoseconds_lt
  simp only [total, oneSecond] at lt below below'
  by_cases le : second.seconds ≤ first.seconds
  · have none_to_borrow : difference? (first.seconds - second.seconds) 1 = none :=
      if_neg (by omega)
    rw [minus?, bind_of_passes (difference?_of_le le), if_neg (by omega), none_to_borrow]
    rfl
  · rw [minus?, difference?, if_neg le]
    rfl

/-- A difference, or nothing where it would fall below zero. -/
def minusOrZero (first second : Duration) : Duration := (first.minus? second).getD zero

theorem total_minusOrZero (first second : Duration) :
    (first.minusOrZero second).total = first.total - second.total := by
  by_cases le : second.total ≤ first.total
  · obtain ⟨difference, passes, total⟩ := ofTotal?_of_le (Nat.sub_le first.total second.total)
    rw [minusOrZero, minus?_of_le le, passes]
    exact total
  · rw [minusOrZero, minus?_of_lt (Nat.lt_of_not_le le), Nat.sub_eq_zero_of_le (Nat.le_of_not_le le)]
    exact total_zero

/-! ## Quotients -/

/-- A quotient. The seconds left over are divided together with the nanoseconds left over. -/
def dividedBy? (duration : Duration) (divisor : UInt32) : Option Duration := do
  let seconds ← remainder? duration.seconds divisor.toNat
  let nanoseconds ← remainder? duration.nanoseconds divisor.toNat
  let rest ← wide? (seconds * oneSecond + nanoseconds)
  of? (duration.seconds / divisor.toNat)
    (duration.nanoseconds / divisor.toNat + rest / divisor.toNat)

theorem total_div (duration : Duration) {divisor : Nat} (pos : 0 < divisor) :
    duration.total / divisor = duration.seconds / divisor * oneSecond +
      (duration.seconds % divisor * oneSecond + duration.nanoseconds) / divisor := by
  have parts : duration.total = duration.seconds % divisor * oneSecond + duration.nanoseconds +
      divisor * (duration.seconds / divisor * oneSecond) := by
    rw [Nat.add_right_comm, ← Nat.mul_assoc, ← Nat.add_mul, Nat.mod_add_div]
    rfl
  rw [parts, Nat.add_mul_div_left _ _ pos, Nat.add_comm]

/-- What is left over of the seconds makes less than a second. -/
theorem rest_div_lt (duration : Duration) {divisor : Nat} (pos : 0 < divisor) :
    (duration.seconds % divisor * oneSecond + duration.nanoseconds) / divisor < oneSecond := by
  apply Nat.div_lt_of_lt_mul
  calc duration.seconds % divisor * oneSecond + duration.nanoseconds
      < duration.seconds % divisor * oneSecond + oneSecond :=
        Nat.add_lt_add_left duration.nanoseconds_lt _
    _ = (duration.seconds % divisor + 1) * oneSecond := (Nat.succ_mul _ _).symm
    _ ≤ divisor * oneSecond := Nat.mul_le_mul_right _ (Nat.mod_lt _ pos)

theorem dividedBy?_eq (duration : Duration) {divisor : UInt32} (pos : 0 < divisor.toNat) :
    duration.dividedBy? divisor = ofTotal? (duration.total / divisor.toNat) := by
  have rest_lt : duration.seconds % divisor.toNat * oneSecond +
      duration.nanoseconds % divisor.toNat < 18446744073709551616 := by
    have seconds_lt := Nat.mod_lt duration.seconds pos
    have nanoseconds_lt := Nat.mod_lt duration.nanoseconds pos
    have narrow := divisor.toNat_lt
    rw [oneSecond]
    omega
  have low : duration.nanoseconds / divisor.toNat +
      (duration.seconds % divisor.toNat * oneSecond + duration.nanoseconds % divisor.toNat) /
        divisor.toNat =
      (duration.seconds % divisor.toNat * oneSecond + duration.nanoseconds) / divisor.toNat := by
    rw [Nat.add_comm, ← Nat.add_mul_div_left _ _ pos, Nat.add_assoc, Nat.mod_add_div]
  rw [dividedBy?, bind_of_passes (remainder?_of_pos pos), bind_of_passes (remainder?_of_pos pos),
    bind_of_passes (wide?_of_lt rest_lt), low, duration.total_div pos,
    ofTotal?_add (duration.rest_div_lt pos)]

end Duration

/-! ## Pacers -/

structure Pacer where
  batchSize : UInt32
  pause : Duration
deriving DecidableEq

namespace Pacer

def ofSpeed (speed : UInt32) : Pacer := ⟨max speed 1, .zero⟩

/-- Takes in how long the last batch took. One that took less than it was to sleep counts as not
busy, and one that was busy for more than a second is followed by a batch without pauses. -/
def adjust? (pacer : Pacer) (elapsed : Duration) : Option Pacer := do
  let asked ← pacer.pause.times? pacer.batchSize
  match Duration.second.minus? (elapsed.minusOrZero asked) with
  | none => some { pacer with pause := .zero }
  | some spare =>
      let pause ← spare.dividedBy? pacer.batchSize
      some { pacer with pause }

/-- The same pace in nanoseconds. -/
def pace (pacer : Pacer) : Pace := ⟨pacer.batchSize.toNat, pacer.pause.total⟩

theorem toNat_max (first second : UInt32) :
    (max first second).toNat = max first.toNat second.toNat := by
  change (if first ≤ second then second else first).toNat = _
  split
  case isTrue le => exact (Nat.max_eq_right (UInt32.le_iff_toNat_le.mp le)).symm
  case isFalse gt =>
    have le : second.toNat ≤ first.toNat :=
      Nat.le_of_not_le fun le => gt (UInt32.le_iff_toNat_le.mpr le)
    exact (Nat.max_eq_left le).symm

theorem pace_ofSpeed (speed : UInt32) : (ofSpeed speed).pace = Pace.ofSpeed speed := by
  have size : (ofSpeed speed).batchSize.toNat = max speed.toNat 1 := toNat_max speed 1
  have none_asked : (ofSpeed speed).pause.total = 0 := Duration.total_zero
  rw [pace, size, none_asked]
  rfl

/-- Where the pauses fit into a second, a pacer comes to the pauses of its pace. -/
theorem adjust?_eq {pacer : Pacer} (pos : 0 < pacer.batchSize.toNat)
    (fits : pacer.pause.total * pacer.batchSize.toNat ≤ oneSecond) (elapsed : Duration) :
    ∃ next, pacer.adjust? elapsed = some next ∧ next.pace = pacer.pace.adjust elapsed.total := by
  rw [← Duration.total_second] at fits
  obtain ⟨asked, passes, asked_total⟩ := Duration.ofTotal?_of_le fits
  rw [← Duration.times?_eq] at passes
  have busy_total : (elapsed.minusOrZero asked).total = pacer.pace.busy elapsed.total := by
    rw [Duration.total_minusOrZero, asked_total]
    rfl
  rw [adjust?, bind_of_passes passes]
  by_cases busy_le : (elapsed.minusOrZero asked).total ≤ Duration.second.total
  · obtain ⟨spare, passes, spare_total⟩ := Duration.ofTotal?_of_le
      (Nat.sub_le Duration.second.total (elapsed.minusOrZero asked).total)
    obtain ⟨pause, passes', pause_total⟩ := Duration.ofTotal?_of_le
      (Nat.div_le_self spare.total pacer.batchSize.toNat)
    rw [← Duration.minus?_of_le busy_le] at passes
    rw [← Duration.dividedBy?_eq spare pos] at passes'
    refine ⟨{ pacer with pause := pause }, ?_, ?_⟩
    · simp only [passes, passes']
      rfl
    · rw [pace, pause_total, spare_total, busy_total, Duration.total_second]
      rfl
  · have late := Nat.lt_of_not_le busy_le
    refine ⟨{ pacer with pause := .zero }, ?_, ?_⟩
    · simp only [Duration.minus?_of_lt late]
    · rw [busy_total, Duration.total_second] at late
      rw [pace, Duration.total_zero, Pace.adjust, Nat.sub_eq_zero_of_le (Nat.le_of_lt late),
        Nat.zero_div]
      rfl

end Pacer

end Chip8.Checked
