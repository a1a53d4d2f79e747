import Chip8.Keypad

/-!
# Counting the keys that are down

A keypad counts its held keys by adding and subtracting one. The count is the
number of keys that are down, so it never passes sixteen and is not zero while
a key is down.
-/

namespace Chip8.Keypad

def downCount (keypad : Keypad) : Nat := keypad.down.count true

/-- The count of held keys is the number of keys that are down. -/
def Counted (keypad : Keypad) : Prop := keypad.heldCount.toNat = keypad.downCount

variable {keypad : Keypad} {key : Byte}

theorem hasKey_iff : hasKey key = true ↔ key.toNat < size := decide_eq_true_iff

theorem isDown_eq_getElem (known : key.toNat < 16) :
    keypad.isDown key = keypad.down[key.toNat] := by
  rw [isDown, Vector.getElem?_eq_getElem known]
  rfl

theorem lt_size_of_isDown (down : keypad.isDown key = true) : key.toNat < size := by
  apply Nat.lt_of_not_le
  intro far
  rw [isDown_eq_false_of_le far] at down
  cases down

theorem downCount_le (keypad : Keypad) : keypad.downCount ≤ size := Vector.count_le_size

theorem downCount_pos (down : keypad.isDown key = true) : 0 < keypad.downCount := by
  rw [isDown_eq_getElem (lt_size_of_isDown down)] at down
  exact Vector.count_pos_iff.mpr (Vector.mem_of_getElem down)

/-- Setting one key changes the number of keys that are down by what that key counts for. -/
theorem count_setIfInBounds (down : Vector Bool 16) {index : Nat} (inside : index < 16)
    (state : Bool) :
    (down.setIfInBounds index state).count true =
      down.count true - down[index].toNat + state.toNat := by
  have same : down.setIfInBounds index state = down.set index state inside := by
    simp [Vector.setIfInBounds, Vector.set, Array.setIfInBounds, inside]
  rw [same, Vector.count_set inside]
  cases down[index] <;> cases state <;> rfl

theorem press_of_up (known : key.toNat < size) (up : keypad.isDown key = false) :
    keypad.press key =
      { down := keypad.down.setIfInBounds key.toNat true
        last := key
        heldCount := keypad.heldCount + 1 } := by
  rw [press, hasKey_iff.mpr known, up]
  rfl

theorem press_of_down (down : keypad.isDown key = true) : keypad.press key = keypad := by
  rw [press, down, Bool.not_true, Bool.and_false]
  rfl

theorem release_of_down (down : keypad.isDown key = true) :
    keypad.release key =
      { keypad with
        down := keypad.down.setIfInBounds key.toNat false
        heldCount := keypad.heldCount - 1 } := by
  rw [release, down]
  rfl

theorem release_of_up (up : keypad.isDown key = false) : keypad.release key = keypad := by
  rw [release, up]
  rfl

theorem blank_counted : blank.Counted := by
  rw [Counted, downCount, blank, Vector.count_replicate]
  rfl

theorem Counted.heldCount_le (counted : keypad.Counted) : keypad.heldCount.toNat ≤ size := by
  rw [counted]
  exact downCount_le keypad

theorem Counted.heldCount_pos (counted : keypad.Counted) (down : keypad.isDown key = true) :
    0 < keypad.heldCount.toNat := by
  rw [counted]
  exact downCount_pos down

/-- Counting one more key up does not wrap. -/
theorem Counted.toNat_add_one (counted : keypad.Counted) :
    (keypad.heldCount + 1).toNat = keypad.heldCount.toNat + 1 := by
  have bound : keypad.heldCount.toNat ≤ 16 := counted.heldCount_le
  have room : keypad.heldCount.toNat + 1 < 256 := by omega
  rw [UInt8.toNat_add]
  exact Nat.mod_eq_of_lt room

/-- Counting a key down that was held does not wrap. -/
theorem Counted.toNat_sub_one (counted : keypad.Counted) (down : keypad.isDown key = true) :
    (keypad.heldCount - 1).toNat = keypad.heldCount.toNat - 1 :=
  UInt8.toNat_sub_of_le _ _ (counted.heldCount_pos down)

theorem Counted.press (counted : keypad.Counted) (key : Byte) : (keypad.press key).Counted := by
  by_cases known : key.toNat < size
  · cases state : keypad.isDown key with
    | true => rwa [press_of_down state]
    | false =>
        rw [press_of_up known state, Counted, downCount,
          count_setIfInBounds keypad.down known, ← isDown_eq_getElem known, state]
        exact counted.toNat_add_one.trans (congrArg (· + 1) counted)
  · rwa [press_of_le (Nat.le_of_not_lt known)]

theorem Counted.release (counted : keypad.Counted) (key : Byte) :
    (keypad.release key).Counted := by
  cases state : keypad.isDown key with
  | false => rwa [release_of_up state]
  | true =>
      have known := lt_size_of_isDown state
      rw [release_of_down state, Counted, downCount, count_setIfInBounds keypad.down known,
        ← isDown_eq_getElem known, state]
      exact (counted.toNat_sub_one state).trans (congrArg (· - 1) counted)

/-! ## One key under the events of all -/

/-- Pressing a key puts that key down, if it exists, and moves no other. -/
theorem isDown_press (keypad : Keypad) (pressed key : Byte) :
    (keypad.press pressed).isDown key =
      (keypad.isDown key || (hasKey key && pressed == key)) := by
  by_cases same : pressed = key
  · subst same
    cases state : keypad.isDown pressed with
    | true => rw [press_of_down state, state, Bool.true_or]
    | false =>
        cases known : hasKey pressed with
        | true =>
            have inside : pressed.toNat < 16 := hasKey_iff.mp known
            rw [press_of_up inside state]
            simp [isDown, inside]
        | false => simp [press, known, state]
  · have apart : pressed.toNat ≠ key.toNat := fun equal => same (UInt8.toNat_inj.mp equal)
    have other : (keypad.press pressed).isDown key = keypad.isDown key := by
      unfold press
      split
      · simp [isDown, apart]
      · rfl
    rw [other, beq_false_of_ne same, Bool.and_false, Bool.or_false]

theorem isDown_release (keypad : Keypad) (released key : Byte) :
    (keypad.release released).isDown key = (keypad.isDown key && released != key) := by
  by_cases same : released = key
  · subst same
    cases state : keypad.isDown released with
    | true =>
        have inside : released.toNat < 16 := lt_size_of_isDown state
        rw [release_of_down state]
        simp [isDown, inside]
    | false => rw [release_of_up state, state, Bool.false_and]
  · have apart : released.toNat ≠ key.toNat := fun equal => same (UInt8.toNat_inj.mp equal)
    have other : (keypad.release released).isDown key = keypad.isDown key := by
      unfold release
      split
      · simp [isDown, apart]
      · rfl
    rw [other, bne_iff_ne.mpr same, Bool.and_true]

theorem exists_isDown_of_downCount_pos (some : 0 < keypad.downCount) :
    ∃ key, keypad.isDown key = true := by
  obtain ⟨index, inside, down⟩ := Vector.getElem_of_mem (Vector.count_pos_iff.mp some)
  have exact : (UInt8.ofNat index).toNat = index :=
    UInt8.toNat_ofNat_of_lt' (Nat.lt_trans inside (by decide : 16 < 256))
  refine ⟨UInt8.ofNat index, ?_⟩
  rw [isDown, exact, Vector.getElem?_eq_getElem inside]
  exact down

theorem length_held (keypad : Keypad) : keypad.held.length = keypad.downCount := by
  have all : (List.range size).map (fun key => keypad.down[key]?.getD false) =
      keypad.down.toList := by
    apply List.ext_getElem
    · simp [size]
    · intro index inside inside'
      have bound : index < 16 := by simpa using inside'
      simp [bound]
  rw [held, ← List.countP_eq_length_filter, downCount, ← Vector.count_toList, ← all,
    List.count, List.countP_map]
  congr 1
  funext key
  simp

/-- Keypads with the same keys down are the same in that. -/
theorem down_eq_of_isDown {other : Keypad}
    (same : ∀ key, hasKey key = true → keypad.isDown key = other.isDown key) :
    keypad.down = other.down := by
  apply Vector.ext
  intro index inside
  have exact : (UInt8.ofNat index).toNat = index :=
    UInt8.toNat_ofNat_of_lt' (Nat.lt_trans inside (by decide : 16 < 256))
  have known : (UInt8.ofNat index).toNat < 16 := exact.symm ▸ inside
  have agrees := same (UInt8.ofNat index) (hasKey_iff.mpr known)
  rw [isDown_eq_getElem known, isDown_eq_getElem known] at agrees
  simpa only [exact] using agrees

theorem Counted.heldCount_eq {other : Keypad} (counted : keypad.Counted) (counted' : other.Counted)
    (same : keypad.down = other.down) : keypad.heldCount = other.heldCount := by
  apply UInt8.toNat_inj.mp
  rw [counted, counted', downCount, downCount, same]

/-- The count of held keys is above zero just while a key is down. -/
theorem Counted.heldCount_pos_iff (counted : keypad.Counted) :
    0 < keypad.heldCount ↔ ∃ key, keypad.isDown key = true := by
  rw [UInt8.lt_iff_toNat_lt]
  constructor
  · intro some
    exact exists_isDown_of_downCount_pos (counted ▸ some)
  · rintro ⟨key, down⟩
    exact counted.heldCount_pos down

theorem Counted.awaited?_eq_some_iff (counted : keypad.Counted) :
    keypad.awaited? = some keypad.last ↔ ∃ key, keypad.isDown key = true := by
  rw [← counted.heldCount_pos_iff, awaited?, ite_eq_left_iff]
  constructor
  · intro unheld
    apply Decidable.byContradiction
    intro idle
    exact Option.some_ne_none _ (unheld idle).symm
  · intro held idle
    exact absurd held idle

theorem Counted.awaited?_eq_none_iff (counted : keypad.Counted) :
    keypad.awaited? = none ↔ ∀ key, keypad.isDown key = false := by
  have idle : keypad.awaited? = none ↔ ¬ 0 < keypad.heldCount := by
    rw [awaited?, ite_eq_right_iff]
    exact forall_congr' fun _ => iff_of_false (Option.some_ne_none _) id
  rw [idle, counted.heldCount_pos_iff, not_exists]
  exact forall_congr' fun key => iff_of_eq (Bool.not_eq_true _)

end Chip8.Keypad
