import Mathlib.Data.List.Induction
import Chip8.Machine.History
import Chip8.Proofs.Control
import Chip8.Proofs.Footprint
import Chip8.Proofs.LastEvent
import Chip8.Proofs.Soundness

/-!
# What the keypad knows of its history

Between presses and releases a machine may step, tick and be loaded: its
keypad follows the key events alone. Of each key it knows the last event, of
all keys together how many are down and which one went down last. That last
one is what a wait for a key delivers, also when it is up again by then.
-/

namespace Chip8

/-- The action is an event of a key. -/
def Action.concerns (key : Byte) : Action → Bool
  | .press other => other == key
  | .release other => other == key
  | _ => false

/-- The events of one key, in their order. -/
def keyEvents (key : Byte) (actions : List Action) : List Action :=
  actions.filter (Action.concerns key)

/-- What a keypad makes of an action. -/
def Keypad.follow (keypad : Keypad) : Action → Keypad
  | .press key => keypad.press key
  | .release key => keypad.release key
  | _ => keypad

namespace Machine

variable {start machine : Machine} {actions : List Action} {action : Action} {key : Byte} {n : Nat}

theorem perform_keypad (machine : Machine) (action : Action) :
    (machine.perform action).keypad = machine.keypad.follow action := by
  cases action with
  | step => exact step_keypad machine
  | load rom =>
      obtain ⟨memory, same⟩ := machine.perform_load rom
      rw [same]
      rfl
  | _ => rfl

/-! ## One key -/

theorem isDown_perform_of_apart (apart : action.concerns key = false) :
    (machine.perform action).keypad.isDown key = machine.keypad.isDown key := by
  rw [perform_keypad]
  cases action with
  | press other =>
      have other_ne : (other == key) = false := apart
      rw [Keypad.follow, Keypad.isDown_press, other_ne, Bool.and_false, Bool.or_false]
  | release other =>
      have other_ne : (other == key) = false := apart
      rw [Keypad.follow, Keypad.isDown_release, bne, other_ne, Bool.not_false, Bool.and_true]
  | _ => rfl

/-- A key is down just when its last event was a press. -/
theorem isDown_run_iff (known : Keypad.hasKey key = true)
    (fresh : start.keypad.isDown key = false) (actions : List Action) :
    (start.run actions).keypad.isDown key = true ↔
      (keyEvents key actions).getLast? = some (.press key) := by
  induction actions using List.reverseRecOn with
  | nil =>
      change start.keypad.isDown key = true ↔ none = some (Action.press key)
      simp [fresh]
  | append_singleton actions action ih =>
      rw [run_concat, keyEvents, List.filter_append]
      cases concerns : action.concerns key with
      | false =>
          rw [List.filter_cons_of_neg (by simp [concerns]), List.filter_nil, List.append_nil,
            isDown_perform_of_apart concerns]
          exact ih
      | true =>
          rw [List.filter_cons_of_pos concerns, List.filter_nil, List.getLast?_concat,
            perform_keypad]
          cases action with
          | press other =>
              obtain rfl : other = key := eq_of_beq concerns
              simp [Keypad.follow, Keypad.isDown_press, known]
          | release other =>
              obtain rfl : other = key := eq_of_beq concerns
              simp [Keypad.follow, Keypad.isDown_release]
          | _ => cases concerns

/-! ## The key that went down last -/

/-- An action presses a key that is up and takes it down. -/
structure TakesDown (machine : Machine) (action : Action) (key : Byte) : Prop where
  pressed : action = .press key
  up : machine.keypad.isDown key = false
  down : (machine.perform action).keypad.isDown key = true

/-- At a position of a history an action takes a key down. -/
def GoesDown (start : Machine) (actions : List Action) (n : Nat) (key : Byte) : Prop :=
  ∃ action, actions[n]? = some action ∧ (start.run (actions.take n)).TakesDown action key

/-- No key goes down behind a position of a history. -/
def QuietBehind (start : Machine) (actions : List Action) (n : Nat) : Prop :=
  ∀ m other, start.GoesDown actions m other → m ≤ n

theorem takesDown_press (known : Keypad.hasKey key = true)
    (up : machine.keypad.isDown key = false) : machine.TakesDown (.press key) key where
  pressed := rfl
  up := up
  down := by
    rw [perform_keypad, Keypad.follow, Keypad.isDown_press, known, beq_self_eq_true, Bool.and_true,
      Bool.or_true]

theorem last_of_takesDown (takes : machine.TakesDown action key) :
    (machine.perform action).keypad.last = key := by
  obtain ⟨rfl, up, down⟩ := takes
  rw [perform_keypad, Keypad.follow, Keypad.press_of_up (Keypad.lt_size_of_isDown down) up]

/-- An action that takes no key down leaves the memory of the last one alone. -/
theorem last_of_not_takesDown (still : ∀ key, ¬ machine.TakesDown action key) :
    (machine.perform action).keypad.last = machine.keypad.last := by
  rw [perform_keypad]
  cases action with
  | press pressed =>
      rw [Keypad.follow]
      cases state : machine.keypad.isDown pressed with
      | true => rw [Keypad.press_of_down state]
      | false =>
          cases known : Keypad.hasKey pressed with
          | true => exact absurd (takesDown_press known state) (still pressed)
          | false =>
              have far := Nat.le_of_not_lt (decide_eq_false_iff_not.mp known)
              rw [Keypad.press_of_le far]
  | release released =>
      rw [Keypad.follow, Keypad.release]
      split <;> rfl
  | _ => rfl

/-- An action that does not take a key down can only take it up. -/
theorem isDown_of_not_takesDown (still : ¬ machine.TakesDown action key) :
    (machine.perform action).keypad.isDown key = true ↔
      machine.keypad.isDown key = true ∧ action ≠ .release key := by
  cases concerns : action.concerns key with
  | false =>
      have apart : action ≠ .release key := by
        rintro rfl
        exact absurd concerns (by simp [Action.concerns])
      rw [isDown_perform_of_apart concerns, and_iff_left apart]
  | true =>
      cases action with
      | press other =>
          obtain rfl : other = key := eq_of_beq concerns
          cases state : machine.keypad.isDown other with
          | true =>
              rw [perform_keypad, Keypad.follow, Keypad.press_of_down state, state]
              simp
          | false => exact iff_of_false (fun down => still ⟨rfl, state, down⟩) (by simp)
      | release other =>
          obtain rfl : other = key := eq_of_beq concerns
          rw [perform_keypad, Keypad.follow, Keypad.isDown_release]
          simp
      | _ => cases concerns

theorem goesDown_iff :
    start.GoesDown actions n key ↔ start.HappensAt actions (TakesDown · · key) n :=
  Iff.rfl

/-- Some key goes down by the action. -/
def TakesSomeDown (machine : Machine) (action : Action) : Prop :=
  ∃ key, machine.TakesDown action key

theorem GoesDown.happensAt (goes : start.GoesDown actions n key) :
    start.HappensAt actions TakesSomeDown n := by
  obtain ⟨action, here, takes⟩ := goes
  exact ⟨action, here, key, takes⟩

/-- As long as no key goes down, the keypad remembers the same one. -/
theorem last_run_of_never (never : ∀ n, ¬ start.HappensAt actions TakesSomeDown n) :
    (start.run actions).keypad.last = start.keypad.last := by
  induction actions generalizing start with
  | nil => rfl
  | cons action rest ih =>
      obtain ⟨other, later⟩ := never_cons_iff.mp never
      exact (ih later).trans (last_of_not_takesDown (not_exists.mp other))

/-- If some key went down at all, the keypad remembers the one that went down last. -/
theorem last_run (actions : List Action) (some : ∃ n key, start.GoesDown actions n key) :
    ∃ n, start.GoesDown actions n (start.run actions).keypad.last ∧
      start.QuietBehind actions n := by
  rcases start.never_or_happensLastAt actions TakesSomeDown with never | ⟨n, last⟩
  · obtain ⟨n, key, goes⟩ := some
    exact absurd goes.happensAt (never n)
  · obtain ⟨action, here, key, takes⟩ := last.happens
    have remembered : (start.run actions).keypad.last = key := by
      rw [← run_take_drop start actions (n + 1), last_run_of_never last.never_behind,
        run_take_succ here, last_of_takesDown takes]
    refine ⟨n, ?_, fun m other later => last.latest m later.happensAt⟩
    rw [remembered]
    exact ⟨action, here, takes⟩

/-- As long as a key does not go down, it is down if it was and is not released. -/
theorem isDown_run_of_never (never : ∀ n, ¬ start.HappensAt actions (TakesDown · · key) n) :
    (start.run actions).keypad.isDown key = true ↔
      start.keypad.isDown key = true ∧ .release key ∉ actions := by
  induction actions generalizing start with
  | nil => exact (and_iff_left List.not_mem_nil).symm
  | cons action rest ih =>
      obtain ⟨other, later⟩ := never_cons_iff.mp never
      rw [run_cons, ih later, isDown_of_not_takesDown other, List.mem_cons, not_or, and_assoc,
        ne_comm]

/-- The key that went down last stays down until it is released. -/
theorem isDown_iff_of_quiet (actions : List Action) (goes : start.GoesDown actions n key)
    (quiet : start.QuietBehind actions n) :
    (start.run actions).keypad.isDown key = true ↔ .release key ∉ actions.drop (n + 1) := by
  have last : start.HappensLastAt actions (TakesDown · · key) n :=
    ⟨goesDown_iff.mp goes, fun m later => quiet m key later⟩
  obtain ⟨action, here, takes⟩ := goes
  rw [← run_take_drop start actions (n + 1), isDown_run_of_never last.never_behind,
    run_take_succ here, and_iff_right takes.down]

/-! ## What a keypad knows -/

/-- The keypad after a history sums up the key events of that history. -/
structure Summarises (start : Machine) (actions : List Action) : Prop where
  down : ∀ key, Keypad.hasKey key = true →
    ((start.run actions).keypad.isDown key = true ↔
      (keyEvents key actions).getLast? = some (.press key))
  count : (start.run actions).keypad.heldCount.toNat = (start.run actions).keypad.held.length
  range : (start.run actions).keypad.heldCount.toNat ≤ Keypad.size
  /-- A key that goes down is counted, and the count does not wrap. -/
  counted : ∀ key, Keypad.hasKey key = true → (start.run actions).keypad.isDown key = false →
    ((start.run actions).press key).keypad.heldCount.toNat =
      (start.run actions).keypad.heldCount.toNat + 1
  /-- A key that comes up is no longer counted, and the count does not wrap. -/
  discounted : ∀ key, (start.run actions).keypad.isDown key = true →
    ((start.run actions).release key).keypad.heldCount.toNat + 1 =
      (start.run actions).keypad.heldCount.toNat
  unknown : ∀ key, Keypad.hasKey key = false →
    (start.run actions).press key = start.run actions ∧
      (start.run actions).release key = start.run actions
  last : (∃ n key, start.GoesDown actions n key) →
    ∃ n, start.GoesDown actions n (start.run actions).keypad.last ∧ start.QuietBehind actions n
  awaited : (start.run actions).keypad.awaited? = some (start.run actions).keypad.last ↔
    ∃ key, (start.run actions).keypad.isDown key = true
  idle : (start.run actions).keypad.awaited? = none ↔
    ∀ key, (start.run actions).keypad.isDown key = false
  /-- Only the order of the events of each single key matters for what is down. -/
  reordered : ∀ other : List Action, (∀ key, keyEvents key other = keyEvents key actions) →
    (start.run other).keypad.down = (start.run actions).keypad.down ∧
      (start.run other).keypad.heldCount = (start.run actions).keypad.heldCount

theorem keypad_of_boot {random : RandomSource} {rom : Rom}
    (booted : boot random rom = .ok start) : start.keypad = Keypad.blank := by
  rw [eq_of_boot booted]
  rfl

theorem counted_of_boot {random : RandomSource} {rom : Rom} (booted : boot random rom = .ok start)
    (actions : List Action) : (start.run actions).keypad.Counted :=
  ((Reachable.boot booted).run actions).sound.keypad

/-- A new keypad knows of no key. -/
theorem isDown_of_boot {random : RandomSource} {rom : Rom} (booted : boot random rom = .ok start)
    (key : Byte) : start.keypad.isDown key = false := by
  rw [keypad_of_boot booted, Keypad.isDown, Keypad.blank]
  cases entry : (Vector.replicate 16 false)[key.toNat]? with
  | none => rfl
  | some state =>
      obtain ⟨inside, rfl⟩ := Vector.getElem?_eq_some_iff.mp entry
      exact Vector.getElem_replicate inside

/-- Only the order of the events of each single key matters for which keys are down. -/
theorem down_run_of_keyEvents {other : List Action}
    (fresh : ∀ key, start.keypad.isDown key = false)
    (same : ∀ key, keyEvents key other = keyEvents key actions) :
    (start.run other).keypad.down = (start.run actions).keypad.down := by
  apply Keypad.down_eq_of_isDown
  intro key known
  rw [Bool.eq_iff_iff, isDown_run_iff known (fresh key), isDown_run_iff known (fresh key), same key]

theorem unknown_key (machine : Machine) (unknown : Keypad.hasKey key = false) :
    machine.press key = machine ∧ machine.release key = machine := by
  have far : Keypad.size ≤ key.toNat := Nat.le_of_not_lt (decide_eq_false_iff_not.mp unknown)
  constructor
  · rw [Machine.press, Keypad.press_of_le far]
  · rw [Machine.release, Keypad.release_of_le far]

/-- Whatever has happened to a machine, its keypad sums up the key events. -/
theorem run_summarises {random : RandomSource} {rom : Rom} (booted : boot random rom = .ok start)
    (actions : List Action) : start.Summarises actions := by
  have fresh := isDown_of_boot booted
  have counted := counted_of_boot booted
  constructor
  case down => exact fun key known => isDown_run_iff known (fresh key) actions
  case count => exact (counted actions).trans (Keypad.length_held _).symm
  case range => exact (counted actions).heldCount_le
  case counted =>
    intro key known up
    change ((start.run actions).keypad.press key).heldCount.toNat = _
    rw [Keypad.press_of_up (Keypad.hasKey_iff.mp known) up]
    exact (counted actions).toNat_add_one
  case discounted =>
    intro key down
    change ((start.run actions).keypad.release key).heldCount.toNat + 1 = _
    rw [Keypad.release_of_down down]
    change ((start.run actions).keypad.heldCount - 1).toNat + 1 = _
    rw [(counted actions).toNat_sub_one down]
    exact Nat.sub_add_cancel ((counted actions).heldCount_pos down)
  case unknown => exact fun key unknown => unknown_key _ unknown
  case last => exact last_run actions
  case awaited => exact (counted actions).awaited?_eq_some_iff
  case idle => exact (counted actions).awaited?_eq_none_iff
  case reordered =>
    intro other same
    have down := down_run_of_keyEvents fresh same
    exact ⟨down, (counted other).heldCount_eq (counted actions) down⟩

/-- Two keys go down, one of them twice, and a key that does not exist comes and goes. -/
theorem run_summarises_two_keys :
    let start := { blank (.ofSeed 0) with
      memory := firmware.overlay loadAddress.toNat [0x12, 0x00] }
    boot (.ofSeed 0) [0x12, 0x00] = .ok start ∧
      start.Summarises
        [.press 1, .press 2, .step, .press 1, .tick, .press 20, .release 20, .release 2] := by
  intro start
  have booted : boot (.ofSeed 0) [0x12, 0x00] = .ok start := rfl
  exact ⟨booted, run_summarises booted _⟩

/-! ## What a wait delivers -/

theorem step_of_unheld {x : Register} (waiting : machine.pending? = some (.awaitKey x))
    (unheld : machine.keypad.awaited? = none) : machine.step = .done machine := by
  have back : machine.programCounter.next.previous = machine.programCounter :=
    Address.previous_next _
  have idle : machine.advance.keypad.awaited? = none := unheld
  rw [(carries_of_pending waiting rfl).step]
  change Outcome.done (machine.advance.awaitKey x) = _
  rw [awaitKey, idle]
  change Outcome.done { machine with programCounter := machine.programCounter.next.previous } = _
  rw [back]

theorem step_of_held {x : Register} {key : Byte} (waiting : machine.pending? = some (.awaitKey x))
    (held : machine.keypad.awaited? = some key) :
    machine.step = .done (machine.advance.setRegister x key) := by
  have delivered : machine.advance.keypad.awaited? = some key := held
  rw [(carries_of_pending waiting rfl).step]
  change Outcome.done (machine.advance.awaitKey x) = _
  rw [awaitKey, delivered]

/-- A key that is down went down at some position of the history. -/
theorem exists_goesDown (fresh : start.keypad.isDown key = false) (actions : List Action)
    (down : (start.run actions).keypad.isDown key = true) : ∃ n, start.GoesDown actions n key := by
  by_contra none
  have held := ((isDown_run_of_never (not_exists.mp none)).mp down).1
  rw [fresh] at held
  cases held

/-- What a wait for a key comes to: without a key that is down it stays, and otherwise it delivers
the key that went down last, which is down itself only if it was not released since. -/
inductive Waits (start : Machine) (actions : List Action) (x : Register) : Prop where
  | stays (unheld : ∀ key, (start.run actions).keypad.isDown key = false)
      (same : (start.run actions).step = .done (start.run actions))
  | delivers (n : Nat) (key : Byte) (held : ∃ other, (start.run actions).keypad.isDown other = true)
      (stored : (start.run actions).step = .done ((start.run actions).advance.setRegister x key))
      (goes : start.GoesDown actions n key) (quiet : start.QuietBehind actions n)
      (down_iff : (start.run actions).keypad.isDown key = true ↔
        .release key ∉ actions.drop (n + 1))

/-- A wait for a key delivers the key that went down last, whether or not it is up again. -/
theorem wait_delivers_last {random : RandomSource} {rom : Rom} {x : Register}
    (booted : boot random rom = .ok start) (actions : List Action)
    (waiting : (start.run actions).pending? = some (.awaitKey x)) : start.Waits actions x := by
  have counted := counted_of_boot booted actions
  by_cases held : ∃ key, (start.run actions).keypad.isDown key = true
  · obtain ⟨key, down⟩ := held
    obtain ⟨m, first⟩ := exists_goesDown (isDown_of_boot booted key) actions down
    obtain ⟨n, goes, quiet⟩ := last_run actions ⟨m, key, first⟩
    have awaited := counted.awaited?_eq_some_iff.mpr ⟨key, down⟩
    exact .delivers n _ ⟨key, down⟩ (step_of_held waiting awaited) goes quiet
      (isDown_iff_of_quiet actions goes quiet)
  · have unheld : ∀ key, (start.run actions).keypad.isDown key = false :=
      fun key => Bool.eq_false_of_not_eq_true (not_exists.mp held key)
    exact .stays unheld (step_of_unheld waiting (counted.awaited?_eq_none_iff.mpr unheld))

/-- With two keys down, a wait takes the later one. -/
theorem wait_delivers_last_of_two :
    let start := { blank (.ofSeed 0) with
      memory := firmware.overlay loadAddress.toNat [0xF3, 0x0A] }
    boot (.ofSeed 0) [0xF3, 0x0A] = .ok start ∧
      (start.run [.press 1, .press 2]).pending? = some (.awaitKey 3) ∧
      start.Waits [.press 1, .press 2] 3 := by
  intro start
  have booted : boot (.ofSeed 0) [0xF3, 0x0A] = .ok start := rfl
  have waiting : (start.run [.press 1, .press 2]).pending? = some (.awaitKey 3) :=
    pending?_of_boot booted
  exact ⟨booted, waiting, wait_delivers_last booted _ waiting⟩

/-- A key that is up again is delivered while another key is down. -/
theorem wait_delivers_released :
    let start := { blank (.ofSeed 0) with
      memory := firmware.overlay loadAddress.toNat [0xF3, 0x0A] }
    let machine := start.run [.press 1, .press 2, .release 2]
    boot (.ofSeed 0) [0xF3, 0x0A] = .ok start ∧ machine.pending? = some (.awaitKey 3) ∧
      machine.step.machine.programCounter = machine.programCounter.next ∧
      machine.step.machine.value 3 = 2 ∧ machine.keypad.isDown 2 = false := by
  intro start machine
  have booted : boot (.ofSeed 0) [0xF3, 0x0A] = .ok start := rfl
  have waiting : machine.pending? = some (.awaitKey 3) := pending?_of_boot booted
  have keypad : machine.keypad = ((Keypad.blank.press 1).press 2).release 2 := rfl
  have awaited : machine.keypad.awaited? = some 2 := by
    rw [keypad]
    decide
  have delivered : machine.step = .done (machine.advance.setRegister 3 2) :=
    step_of_held waiting awaited
  refine ⟨booted, waiting, ?_, ?_, ?_⟩
  · rw [delivered]
    rfl
  · rw [delivered]
    rfl
  · rw [keypad]
    decide

end Machine

end Chip8
