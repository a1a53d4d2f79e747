import Mathlib.Data.List.Induction
import Chip8.Machine.History

/-!
# The last event of a kind

An event is an action together with the machine that it happens to. What a part
of a machine holds is often what the last event of some kind has put there, so
the positions of such events are followed while a history grows by one action
at a time. Either a history has no event of a kind, or it comes to a last one
and goes on without any.
-/

namespace Chip8.Machine

/-- Action number `n` of a history is an event of a kind. -/
def HappensAt (start : Machine) (actions : List Action) (kind : Machine → Action → Prop)
    (n : Nat) : Prop :=
  ∃ action, actions[n]? = some action ∧ kind (start.run (actions.take n)) action

/-- Action number `n` of a history is an event of a kind and no later one is. -/
structure HappensLastAt (start : Machine) (actions : List Action)
    (kind : Machine → Action → Prop) (n : Nat) : Prop where
  happens : start.HappensAt actions kind n
  latest : ∀ m, start.HappensAt actions kind m → m ≤ n

variable {start : Machine} {actions : List Action} {action : Action}
  {kind : Machine → Action → Prop} {m n : Nat}

theorem HappensAt.lt_length (happens : start.HappensAt actions kind n) : n < actions.length := by
  obtain ⟨action, here, -⟩ := happens
  exact (List.getElem?_eq_some_iff.mp here).1

theorem happensAt_cons_zero :
    start.HappensAt (action :: actions) kind 0 ↔ kind start action := by
  constructor
  · rintro ⟨other, here, happens⟩
    obtain rfl := Option.some.inj here
    exact happens
  · intro happens
    exact ⟨action, rfl, happens⟩

theorem happensAt_cons_succ :
    start.HappensAt (action :: actions) kind (n + 1) ↔
      (start.perform action).HappensAt actions kind n :=
  Iff.rfl

theorem never_cons_iff :
    (∀ n, ¬ start.HappensAt (action :: actions) kind n) ↔
      ¬ kind start action ∧ ∀ n, ¬ (start.perform action).HappensAt actions kind n := by
  constructor
  · intro never
    refine ⟨fun happens => never 0 (happensAt_cons_zero.mpr happens), ?_⟩
    intro n happens
    exact never (n + 1) (happensAt_cons_succ.mpr happens)
  · rintro ⟨other, later⟩ n happens
    cases n with
    | zero => exact other (happensAt_cons_zero.mp happens)
    | succ n => exact later n (happensAt_cons_succ.mp happens)

theorem never_nil (n : Nat) : ¬ start.HappensAt [] kind n := fun happens =>
  Nat.not_lt_zero n happens.lt_length

theorem happensAt_append_length_add {first second : List Action} :
    start.HappensAt (first ++ second) kind (first.length + n) ↔
      (start.run first).HappensAt second kind n := by
  unfold HappensAt
  rw [List.getElem?_append_right (Nat.le_add_right _ _), Nat.add_sub_cancel_left,
    List.take_length_add_append, run_append]

theorem happensAt_concat_of_lt (inside : n < actions.length) :
    start.HappensAt (actions ++ [action]) kind n ↔ start.HappensAt actions kind n := by
  unfold HappensAt
  rw [List.getElem?_append_left inside, List.take_append_of_le_length (Nat.le_of_lt inside)]

theorem happensAt_concat_length :
    start.HappensAt (actions ++ [action]) kind actions.length ↔ kind (start.run actions) action := by
  unfold HappensAt
  rw [List.getElem?_concat_length, List.take_left]
  constructor
  · rintro ⟨other, here, happens⟩
    obtain rfl := Option.some.inj here
    exact happens
  · intro happens
    exact ⟨action, rfl, happens⟩

theorem lt_or_eq_of_happensAt_concat (happens : start.HappensAt (actions ++ [action]) kind n) :
    n < actions.length ∨ n = actions.length := by
  have inside := happens.lt_length
  rw [List.length_append, List.length_singleton] at inside
  exact Nat.lt_or_eq_of_le (Nat.le_of_lt_succ inside)

/-- An action that is no event of the kind adds none. -/
theorem happensAt_concat_iff (other : ¬ kind (start.run actions) action) :
    start.HappensAt (actions ++ [action]) kind n ↔ start.HappensAt actions kind n := by
  constructor
  · intro happens
    rcases lt_or_eq_of_happensAt_concat happens with inside | rfl
    · exact (happensAt_concat_of_lt inside).mp happens
    · exact absurd (happensAt_concat_length.mp happens) other
  · intro happens
    exact (happensAt_concat_of_lt happens.lt_length).mpr happens

theorem HappensLastAt.unique (first : start.HappensLastAt actions kind m)
    (second : start.HappensLastAt actions kind n) : m = n :=
  Nat.le_antisymm (second.latest m first.happens) (first.latest n second.happens)

/-- An event of the kind is the last one as soon as it happens. -/
theorem happensLastAt_concat_length (happens : kind (start.run actions) action) :
    start.HappensLastAt (actions ++ [action]) kind actions.length where
  happens := happensAt_concat_length.mpr happens
  latest m earlier := by
    rcases lt_or_eq_of_happensAt_concat earlier with inside | same
    · exact Nat.le_of_lt inside
    · exact Nat.le_of_eq same

theorem HappensLastAt.concat (last : start.HappensLastAt actions kind n)
    (other : ¬ kind (start.run actions) action) :
    start.HappensLastAt (actions ++ [action]) kind n where
  happens := (happensAt_concat_iff other).mpr last.happens
  latest m happens := last.latest m ((happensAt_concat_iff other).mp happens)

theorem never_or_happensLastAt (start : Machine) (actions : List Action)
    (kind : Machine → Action → Prop) :
    (∀ n, ¬ start.HappensAt actions kind n) ∨ ∃ n, start.HappensLastAt actions kind n := by
  induction actions using List.reverseRecOn with
  | nil => exact .inl never_nil
  | append_singleton actions action ih =>
      by_cases happens : kind (start.run actions) action
      · exact .inr ⟨actions.length, happensLastAt_concat_length happens⟩
      · rcases ih with never | ⟨n, last⟩
        · exact .inl fun n earlier => never n ((happensAt_concat_iff happens).mp earlier)
        · exact .inr ⟨n, last.concat happens⟩

/-- Behind the last event of a kind a history has none. -/
theorem HappensLastAt.never_behind (last : start.HappensLastAt actions kind n) (m : Nat) :
    ¬ (start.run (actions.take (n + 1))).HappensAt (actions.drop (n + 1)) kind m := by
  intro happens
  have length : (actions.take (n + 1)).length = n + 1 :=
    List.length_take_of_le last.happens.lt_length
  have later := happensAt_append_length_add.mpr happens
  rw [List.take_append_drop, length] at later
  exact absurd (last.latest _ later) (by omega)

end Chip8.Machine
