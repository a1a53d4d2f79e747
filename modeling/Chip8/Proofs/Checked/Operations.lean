import Chip8.Word

/-!
# Checked operations

An index or a range can lie outside a list, a result outside its type, a shift
can be as wide as the word, and a remainder needs a divisor. The operations
here give `none` in these cases and their plain result in all others, so a
computation put together from them gives `none` as soon as one of its
operations goes wrong.
-/

namespace Chip8.Checked

/-! ## Numbers -/

/-- A number as a byte, which it must fit into. -/
def byte? (value : Nat) : Option Byte := if value < 256 then some (.ofNat value) else none

/-- A number as a word, which it must fit into. -/
def word? (value : Nat) : Option Word := if value < 65536 then some (.ofNat value) else none

/-- A number that 64 bits can hold. -/
def wide? (value : Nat) : Option Nat :=
  if value < 18446744073709551616 then some value else none

/-- A number as the index of one of sixteen entries. -/
def index? (value : Nat) : Option (Fin 16) :=
  if inside : value < 16 then some ⟨value, inside⟩ else none

/-- A difference, which must not fall below zero. -/
def difference? (first second : Nat) : Option Nat :=
  if second ≤ first then some (first - second) else none

/-- A remainder, whose divisor must not be zero. -/
def remainder? (value divisor : Nat) : Option Nat :=
  if divisor = 0 then none else some (value % divisor)

/-- A word shifted down, by less than its width. -/
def shifted? (word : Word) (amount : Nat) : Option Word :=
  if amount < 16 then some (word >>> .ofNat amount) else none

theorem byte?_toNat (byte : Byte) : byte? byte.toNat = some byte := by
  rw [byte?, if_pos byte.toNat_lt, UInt8.ofNat_toNat]

theorem word?_toNat (word : Word) : word? word.toNat = some word := by
  rw [word?, if_pos word.toNat_lt, UInt16.ofNat_toNat]

theorem wide?_of_lt {value : Nat} (lt : value < 18446744073709551616) :
    wide? value = some value :=
  if_pos lt

theorem index?_val (index : Fin 16) : index? index.val = some index := dif_pos index.isLt

theorem difference?_of_le {first second : Nat} (le : second ≤ first) :
    difference? first second = some (first - second) :=
  if_pos le

theorem remainder?_of_pos {value divisor : Nat} (pos : 0 < divisor) :
    remainder? value divisor = some (value % divisor) :=
  if_neg (Nat.ne_of_gt pos)

theorem shifted?_of_lt {word : Word} {amount : Nat} (lt : amount < 16) :
    shifted? word amount = some (word >>> .ofNat amount) :=
  if_pos lt

variable {α β : Type}

/-- An operation that passes hands its value to what follows. -/
theorem bind_of_passes {checked? : Option α} {value : α} {next : α → Option β}
    (passes : checked? = some value) : (checked? >>= next) = next value := by
  rw [passes]
  rfl

/-! ## Ranges of a list -/

variable {values fresh : List α} {start length target : Nat}

/-- The values of a range, which must lie inside the list. -/
def range? (values : List α) (start length : Nat) : Option (List α) :=
  if start + length ≤ values.length then some ((values.drop start).take length) else none

/-- Puts new values over a range, which must lie inside the list. -/
def put? (values : List α) (start : Nat) (fresh : List α) : Option (List α) :=
  if start + fresh.length ≤ values.length then
    some (values.take start ++ fresh ++ values.drop (start + fresh.length))
  else none

/-- Copies values over a range, which must be as long as they are. -/
def copy? (values : List α) (start length : Nat) (source : List α) : Option (List α) :=
  if source.length = length then put? values start source else none

/-- Copies a range to another place in the same list. -/
def move? (values : List α) (start length target : Nat) : Option (List α) := do
  let moved ← range? values start length
  put? values target moved

/-- One of the pieces of one length that a list consists of, counted from zero. -/
def piece (values : List α) (length number : Nat) : List α :=
  (values.drop (number * length)).take length

/-- Cuts a list into pieces of one length, which must not be zero; the last piece may be shorter. -/
def pieces? (length : Nat) (values : List α) : Option (List (List α)) :=
  if length = 0 then none
  else some ((List.range ((values.length + length - 1) / length)).map (piece values length))

theorem range?_of_le (inside : start + length ≤ values.length) :
    range? values start length = some ((values.drop start).take length) :=
  if_pos inside

theorem put?_of_le (inside : start + fresh.length ≤ values.length) :
    put? values start fresh =
      some (values.take start ++ fresh ++ values.drop (start + fresh.length)) :=
  if_pos inside

/-- Copying over the head of a list keeps the rest. -/
theorem copy?_head (room : fresh.length ≤ values.length) :
    copy? values 0 fresh.length fresh = some (fresh ++ values.drop fresh.length) := by
  rw [copy?, if_pos rfl, put?_of_le (by rwa [Nat.zero_add]), Nat.zero_add]
  rfl

theorem move?_of_le (inside : start + length ≤ values.length)
    (room : target + length ≤ values.length) :
    move? values start length target = some (values.take target ++
      (values.drop start).take length ++ values.drop (target + length)) := by
  have size : ((values.drop start).take length).length = length := by
    rw [List.length_take, List.length_drop]
    omega
  rw [move?, bind_of_passes (range?_of_le inside), put?_of_le (by rw [size]; exact room), size]

theorem pieces?_of_length {count : Nat} (pos : 0 < length)
    (size : values.length = count * length) :
    pieces? length values = some ((List.range count).map (piece values length)) := by
  have whole : (count * length + length - 1) / length = count := by
    rw [Nat.add_sub_assoc pos, Nat.mul_comm, Nat.mul_add_div pos,
      Nat.div_eq_of_lt (Nat.sub_lt pos Nat.one_pos), Nat.add_zero]
  rw [pieces?, if_neg (Nat.ne_of_gt pos), size, whole]

theorem length_piece {number : Nat} (inside : number * length + length ≤ values.length) :
    (piece values length number).length = length := by
  rw [piece, List.length_take, List.length_drop]
  omega

theorem getElem?_piece {number place : Nat} (inside : place < length) :
    (piece values length number)[place]? = values[number * length + place]? := by
  rw [piece, List.getElem?_take_of_lt inside, List.getElem?_drop]

/-- Whole pieces, put together again, are what they were cut from. -/
theorem flatten_pieces (values : List α) (length count : Nat) :
    ((List.range count).map (piece values length)).flatten = values.take (count * length) := by
  induction count with
  | zero => rw [Nat.zero_mul, List.take_zero]; rfl
  | succ count ih =>
      rw [List.range_succ, List.map_append, List.flatten_append, ih, Nat.succ_mul, List.take_add,
        List.map_singleton, List.flatten_singleton, piece]

/-! ## Passes over a list -/

/-- Where each value passes, the pass over a list is the plain one. -/
theorem mapM_eq_some {plain : α → β} {checked? : α → Option β}
    (passes : ∀ value ∈ values, checked? value = some (plain value)) :
    values.mapM checked? = some (values.map plain) := by
  induction values with
  | nil => rfl
  | cons value rest ih =>
      rw [List.mapM_cons, passes value List.mem_cons_self,
        ih fun other mem => passes other (List.mem_cons_of_mem _ mem)]
      rfl

/-- Where each step passes from the states of an invariant, which it keeps, the pass over a list
is the plain one. -/
theorem foldlM_eq_some {plain : β → α → β} {checked? : β → α → Option β} (Holds : β → Prop)
    {state : β} (holds : Holds state)
    (passes : ∀ state, Holds state → ∀ value ∈ values,
      checked? state value = some (plain state value) ∧ Holds (plain state value)) :
    values.foldlM checked? state = some (values.foldl plain state) := by
  induction values generalizing state with
  | nil => rfl
  | cons value rest ih =>
      obtain ⟨passed, kept⟩ := passes state holds value List.mem_cons_self
      rw [List.foldlM_cons, passed, List.foldl_cons]
      exact ih kept fun state holds other mem =>
        passes state holds other (List.mem_cons_of_mem _ mem)

end Chip8.Checked
