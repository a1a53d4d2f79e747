import Chip8.Proofs.Drawing
import Chip8.Proofs.Paintings

/-!
# The text of a picture

A picture can be read back from its text: the first line break, or the end of
a text without one, gives the width, the length then gives the height, and each
pixel has a character of its own. Only a picture that lacks pixels, or whose
text asks for more room than there can be, has no text.
-/

namespace Chip8

namespace Picture

variable {picture first second : Picture} {text row : List Char} {count x y i : Nat}

theorem glyph_ne_newline (lit : Bool) : glyph lit ≠ '\n' := by
  cases lit <;> decide

theorem glyph_injective : Function.Injective glyph := by
  intro lit lit' same
  cases lit <;> cases lit' <;> first | rfl | exact absurd same (by decide)

theorem glyph_bne (pixel : UInt32) :
    glyph (pixel != darkPixel) = if pixel ≠ 0 then '@' else ' ' := by
  by_cases dark : pixel = 0
  · rw [if_neg (not_not_intro dark), dark]
    rfl
  · have lit : (pixel != darkPixel) = true := bne_iff_ne.mpr dark
    rw [if_pos dark, lit]
    rfl

theorem isLit?_eq_none_iff :
    picture.isLit? x y = none ↔ picture.pixels.size ≤ y * picture.width + x := by
  rw [isLit?, Option.map_eq_none_iff, Array.getElem?_eq_none_iff]

/-! ## Rows -/

theorem rowText?_succ :
    picture.rowText? y (count + 1) x =
      (picture.isLit? x y).bind fun lit =>
        (picture.rowText? y count (x + 1)).map (glyph lit :: ·) := by
  rw [rowText?]
  cases picture.isLit? x y with
  | none => rfl
  | some lit => cases picture.rowText? y count (x + 1) <;> rfl

theorem laterRows?_succ :
    picture.laterRows? (count + 1) y =
      (picture.rowText? y picture.width 0).bind fun row =>
        (picture.laterRows? count (y + 1)).map fun rest => '\n' :: (row ++ rest) := by
  rw [laterRows?]
  cases picture.rowText? y picture.width 0 with
  | none => rfl
  | some row => cases picture.laterRows? count (y + 1) <;> rfl

theorem rowText?_eq_none_iff :
    picture.rowText? y count x = none ↔
      0 < count ∧ picture.pixels.size < y * picture.width + (x + count) := by
  induction count generalizing x with
  | zero => simp [rowText?]
  | succ count ih =>
      rw [rowText?_succ]
      cases looked : picture.isLit? x y with
      | none =>
          have missing := isLit?_eq_none_iff.mp looked
          exact iff_of_true rfl ⟨Nat.succ_pos _, by omega⟩
      | some lit =>
          have present : ¬ picture.pixels.size ≤ y * picture.width + x := fun missing =>
            Option.some_ne_none lit (looked.symm.trans (isLit?_eq_none_iff.mpr missing))
          rw [Option.bind_some, Option.map_eq_none_iff, ih]
          omega

theorem wholeRow_eq_none_iff :
    picture.rowText? y picture.width 0 = none ↔
      picture.pixels.size < y * picture.width + picture.width := by
  rw [rowText?_eq_none_iff, Nat.zero_add]
  refine ⟨And.right, fun missing => ⟨Nat.pos_of_ne_zero ?_, missing⟩⟩
  intro narrow
  rw [narrow] at missing
  exact Nat.not_lt_zero _ missing

theorem laterRows?_eq_none_iff :
    picture.laterRows? count y = none ↔
      0 < count ∧ picture.pixels.size < (y + count) * picture.width := by
  induction count generalizing y with
  | zero => simp [laterRows?]
  | succ count ih =>
      have onward : (y + (count + 1)) * picture.width =
          y * picture.width + picture.width + count * picture.width := by
        rw [Nat.add_mul, Nat.succ_mul]
        omega
      have later : (y + 1 + count) * picture.width =
          y * picture.width + picture.width + count * picture.width := by
        rw [Nat.add_mul, Nat.succ_mul]
      rw [laterRows?_succ, onward]
      cases looked : picture.rowText? y picture.width 0 with
      | none =>
          have missing := wholeRow_eq_none_iff.mp looked
          exact iff_of_true rfl ⟨Nat.succ_pos _, by omega⟩
      | some row =>
          have present : ¬ picture.pixels.size < y * picture.width + picture.width :=
            fun missing =>
              Option.some_ne_none row (looked.symm.trans (wholeRow_eq_none_iff.mpr missing))
          rw [Option.bind_some, Option.map_eq_none_iff, ih, later]
          refine and_congr_left fun missing => iff_of_true (Nat.pos_of_ne_zero ?_) (Nat.succ_pos _)
          rintro rfl
          rw [Nat.zero_mul] at missing
          exact present missing

/-- A row shows as many pixels as it is asked for. -/
theorem row_of_rowText (read : picture.rowText? y count x = some row) :
    row.length = count ∧ ∀ i < count, ∃ lit,
      picture.isLit? (x + i) y = some lit ∧ row[i]? = some (glyph lit) := by
  induction count generalizing x row with
  | zero =>
      obtain rfl := Option.some.inj read
      exact ⟨rfl, fun i inside => absurd inside (Nat.not_lt_zero i)⟩
  | succ count ih =>
      rw [rowText?_succ] at read
      obtain ⟨lit, looked, read'⟩ := Option.bind_eq_some_iff.mp read
      obtain ⟨rest, onward, rfl⟩ := Option.map_eq_some_iff.mp read'
      obtain ⟨length, shown⟩ := ih onward
      refine ⟨congrArg (· + 1) length, ?_⟩
      intro i inside
      cases i with
      | zero => exact ⟨lit, looked, rfl⟩
      | succ i =>
          rw [List.getElem?_cons_succ, Nat.add_comm i, ← Nat.add_assoc]
          exact shown i (Nat.lt_of_succ_lt_succ inside)

/-- Where the text of rows that each follow a line break shows what. -/
structure ShowsRows (picture : Picture) (count y : Nat) (text : List Char) : Prop where
  length : text.length = count * (picture.width + 1)
  lineBreak : ∀ i < count, text[i * (picture.width + 1)]? = some '\n'
  pixel : ∀ i < count, ∀ x < picture.width, ∃ lit, picture.isLit? x (y + i) = some lit ∧
    text[i * (picture.width + 1) + (x + 1)]? = some (glyph lit)

theorem showsRows_of_laterRows (read : picture.laterRows? count y = some text) :
    picture.ShowsRows count y text := by
  induction count generalizing y text with
  | zero =>
      obtain rfl := Option.some.inj read
      constructor
      · exact (Nat.zero_mul _).symm
      · intro i inside
        exact absurd inside (Nat.not_lt_zero i)
      · intro i inside
        exact absurd inside (Nat.not_lt_zero i)
  | succ count ih =>
      rw [laterRows?_succ] at read
      obtain ⟨row, looked, read'⟩ := Option.bind_eq_some_iff.mp read
      obtain ⟨rest, onward, rfl⟩ := Option.map_eq_some_iff.mp read'
      obtain ⟨length, shown⟩ := row_of_rowText looked
      have below := ih onward
      -- All rows but the first are found as far behind it as a row and its line break are long.
      have skip (i k : Nat) : ('\n' :: (row ++ rest))[(i + 1) * (picture.width + 1) + k]? =
          rest[i * (picture.width + 1) + k]? := by
        have far : (i + 1) * (picture.width + 1) + k =
            row.length + (i * (picture.width + 1) + k) + 1 := by
          rw [length, Nat.succ_mul]
          omega
        rw [far, List.getElem?_cons_succ, List.getElem?_append_right (Nat.le_add_right _ _),
          Nat.add_sub_cancel_left]
      constructor
      case length =>
        rw [List.length_cons, List.length_append, length, below.length, Nat.succ_mul]
        omega
      case lineBreak =>
        intro i inside
        cases i with
        | zero =>
            rw [Nat.zero_mul]
            rfl
        | succ i => exact (skip i 0).trans (below.lineBreak i (Nat.lt_of_succ_lt_succ inside))
      case pixel =>
        intro i inside x narrow
        cases i with
        | zero =>
            rw [Nat.zero_mul, Nat.zero_add, List.getElem?_cons_succ,
              List.getElem?_append_left (length.symm ▸ narrow), Nat.add_zero]
            simpa only [Nat.zero_add] using shown x narrow
        | succ i =>
            rw [skip, Nat.add_comm i, ← Nat.add_assoc]
            exact below.pixel i (Nat.lt_of_succ_lt_succ inside) x narrow

/-! ## Whole texts -/

theorem allRows?_of_flat (flat : picture.height = 0) : picture.allRows? = some [] := by
  rw [allRows?, flat]

theorem allRows?_of_height (height : picture.height = count + 1) :
    picture.allRows? = (picture.rowText? 0 picture.width 0).bind fun row =>
      (picture.laterRows? count 1).map (row ++ ·) := by
  rw [allRows?, height]
  dsimp only
  cases picture.rowText? 0 picture.width 0 with
  | none => rfl
  | some row => cases picture.laterRows? count 1 <;> rfl

/-- A text is that of rows that each follow a line break, short of the first line break. -/
theorem laterRows?_height (tall : 0 < picture.height) :
    picture.laterRows? picture.height 0 = picture.allRows?.map ('\n' :: ·) := by
  obtain ⟨count, height⟩ := Nat.exists_eq_succ_of_ne_zero (Nat.ne_of_gt tall)
  rw [allRows?_of_height height, height, laterRows?_succ, Option.map_bind]
  congr 1
  funext row
  exact (Option.map_map ..).symm

theorem allRows?_eq_none_iff :
    picture.allRows? = none ↔ picture.pixels.size < picture.width * picture.height := by
  rcases Nat.eq_zero_or_pos picture.height with flat | tall
  · rw [allRows?_of_flat flat, flat]
    exact iff_of_false (Option.some_ne_none _) (Nat.not_lt_zero _)
  · have whole : picture.allRows? = none ↔ picture.laterRows? picture.height 0 = none := by
      rw [laterRows?_height tall, Option.map_eq_none_iff]
    rw [whole, laterRows?_eq_none_iff, Nat.zero_add, Nat.mul_comm]
    exact and_iff_right tall

theorem text?_eq_some_iff :
    picture.text? = some text ↔ picture.HasRoom ∧ picture.allRows? = some text :=
  Option.ite_none_right_eq_some

theorem not_hasRoom_iff : ¬ picture.HasRoom ↔ 0xFFFFFFFFFFFFFFFF < picture.width + 1 ∨
    0x7FFFFFFFFFFFFFFF < (picture.width + 1) * picture.height := by
  rw [HasRoom, Decidable.not_and_iff_or_not, Nat.not_le, Nat.not_le]

theorem render?_eq_none_iff : picture.render? = none ↔
    ¬ picture.HasRoom ∨ picture.pixels.size < picture.width * picture.height := by
  rw [render?, Option.map_eq_none_iff, text?]
  by_cases room : picture.HasRoom
  · rw [if_pos room, allRows?_eq_none_iff, or_iff_right (not_not_intro room)]
  · rw [if_neg room]
    exact iff_of_true rfl (.inl room)

/-- What a text shows where, of the picture that it is the text of. -/
structure Rendered (picture : Picture) (text : List Char) : Prop where
  flat : picture.height = 0 → text.length = 0
  length : 0 < picture.height → text.length = picture.height * (picture.width + 1) - 1
  pixel : ∀ x < picture.width, ∀ y < picture.height, ∃ pixel,
    picture.pixels[y * picture.width + x]? = some pixel ∧
      text[y * (picture.width + 1) + x]? = some (if pixel ≠ 0 then '@' else ' ')
  lineBreak : ∀ y, y + 1 < picture.height →
    text[y * (picture.width + 1) + picture.width]? = some '\n'

theorem rendered_of_rows (tall : 0 < picture.height)
    (rows : picture.ShowsRows picture.height 0 ('\n' :: text)) : picture.Rendered text where
  flat flat := absurd flat (Nat.ne_of_gt tall)
  length _ := Nat.eq_sub_of_add_eq rows.length
  pixel := by
    intro x inside y above
    obtain ⟨lit, looked, shown⟩ := rows.pixel y above x inside
    rw [Nat.zero_add] at looked
    obtain ⟨pixel, found, rfl⟩ := Option.map_eq_some_iff.mp looked
    exact ⟨pixel, found, shown.trans (congrArg some (glyph_bne pixel))⟩
  lineBreak := by
    intro y above
    have shown := rows.lineBreak (y + 1) above
    rw [Nat.succ_mul, ← Nat.add_assoc, List.getElem?_cons_succ] at shown
    exact shown

theorem rendered_of_render {text : String} (read : picture.render? = some text) :
    picture.Rendered text.toList := by
  obtain ⟨characters, found, rfl⟩ := Option.map_eq_some_iff.mp read
  obtain ⟨-, whole⟩ := text?_eq_some_iff.mp found
  rw [String.toList_ofList]
  rcases Nat.eq_zero_or_pos picture.height with flat | tall
  · rw [allRows?_of_flat flat] at whole
    obtain rfl := Option.some.inj whole
    constructor
    case flat => exact fun _ => rfl
    case length => exact fun tall => absurd flat (Nat.ne_of_gt tall)
    case pixel => exact fun x inside y above => absurd (flat ▸ above) (Nat.not_lt_zero y)
    case lineBreak => exact fun y above => absurd (flat ▸ above) (Nat.not_lt_zero _)
  · apply rendered_of_rows tall
    apply showsRows_of_laterRows
    rw [laterRows?_height tall, whole, Option.map_some]

/-! ## Reading a picture back -/

theorem Rendered.exists_glyph (reads : picture.Rendered text) (inside : x < picture.width)
    (above : y < picture.height) : ∃ lit, picture.isLit? x y = some lit ∧
      text[y * (picture.width + 1) + x]? = some (glyph lit) := by
  obtain ⟨pixel, found, shown⟩ := reads.pixel x inside y above
  exact ⟨_, Option.map_eq_some_iff.mpr ⟨pixel, found, rfl⟩, (glyph_bne pixel).symm ▸ shown⟩

section

variable (reads : first.Rendered text) (reads' : second.Rendered text)
  (tall : 0 < first.height) (tall' : 0 < second.height)

include reads reads' tall tall'

/-- The end of the first row of a picture is not within the first row of another of the same
text. -/
theorem Rendered.width_le : second.width ≤ first.width := by
  by_contra wide
  obtain ⟨lit, -, shown⟩ := reads'.exists_glyph (Nat.lt_of_not_le wide) tall'
  rw [Nat.zero_mul, Nat.zero_add] at shown
  rcases Nat.lt_or_ge 1 first.height with more | single
  · have broken := reads.lineBreak 0 more
    rw [Nat.zero_mul, Nat.zero_add, shown] at broken
    exact glyph_ne_newline lit (Option.some.inj broken)
  · have length := reads.length tall
    rw [Nat.le_antisymm single tall, Nat.one_mul, Nat.add_sub_cancel] at length
    rw [List.getElem?_eq_none (Nat.le_of_eq length)] at shown
    cases shown

theorem Rendered.width_eq : first.width = second.width :=
  Nat.le_antisymm (reads'.width_le reads tall' tall) (reads.width_le reads' tall tall')

theorem Rendered.height_eq : first.height = second.height := by
  have length := reads.length tall
  have length' := reads'.length tall'
  rw [← reads.width_eq reads' tall tall'] at length'
  have room : 0 < first.height * (first.width + 1) := Nat.mul_pos tall (Nat.succ_pos _)
  have room' : 0 < second.height * (first.width + 1) := Nat.mul_pos tall' (Nat.succ_pos _)
  apply Nat.eq_of_mul_eq_mul_right (Nat.succ_pos first.width)
  exact Nat.sub_one_cancel room room' (length.symm.trans length')

theorem Rendered.isLit?_eq (inside : x < first.width) (above : y < first.height) :
    first.isLit? x y = second.isLit? x y := by
  have width := reads.width_eq reads' tall tall'
  have height := reads.height_eq reads' tall tall'
  obtain ⟨lit, looked, shown⟩ := reads.exists_glyph inside above
  obtain ⟨lit', looked', shown'⟩ := reads'.exists_glyph (width ▸ inside) (height ▸ above)
  rw [← width, shown] at shown'
  rw [looked, looked', glyph_injective (Option.some.inj shown')]

end

/-- Both dimensions and all pixels of a picture that has rows can be read off its text. -/
theorem read_back {text : String} (read : first.render? = some text)
    (read' : second.render? = some text) (tall : 0 < first.height) (tall' : 0 < second.height) :
    first.width = second.width ∧ first.height = second.height ∧
      ∀ x y, x < first.width → y < first.height → first.isLit? x y = second.isLit? x y := by
  have reads := rendered_of_render read
  have reads' := rendered_of_render read'
  refine ⟨reads.width_eq reads' tall tall', reads.height_eq reads' tall tall', ?_⟩
  intro x y inside above
  exact reads.isLit?_eq reads' tall tall' inside above

end Picture

theorem Mode.width_injective : Function.Injective Mode.width := by
  intro mode mode' same
  cases mode <;> cases mode' <;> first | rfl | exact absurd same (by decide)

namespace Screen

variable {first second screen : Screen}

/-- The screens that come about, on their own or on a machine. -/
inductive Arises : Screen → Prop where
  | painted (mode : Mode) (paintings : List Painting) : Arises ((blank mode).painted paintings)
  | shown {machine : Machine} (reachable : machine.Reachable) : Arises machine.screen

theorem Arises.wellFormed (arises : screen.Arises) : screen.WellFormed := by
  cases arises with
  | painted mode paintings => exact painted_wellFormed (blank_wellFormed mode) paintings
  | shown reachable => exact reachable.sound.screen

theorem picture_hasRoom (screen : Screen) : screen.picture.HasRoom := by
  change screen.mode.width + 1 ≤ _ ∧ (screen.mode.width + 1) * screen.mode.height ≤ _
  cases screen.mode <;> decide

theorem exists_render (formed : screen.WellFormed) :
    ∃ text, screen.picture.render? = some text := by
  apply Option.ne_none_iff_exists'.mp
  intro missing
  rcases Picture.render?_eq_none_iff.mp missing with narrow | short
  · exact narrow screen.picture_hasRoom
  · have size := formed.consistentIn.size_pixels
    exact Nat.lt_irrefl _ (size ▸ short)

/-- No two screens have the same text. -/
theorem eq_of_render (formed : first.WellFormed) (formed' : second.WellFormed)
    (same : first.picture.render? = second.picture.render?) : first = second := by
  obtain ⟨text, read⟩ := exists_render formed
  obtain ⟨width, -, lit⟩ :=
    Picture.read_back read (same ▸ read) first.height_pos second.height_pos
  refine (formed.eq_of_isLit formed' (Mode.width_injective width).symm ?_).symm
  intro x y inside above
  unfold isLit
  rw [← picture_isLit?, ← picture_isLit?, lit x y inside above]

/-- A picture has a text unless it lacks pixels or its text asks for too much room, and the text
shows each pixel at its place. The picture of every screen has one, and no two screens that differ
have the same. -/
theorem render_exact (picture : Picture) (arises : first.Arises) (arises' : second.Arises) :
    (picture.render? = none ↔
      (0xFFFFFFFFFFFFFFFF < picture.width + 1 ∨
        0x7FFFFFFFFFFFFFFF < (picture.width + 1) * picture.height) ∨
      picture.pixels.size < picture.width * picture.height) ∧
      (∀ text, picture.render? = some text → picture.Rendered text.toList) ∧
      first.picture.render? ≠ none ∧
      (first.picture.render? = second.picture.render? ↔ first.picture = second.picture) ∧
      (first.picture = second.picture ↔ first.mode = second.mode ∧
        ∀ x y, x < first.width → y < first.height → first.isLit x y = second.isLit x y) := by
  have formed := arises.wellFormed
  have formed' := arises'.wellFormed
  refine ⟨?_, fun text => Picture.rendered_of_render,
    Option.ne_none_iff_exists'.mpr (exists_render formed), ?_, ?_⟩
  · rw [Picture.render?_eq_none_iff, Picture.not_hasRoom_iff]
  · constructor
    · intro same
      exact congrArg Screen.picture (eq_of_render formed formed' same)
    · exact congrArg Picture.render?
  · constructor
    · intro same
      obtain rfl := eq_of_render formed formed' (congrArg Picture.render? same)
      exact ⟨rfl, fun x y _ _ => rfl⟩
    · rintro ⟨mode, lit⟩
      refine congrArg Screen.picture (formed.eq_of_isLit formed' mode.symm ?_).symm
      intro x y inside above
      exact (lit x y inside above).symm

/-- A picture of two rows has its text, and a machine that starts does not show the text of a
screen in the high mode. -/
theorem render_exact_start :
    let picture : Picture := ⟨3, 2, #[1, 0, 1, 0, 1, 0]⟩
    let start := { Machine.blank (.ofSeed 0) with
      memory := Machine.firmware.overlay loadAddress.toNat [] }
    Machine.boot (.ofSeed 0) [] = .ok start ∧
      picture.render? = some "@ @\n @ " ∧ picture.Rendered "@ @\n @ ".toList ∧
      start.screen.picture.render? ≠ (blank .high).picture.render? := by
  intro picture start
  have booted : Machine.boot (.ofSeed 0) [] = .ok start := rfl
  have text : picture.render? = some "@ @\n @ " := rfl
  obtain ⟨-, rendered, -, texts, pictures⟩ :=
    render_exact picture (.shown (.boot booted)) (.painted .high [])
  refine ⟨booted, text, rendered _ text, ?_⟩
  intro same
  have mode : Mode.low = Mode.high := (pictures.mp (texts.mp same)).1
  cases mode

/-- A picture of no columns lacks no pixel, and still has no text when the line breaks of its rows
ask for too much room. -/
theorem render_without_room :
    let picture : Picture := ⟨0, 0x8000000000000000, #[]⟩
    (picture.width + 1) * picture.height ≤ 0xFFFFFFFFFFFFFFFF ∧
      picture.width * picture.height ≤ 0xFFFFFFFFFFFFFFFF ∧
      ¬ picture.pixels.size < picture.width * picture.height ∧ picture.render? = none := by
  intro picture
  have crowded : ¬ picture.HasRoom := by decide
  exact ⟨by decide, by decide, by decide, Picture.render?_eq_none_iff.mpr (.inl crowded)⟩

end Screen

end Chip8
