import Chip8.Screen.Basic

/-!
# Pictures

A picture is a copy of the screen for the outside: 32-bit pixels, all ones for
a lit cell. Its text shows a lit pixel as `@` and a dark one as a blank, with
a line break between two rows and none after the last. Room for the text is
asked for before its first character is written.
-/

namespace Chip8

structure Picture where
  width : Nat
  height : Nat
  pixels : Array UInt32
deriving DecidableEq, Repr

namespace Picture

def litPixel : UInt32 := 0xFFFFFFFF

def darkPixel : UInt32 := 0

/-- Looks a pixel up by its place in the list alone, so a column past the
right edge is one of a later row. -/
def isLit? (picture : Picture) (x y : Nat) : Option Bool :=
  picture.pixels[y * picture.width + x]?.map (· != darkPixel)

def glyph (lit : Bool) : Char := if lit then '@' else ' '

/-- The glyphs of `count` pixels of row `y` from column `x` on. -/
def rowText? (picture : Picture) (y : Nat) : (count x : Nat) → Option (List Char)
  | 0, _ => some []
  | count + 1, x => do
      let lit ← picture.isLit? x y
      let rest ← picture.rowText? y count (x + 1)
      return glyph lit :: rest

/-- The text of `count` rows that follow an earlier one, each behind a line break. -/
def laterRows? (picture : Picture) : (count y : Nat) → Option (List Char)
  | 0, _ => some []
  | count + 1, y => do
      let row ← picture.rowText? y picture.width 0
      let rest ← picture.laterRows? count (y + 1)
      return '\n' :: (row ++ rest)

/-- The text of all rows, if there is a pixel for every position. -/
def allRows? (picture : Picture) : Option (List Char) :=
  match picture.height with
  | 0 => some []
  | count + 1 => do
      let first ← picture.rowText? 0 picture.width 0
      let rest ← picture.laterRows? count 1
      return first ++ rest

/-- A byte is asked for each pixel and one for the end of each row. A row has to be counted by 64
bits and the whole text by 63; whether the system has that many bytes to give is left to it. -/
def HasRoom (picture : Picture) : Prop :=
  picture.width + 1 ≤ 0xFFFFFFFFFFFFFFFF ∧
    (picture.width + 1) * picture.height ≤ 0x7FFFFFFFFFFFFFFF

instance (picture : Picture) : Decidable picture.HasRoom := inferInstanceAs (Decidable (_ ∧ _))

/-- The text of a picture, if there can be room for it and no pixel is missing. -/
def text? (picture : Picture) : Option (List Char) :=
  if picture.HasRoom then picture.allRows? else none

def render? (picture : Picture) : Option String := picture.text?.map String.ofList

end Picture

/-- The picture that the screen shows now. -/
def Screen.picture (screen : Screen) : Picture where
  width := screen.width
  height := screen.height
  pixels := screen.cells.map fun cell => if cell = 0 then Picture.darkPixel else Picture.litPixel

end Chip8
