import DebugConsole.Text.Grapheme
import DebugConsole.Text.Case
import DebugConsole.Text.Number

/-!
# The canvas

A grid of cells, stored row by row.

* `Canvas.draw`: writes a text from a cell on. The text may run on into the next row, but not past
  the column it started in.
* `Canvas.paste`: puts a smaller canvas onto a larger one.
* `Canvas.rows`, `Canvas.styleRuns`: what is to be seen.
-/

namespace DebugConsole

/-- A colour. -/
structure Colour where
  red : UInt8
  green : UInt8
  blue : UInt8
  deriving DecidableEq, Repr

/-- The digits of a colour, two for each part. -/
def Colour.text (c : Colour) : String :=
  Text.lower (Text.hex 2 c.red.toNat ++ Text.hex 2 c.green.toNat ++ Text.hex 2 c.blue.toNat)

/-- The colours of a cell. -/
structure Style where
  background : Colour
  foreground : Colour
  deriving DecidableEq, Repr

/-- A cell: the piece of text that starts in it, which is empty behind a wide one. -/
structure Cell where
  text : String
  style : Style
  deriving DecidableEq, Repr

/-- A grid of cells. -/
structure Canvas where
  width : Nat
  height : Nat
  cells : Array Cell
  size_cells : cells.size = width * height

namespace Canvas

/-- A canvas of spaces. -/
def blank (width height : Nat) (style : Style) : Canvas :=
  ⟨width, height, Array.replicate (width * height) ⟨" ", style⟩, by simp⟩

/-- The canvas with one cell changed; outside of it nothing changes. -/
def put (c : Canvas) (offset : Nat) (cell : Cell) : Canvas :=
  { c with cells := c.cells.setIfInBounds offset cell, size_cells := by simp [c.size_cells] }

/-- The canvas with some cells made the rest of a wide one. -/
def cover (c : Canvas) (style : Style) (offset : Nat) : Nat → Canvas
  | 0 => c
  | count + 1 => (c.put offset ⟨"", style⟩).cover style (offset + 1) count

/-- Writes graphemes from an offset on, up to the offset `stop`. -/
def drawFrom (style : Style) (stop : Nat) : List Grapheme → Nat → Canvas → Canvas
  | [], _, c => c
  | g :: rest, offset, c =>
    if stop ≤ offset then c
    else
      match g.width with
      | 0 => drawFrom style stop rest offset c
      | more + 1 =>
        drawFrom style stop rest (offset + g.width)
          ((c.put offset ⟨g.text, style⟩).cover style (offset + 1) (min more (stop - offset - 1)))

/-- Writes a text from the cell in column `x` of row `y` on; outside of the canvas nothing happens. -/
def draw (x y : Nat) (style : Style) (text : String) (c : Canvas) : Canvas :=
  if x < c.width && y < c.height then
    drawFrom style (min ((y + 1) * c.width + x) c.cells.size) (Text.graphemes text)
      (y * c.width + x) c
  else c

/-- The cell in column `x` of row `y`. -/
def cell? (c : Canvas) (x y : Nat) : Option Cell :=
  if x < c.width && y < c.height then c.cells[y * c.width + x]? else none

/-- The canvas with another one on it, whose corner is in column `x` of row `y`. -/
def paste (c : Canvas) (x y : Nat) (top : Canvas) : Canvas where
  width := c.width
  height := c.height
  cells := c.cells.mapIdx fun i cell =>
    let column := i % c.width
    let row := i / c.width
    if x ≤ column && y ≤ row then (top.cell? (column - x) (row - y)).getD cell else cell
  size_cells := by simp [c.size_cells]

/-- The cells of a row. -/
def row (c : Canvas) (y : Nat) : List Cell :=
  (c.cells.extract (y * c.width) ((y + 1) * c.width)).toList

/-- The text of each row. -/
def rows (c : Canvas) : List String :=
  (List.range c.height).map fun y => String.join ((c.row y).map (·.text))

/-- The stretches of equal style in each row, with their lengths. -/
def styleRuns (c : Canvas) : List (List (Nat × Style)) :=
  (List.range c.height).map fun y =>
    (((c.row y).map (·.style)).splitBy (· == ·)).filterMap fun run =>
      run.head?.map fun style => (run.length, style)

end Canvas

end DebugConsole
