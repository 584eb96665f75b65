import DebugConsole.Machine.Registers
import DebugConsole.Screen.Palette
import DebugConsole.Text.Blank

/-!
# The parts of the screen

* `Pane.frame`: a border with a title around a smaller canvas.
* `Pane.log`: the newest lines of the log that fit, the newest at the bottom.
* `Pane.registers`: the registers and flags; what changed since the snapshot before stands out.
* `Pane.prompt`, `Pane.status`: the line being typed, and where the machine stands.
* `LogView`: a drawn log pane that is drawn again only when the log has changed.
-/

namespace DebugConsole

namespace Pane

/-! ## Frames -/

/-- A horizontal border with its corners. -/
def border (left right : String) (width : Nat) : Canvas :=
  let line := String.ofList (List.replicate (width - 2) '━')
  Canvas.blank width 1 Palette.normal
    |>.draw 0 0 Palette.normal left
    |>.draw 1 0 Palette.normal line
    |>.draw (width - 1) 0 Palette.normal right

/-- A vertical border. -/
def side (height : Nat) : Canvas :=
  (List.range height).foldl (fun c y => c.draw 0 y Palette.normal "┃")
    (Canvas.blank 1 height Palette.normal)

/-- The size that a frame leaves for what is inside. -/
def inner (size : Nat) : Nat :=
  size - 2

/-- A canvas in a frame; the title starts in the third cell of the upper border. -/
def frame (title : String) (width height : Nat) (inside : Canvas) : Canvas :=
  Canvas.blank width height Palette.normal
    |>.paste 0 (height - 1) (border "┗" "┛" width)
    |>.paste 0 1 (side (inner height))
    |>.paste (width - 1) 1 (side (inner height))
    |>.paste 1 1 inside
    |>.paste 0 0 ((border "┏" "┓" width).draw 2 0 Palette.normal title)

/-! ## The log -/

/-- The last lines of a log that fit a height. -/
def tail (entries : List Entry) (height : Nat) : List Entry :=
  entries.drop (entries.length - height)

/-- The tail of the log, one line a row. -/
def log (width height : Nat) (entries : List Entry) : Canvas :=
  (tail entries height).zipIdx.foldl
    (fun c (e, y) => c.draw 0 y (Palette.ofSeverity e.severity) e.text)
    (Canvas.blank width height Palette.normal)

/-! ## The registers -/

/-- The registers of each column, top to bottom. -/
def registerColumns : List (List Register) :=
  [[.eax, .ebx, .ecx, .edx], [.esi, .edi, .ebp, .esp], [.cs, .ds, .es, .ss],
   [.fs, .gs, .eip, .flags]]

/-- A register with its value, as wide as the register. -/
def registerText (r : Registers) (register : Register) : String :=
  register.name ++ "="
    ++ Text.hex (if register.isSegment then 4 else 8) (r.get register).toNat

/-- A flag with its value. -/
def flagText (r : Registers) (f : Flag) : String :=
  .ofList [f.letter, '=', if r.has f then '1' else '0']

/-- A text that is to be drawn in a place. -/
structure Label where
  x : Nat
  y : Nat
  style : Style
  text : String

/-- Draws labels, in order. -/
def drawLabels (labels : List Label) (c : Canvas) : Canvas :=
  labels.foldl (fun c l => c.draw l.x l.y l.style l.text) c

/-- The labels of the registers, column by column, in a pane of some width. -/
def registerLabels (width : Nat) (previous current : Registers) : List Label :=
  registerColumns.zipIdx.flatMap fun (column, x) =>
    column.zipIdx.map fun (register, y) =>
      let style :=
        if current.get register = previous.get register then Palette.normal else Palette.changed
      ⟨x * (width / registerColumns.length), y, style, registerText current register⟩

/-- The labels of the flags, in the row below the registers. -/
def flagLabels (previous current : Registers) : List Label :=
  Flag.listed.zipIdx.map fun (f, i) =>
    let style := if current.has f = previous.has f then Palette.caption else Palette.changed
    ⟨4 * i, 4, style, flagText current f⟩

/-- The registers and flags of a snapshot, compared with the snapshot before. -/
def registers (width height : Nat) (previous current : Registers) : Canvas :=
  Canvas.blank width height Palette.normal
    |> drawLabels (registerLabels width previous current)
    |> drawLabels (flagLabels previous current)

/-! ## The lines at the bottom -/

/-- The line being typed. -/
def prompt (width height : Nat) (input : String) : Canvas :=
  Canvas.blank width height Palette.normal
    |>.draw 0 0 Palette.caption ">"
    |>.draw 2 0 Palette.normal input

/-- The first line of a text. -/
def firstLine (s : String) : String :=
  (Text.lines s).headD ""

/-- The status bar. -/
def status (width height : Nat) (text : String) : Canvas :=
  Canvas.blank width height Palette.status |>.draw 0 0 Palette.status (firstLine text)

end Pane

/-- A log pane as it was drawn, with the revision of the log it shows. -/
structure LogView where
  revision : UInt64
  picture : Canvas

namespace LogView

/-- The log pane drawn afresh. -/
def draw (width height : Nat) (h : History) : LogView :=
  ⟨h.revision, Pane.log width height h.entries⟩

/-- The log pane after the log may have changed; the same revision is not drawn again. -/
def refresh (v : LogView) (h : History) : LogView :=
  if v.revision = h.revision then v else draw v.picture.width v.picture.height h

end LogView

end DebugConsole
