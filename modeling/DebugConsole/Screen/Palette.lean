import DebugConsole.Log
import DebugConsole.Screen.Canvas

/-!
# The colours of the screen
-/

namespace DebugConsole.Palette

/-- The background of the status bar. -/
def slate : Colour := ⟨33, 34, 44⟩

/-- The background of everything else. -/
def dark : Colour := ⟨14, 20, 25⟩

/-- The usual foreground. -/
def grey : Colour := ⟨224, 224, 224⟩

/-- Ordinary text and frames. -/
def normal : Style := ⟨dark, grey⟩

/-- Text that is less important. -/
def caption : Style := ⟨dark, ⟨127, 109, 92⟩⟩

/-- Values that differ from the snapshot before. -/
def changed : Style := ⟨dark, ⟨170, 170, 255⟩⟩

/-- Warnings. -/
def warning : Style := ⟨dark, ⟨241, 250, 140⟩⟩

/-- Errors. -/
def failure : Style := ⟨dark, ⟨255, 0, 127⟩⟩

/-- The status bar. -/
def status : Style := ⟨slate, grey⟩

/-- The style of a line of the log. -/
def ofSeverity : Severity → Style
  | .debug => caption
  | .info => normal
  | .warn => warning
  | .error => failure

end DebugConsole.Palette
