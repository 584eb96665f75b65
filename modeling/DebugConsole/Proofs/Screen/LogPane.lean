import DebugConsole.Proofs.Log.Newest
import DebugConsole.Proofs.Screen.Drawing
import DebugConsole.Screen.App

/-!
# The log pane

The log pane is never stale, and it shows the newest lines (`rendered_log_is_current`).

- **Lines** (`row_drawLines`, `row_drawLines_of_not_mem`): a line of the log takes one row, in the
  style of its severity, and leaves the other rows alone.
- **The tail** (`ShowsTail`): what a log pane shows of the lines, row by row.
- **One rendering** (`refresh_draw`): a pane that is not drawn again would be drawn the same, since
  its revision comes again only if nothing was written in between.
- **All steps** (`Lags.run`): output only adds to what the pane has not shown yet, and a rendering
  shows all of it. The front end takes these steps when it logs output (`ofApp_log`).
-/

namespace DebugConsole

namespace Pane

/-! ## Lines -/

/-- The row of a line of the log: its text in the style of its severity, cut off at the edge of the
pane, and blanks behind it. -/
def lineCells (width : Nat) (e : Entry) : List Cell :=
  Canvas.overlay (Text.cells (Palette.ofSeverity e.severity) e.text)
    (List.replicate width ⟨" ", Palette.normal⟩)

/-- Draws lines of the log from a row on, one line a row. -/
def drawLines (entries : List Entry) (first : Nat) (c : Canvas) : Canvas :=
  (entries.zipIdx first).foldl
    (fun c (e, y) => c.draw 0 y (Palette.ofSeverity e.severity) e.text) c

variable {c : Canvas} {width height : Nat}

theorem drawLines_cons (e : Entry) (rest : List Entry) (first : Nat) (c : Canvas) :
    drawLines (e :: rest) first c =
      drawLines rest (first + 1) (c.draw 0 first (Palette.ofSeverity e.severity) e.text) :=
  rfl

theorem log_eq_drawLines (width height : Nat) (entries : List Entry) :
    log width height entries =
      drawLines (tail entries height) 0 (Canvas.blank width height Palette.normal) :=
  rfl

theorem sameSize_drawLines (entries : List Entry) (first : Nat) (c : Canvas) :
    c.SameSize (drawLines entries first c) := by
  induction entries generalizing first c with
  | nil => exact .refl c
  | cons e rest ih => exact (c.sameSize_draw 0 first _ e.text).trans (ih (first + 1) _)

/-- The rows above and below the lines stay. -/
theorem row_drawLines_of_not_mem (entries : List Entry) {first y : Nat}
    (hfit : first + entries.length ≤ c.height) (hy : y < c.height)
    (hout : y < first ∨ first + entries.length ≤ y) :
    (drawLines entries first c).row y = c.row y := by
  induction entries generalizing first c with
  | nil => rfl
  | cons e rest ih =>
    rw [List.length_cons] at hfit hout
    have hheight := (c.sameSize_draw 0 first (Palette.ofSeverity e.severity) e.text).height
    rw [drawLines_cons, ih (by omega) (by omega) (by omega), Canvas.row_draw (by omega) hy,
      if_neg (by omega)]

theorem row_drawLines {entries : List Entry} {first i : Nat} {e : Entry}
    (hfit : first + entries.length ≤ c.height) (he : entries[i]? = some e) :
    (drawLines entries first c).row (first + i) =
      Canvas.overlay (Text.cells (Palette.ofSeverity e.severity) e.text) (c.row (first + i)) := by
  induction entries generalizing first c i with
  | nil => simp at he
  | cons next rest ih =>
    rw [List.length_cons] at hfit
    have hheight := (c.sameSize_draw 0 first (Palette.ofSeverity next.severity) next.text).height
    rw [drawLines_cons]
    cases i with
    | zero =>
      obtain rfl : next = e := by simpa using he
      -- The lines below do not touch this row again.
      rw [row_drawLines_of_not_mem rest (by omega) (by omega) (by omega),
        Canvas.row_draw (by omega) (by omega), if_pos (by omega)]
      rfl
    | succ i =>
      rw [List.getElem?_cons_succ] at he
      have hi : i < rest.length := (List.getElem?_eq_some_iff.mp he).1
      have hindex : first + (i + 1) = first + 1 + i := by omega
      rw [hindex, ih (by omega) he, Canvas.row_draw (by omega) (by omega), if_neg (by omega)]

/-! ## The tail -/

theorem length_tail (entries : List Entry) (height : Nat) :
    (tail entries height).length = min entries.length height := by
  rw [tail, List.length_drop]
  omega

theorem getElem?_tail (entries : List Entry) (height y : Nat) :
    (tail entries height)[y]? =
      entries[entries.length - min entries.length height + y]? := by
  have hindex : entries.length - height = entries.length - min entries.length height := by omega
  rw [tail, List.getElem?_drop, hindex]

/-- A picture of a size shows the last of some lines, as many as it has rows: one line a row, in
order, the newest one in the lowest of these rows. The rows below are blank. -/
structure ShowsTail (width height : Nat) (entries : List Entry) (picture : Canvas) : Prop where
  width_eq : picture.width = width
  height_eq : picture.height = height
  lines : ∀ y < min entries.length height, ∃ e,
    entries[entries.length - min entries.length height + y]? = some e ∧
      picture.row y = lineCells width e
  newest : ∀ e, entries.getLast? = some e → 0 < height →
    picture.row (min entries.length height - 1) = lineCells width e
  blank : ∀ y, min entries.length height ≤ y → y < height →
    picture.row y = List.replicate width ⟨" ", Palette.normal⟩

theorem showsTail_log (width height : Nat) (entries : List Entry) :
    ShowsTail width height entries (log width height entries) := by
  obtain ⟨hwidth, hheight⟩ :=
    sameSize_drawLines (tail entries height) 0 (Canvas.blank width height Palette.normal)
  have hlength := length_tail entries height
  have hfit : 0 + (tail entries height).length ≤
      (Canvas.blank width height Palette.normal).height := by
    change 0 + (tail entries height).length ≤ height
    omega
  have hline (y : Nat) (e : Entry) (he : (tail entries height)[y]? = some e) :
      (log width height entries).row y = lineCells width e := by
    have hy : y < (tail entries height).length := (List.getElem?_eq_some_iff.mp he).1
    have hrow := row_drawLines hfit he
    rwa [Nat.zero_add, Canvas.row_blank (by omega), ← log_eq_drawLines] at hrow
  refine ⟨hwidth, hheight, fun y hy => ?_, fun e he hpos => ?_, fun y hbelow hy => ?_⟩
  · have he := List.getElem?_eq_getElem (by omega : y < (tail entries height).length)
    exact ⟨_, getElem?_tail entries height y ▸ he, hline y _ he⟩
  · have hne : 0 < entries.length := List.length_pos_of_mem (List.mem_of_getLast? he)
    have hindex : entries.length - min entries.length height + (min entries.length height - 1) =
      entries.length - 1 := by omega
    refine hline _ e ?_
    rw [getElem?_tail, hindex, ← List.getLast?_eq_getElem?, he]
  · rw [log_eq_drawLines, row_drawLines_of_not_mem _ hfit hy (by omega), Canvas.row_blank hy]

example : (log 3 1 [⟨.error, "x"⟩, ⟨.warn, "ab"⟩]).row 0 =
    [⟨"a", Palette.warning⟩, ⟨"b", Palette.warning⟩, ⟨" ", Palette.normal⟩] := by
  decide +kernel

end Pane

namespace LogView

/-! ## One rendering -/

theorem refresh_draw {h : History} {bound : Nat} {seen more : List Output}
    (hholds : h.Holds bound seen) (hmore : more.length < 2 ^ 64) (width height : Nat) :
    (draw width height h).refresh (h.writeAll more) = draw width height (h.writeAll more) := by
  have hshows := Pane.showsTail_log width height h.entries
  unfold refresh
  split
  · next hrevision =>
    -- Nothing was written, so the old picture is the new one.
    rw [hholds.eq_nil_of_revision_eq hmore hrevision.symm]
    rfl
  · change draw (Pane.log width height h.entries).width (Pane.log width height h.entries).height
      (h.writeAll more) = _
    rw [hshows.width_eq, hshows.height_eq]

/-! ## All steps -/

/-- What happens to a log and its pane: output is written, or the screen is rendered. -/
inductive Step where
  | write (o : Output)
  | render

/-- What is written in some steps. -/
def written (steps : List Step) : List Output :=
  steps.filterMap fun
    | .write o => some o
    | .render => none

/-- A log and its pane. -/
structure Shown where
  history : History
  view : LogView

namespace Shown

/-- The log and its pane after one more step. -/
def step (s : Shown) : Step → Shown
  | .write o => { s with history := s.history.write o }
  | .render => { s with view := s.view.refresh s.history }

/-- The log and its pane after some steps, in order. -/
def run (s : Shown) (steps : List Step) : Shown :=
  steps.foldl step s

theorem run_write (h : History) (view : LogView) (output : List Output) :
    run ⟨h, view⟩ (output.map .write) = ⟨h.writeAll output, view⟩ := by
  induction output generalizing h with
  | nil => rfl
  | cons o rest ih => exact ih (h.write o)

/-- The log of the screen front end and its pane. -/
def ofApp (a : App) : Shown :=
  ⟨a.history, a.logView⟩

/-- The screen front end logs some output by writing all of it and rendering once. -/
theorem ofApp_log (a : App) (output : List Output) :
    ofApp (a.log output) = (ofApp a).run (output.map .write ++ [.render]) := by
  have hwritten := run_write a.history a.logView output
  unfold ofApp run at *
  rw [List.foldl_append, hwritten]
  rfl

end Shown

/-- The pane shows what the log was after the first part of its output; the rest is not shown
yet. -/
structure Lags (width height capacity : Nat) (seen unseen : List Output) (s : Shown) : Prop where
  view : s.view = draw width height ((History.empty capacity).writeAll seen)
  history : s.history = (History.empty capacity).writeAll (seen ++ unseen)

variable {width height capacity : Nat} {seen unseen : List Output} {s : Shown}

theorem Lags.write (hlags : Lags width height capacity seen unseen s) (o : Output) :
    Lags width height capacity seen (unseen ++ [o]) (s.step (.write o)) := by
  refine ⟨hlags.view, ?_⟩
  change s.history.write o = _
  rw [hlags.history, ← List.append_assoc, History.writeAll_append _ (seen ++ unseen)]
  rfl

theorem Lags.render (hlags : Lags width height capacity seen unseen s)
    (hunseen : unseen.length < 2 ^ 64) :
    Lags width height capacity (seen ++ unseen) [] (s.step .render) := by
  refine ⟨?_, by rw [List.append_nil]; exact hlags.history⟩
  change s.view.refresh s.history = _
  rw [hlags.view, hlags.history, History.writeAll_append]
  exact refresh_draw ((History.holds_empty capacity).writeAll seen) hunseen width height

theorem Lags.run (hlags : Lags width height capacity seen unseen s) (steps : List Step)
    (hsteps : unseen.length + (written steps).length < 2 ^ 64) :
    ∃ seen' unseen', seen' ++ unseen' = seen ++ unseen ++ written steps ∧
      unseen'.length < 2 ^ 64 ∧ Lags width height capacity seen' unseen' (s.run steps) := by
  -- A rendering empties `unseen`, so what is written is counted once, at the most.
  induction steps generalizing seen unseen s with
  | nil => exact ⟨seen, unseen, (List.append_nil _).symm, hsteps, hlags⟩
  | cons step rest ih =>
    cases step with
    | write o =>
      have hwritten : written (.write o :: rest) = [o] ++ written rest := rfl
      rw [hwritten, List.length_append] at hsteps
      obtain ⟨seen', unseen', hall, hunseen', hlags'⟩ :=
        ih (hlags.write o) (by rw [List.length_append]; omega)
      refine ⟨seen', unseen', ?_, hunseen', hlags'⟩
      rw [hall, hwritten, List.append_assoc, List.append_assoc, List.append_assoc]
    | render =>
      have hwritten : written (.render :: rest) = written rest := rfl
      rw [hwritten] at hsteps
      obtain ⟨seen', unseen', hall, hunseen', hlags'⟩ :=
        ih (hlags.render (by omega)) (by rw [List.length_nil]; omega)
      refine ⟨seen', unseen', ?_, hunseen', hlags'⟩
      rw [hall, List.append_nil, hwritten]

/-- Whatever is written and rendered in whatever order, fewer than 2^64 lines and wishes to clear
since the pane was first drawn: a rendering leaves the pane as it is drawn afresh from the log that
has taken all of the output. It shows the newest lines, as many as fit into a pane of any size, in
order and each in the style of its severity. A front end with this log and this pane takes more of
these steps when it logs output, and renders last. -/
theorem rendered_log_is_current (capacity width height : Nat) (before : List Output)
    (steps : List Step) (hsteps : (written steps).length < 2 ^ 64) :
    let first := (History.empty capacity).writeAll before
    let shown := Shown.run ⟨first, draw width height first⟩ (steps ++ [.render])
    shown.history = (History.empty capacity).writeAll (before ++ written steps) ∧
    shown.view = draw width height shown.history ∧
    Pane.ShowsTail width height shown.history.entries shown.view.picture ∧
    ∀ (a : App) (output : List Output), Shown.ofApp a = shown →
      Shown.ofApp (a.log output) = shown.run (output.map .write ++ [.render]) := by
  intro first shown
  have hdrawn : Lags width height capacity before [] ⟨first, draw width height first⟩ :=
    ⟨rfl, by rw [List.append_nil]⟩
  obtain ⟨seen, unseen, hall, hunseen, hlags⟩ :=
    hdrawn.run steps (by rwa [List.length_nil, Nat.zero_add])
  have hlast : shown = (Shown.run ⟨first, draw width height first⟩ steps).step .render := by
    change Shown.run _ (steps ++ [.render]) = _
    rw [Shown.run, List.foldl_append]
    rfl
  obtain ⟨hview, hhistory⟩ := hlags.render hunseen
  rw [List.append_nil] at hall hhistory
  rw [← hlast] at hview hhistory
  rw [hall] at hview hhistory
  rw [hview, hhistory]
  exact ⟨rfl, rfl, Pane.showsTail_log .., fun a output ha => ha ▸ Shown.ofApp_log a output⟩

/-- A log of one line, in a pane of two rows: the pane is drawn for a line, left as it is by the
second rendering, and drawn for what comes after a wish to clear. -/
theorem rendered_log_is_current_cleared :
    let first := (History.empty 1).writeAll [.debug "> g"]
    let steps : List Step :=
      [.write (.error "no host"), .render, .render, .write .clear, .write (.info "ready")]
    let shown := Shown.run ⟨first, draw 12 2 first⟩ (steps ++ [.render])
    (written steps).length < 2 ^ 64 ∧ shown.history.entries = [⟨.info, "ready"⟩] ∧
      shown.view = draw 12 2 shown.history ∧
      shown.view.picture.row 0 =
        [⟨"r", Palette.normal⟩, ⟨"e", Palette.normal⟩, ⟨"a", Palette.normal⟩,
          ⟨"d", Palette.normal⟩, ⟨"y", Palette.normal⟩] ++
        List.replicate 7 ⟨" ", Palette.normal⟩ ∧
      shown.view.picture.row 1 = List.replicate 12 ⟨" ", Palette.normal⟩ := by
  intro first steps shown
  have hsteps : (written steps).length < 2 ^ 64 := by decide
  obtain ⟨hhistory, hview, hshows, -⟩ :=
    rendered_log_is_current 1 12 2 [.debug "> g"] steps hsteps
  have hentries : shown.history.entries = [⟨.info, "ready"⟩] := congrArg History.entries hhistory
  have htail : Pane.ShowsTail 12 2 [⟨.info, "ready"⟩] shown.view.picture := hentries ▸ hshows
  have hrow := htail.newest _ rfl (by decide)
  exact ⟨hsteps, hentries, hview, hrow.trans (by decide +kernel),
    htail.blank 1 (by decide) (by decide)⟩

end LogView

end DebugConsole
