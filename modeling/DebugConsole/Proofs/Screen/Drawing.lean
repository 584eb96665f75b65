import DebugConsole.Screen.Canvas

/-!
# Drawing

What a drawn text leaves on a canvas, cell by cell and row by row.

- **Cells** (`Text.cells`): the cells that a text takes if there is room.
- **Drawing** (`getElem?_drawFrom`): each cell of the text replaces the one in its place, up to
  where the text is cut off; all others stay.
- **Rows** (`row_draw`): a text that starts in the first column stays in its row.
- **Pasting** (`cell?_paste_inside`, `cell?_paste_outside`): a canvas on another one shows all of its
  cells that there is room for, and covers nothing above or below it.
-/

namespace DebugConsole

/-! ## Cells -/

/-- The cells that a grapheme takes: its text in the first one, and nothing in the others. -/
def Grapheme.cells (style : Style) (g : Grapheme) : List Cell :=
  match g.width with
  | 0 => []
  | more + 1 => ⟨g.text, style⟩ :: List.replicate more ⟨"", style⟩

/-- The cells that a text takes, one grapheme after the other. -/
def Text.cells (style : Style) (s : String) : List Cell :=
  (graphemes s).flatMap (Grapheme.cells style)

namespace Canvas

variable {c : Canvas} {style : Style}

/-! ## Drawing -/

@[simp] theorem size_put (c : Canvas) (offset : Nat) (cell : Cell) :
    (c.put offset cell).cells.size = c.cells.size := by
  simp [put]

theorem getElem?_put {offset : Nat} (h : offset < c.cells.size) (cell : Cell) (j : Nat) :
    (c.put offset cell).cells[j]? = if j = offset then some cell else c.cells[j]? := by
  simp only [put, Array.getElem?_setIfInBounds, h, if_true, eq_comm]

/-- The canvases of one size. -/
structure SameSize (c c' : Canvas) : Prop where
  width : c'.width = c.width
  height : c'.height = c.height

namespace SameSize

variable {c' c'' : Canvas}

theorem refl (c : Canvas) : c.SameSize c :=
  ⟨rfl, rfl⟩

theorem trans (h : c.SameSize c') (h' : c'.SameSize c'') : c.SameSize c'' :=
  ⟨h'.width.trans h.width, h'.height.trans h.height⟩

theorem size_cells (h : c.SameSize c') : c'.cells.size = c.cells.size := by
  rw [c.size_cells, c'.size_cells, h.width, h.height]

end SameSize

theorem sameSize_put (c : Canvas) (offset : Nat) (cell : Cell) : c.SameSize (c.put offset cell) :=
  ⟨rfl, rfl⟩

theorem sameSize_cover (c : Canvas) (style : Style) (offset count : Nat) :
    c.SameSize (c.cover style offset count) := by
  induction count generalizing c offset with
  | zero => exact .refl c
  | succ count ih => exact (c.sameSize_put offset _).trans (ih _ (offset + 1))

theorem getElem?_cover {offset count : Nat} (h : offset + count ≤ c.cells.size) (j : Nat) :
    (c.cover style offset count).cells[j]? =
      if offset ≤ j ∧ j < offset + count then some ⟨"", style⟩ else c.cells[j]? := by
  induction count generalizing c offset with
  | zero => rw [cover, if_neg (by omega)]
  | succ count ih =>
    rw [cover, ih (by rw [size_put]; omega), getElem?_put (by omega)]
    by_cases hfirst : j = offset
    · rw [if_neg (by omega), if_pos hfirst, if_pos (by omega)]
    · simp only [if_neg hfirst]
      congr 1
      simp only [eq_iff_iff]
      omega

/-- A grapheme and what it covers, up to where the text is cut off. -/
theorem getElem?_grapheme {g : Grapheme} {more : Nat} (hwidth : g.width = more + 1)
    {offset stop : Nat} (hoffset : offset < stop) (hstop : stop ≤ c.cells.size) (j : Nat) :
    ((c.put offset ⟨g.text, style⟩).cover style (offset + 1)
      (min more (stop - offset - 1))).cells[j]? =
      if offset ≤ j ∧ j < stop then ((g.cells style)[j - offset]?).or c.cells[j]?
      else c.cells[j]? := by
  have hcells : g.cells style = ⟨g.text, style⟩ :: List.replicate more ⟨"", style⟩ := by
    rw [Grapheme.cells, hwidth]
  rw [getElem?_cover (by rw [size_put]; omega), getElem?_put (by omega), hcells]
  rcases Nat.lt_trichotomy j offset with hbefore | rfl | hbehind
  · rw [if_neg (by omega), if_neg (by omega), if_neg (by omega)]
  · rw [if_neg (by omega), if_pos rfl, if_pos (by omega), Nat.sub_self]
    rfl
  · obtain ⟨k, rfl⟩ : ∃ k, j = offset + 1 + k := ⟨j - (offset + 1), by omega⟩
    have hindex : offset + 1 + k - offset = k + 1 := by omega
    rw [if_neg (by omega : ¬ offset + 1 + k = offset), hindex, List.getElem?_cons_succ,
      List.getElem?_replicate]
    by_cases hmore : k < more <;> by_cases hcut : offset + 1 + k < stop
    · rw [if_pos (by omega), if_pos (by omega), if_pos hmore]
      rfl
    · rw [if_neg (by omega), if_neg (by omega)]
    · rw [if_neg (by omega), if_pos (by omega), if_neg hmore]
      rfl
    · rw [if_neg (by omega), if_neg (by omega)]

theorem sameSize_drawFrom (c : Canvas) (style : Style) (stop : Nat) (items : List Grapheme)
    (offset : Nat) : c.SameSize (drawFrom style stop items offset c) := by
  induction items generalizing c offset with
  | nil => exact .refl c
  | cons g rest ih =>
    unfold drawFrom
    split
    · exact .refl c
    · split
      · exact ih c offset
      · exact ((c.sameSize_put offset _).trans (sameSize_cover ..)).trans (ih _ (offset + g.width))

/-- Each cell of the text replaces the one in its place, up to where the text is cut off. -/
theorem getElem?_drawFrom {stop : Nat} (hstop : stop ≤ c.cells.size) (items : List Grapheme)
    (offset j : Nat) : (drawFrom style stop items offset c).cells[j]? =
      if offset ≤ j ∧ j < stop then
        ((items.flatMap (Grapheme.cells style))[j - offset]?).or c.cells[j]?
      else c.cells[j]? := by
  induction items generalizing c offset with
  | nil => simp [drawFrom]
  | cons g rest ih =>
    rw [List.flatMap_cons]
    by_cases hoffset : stop ≤ offset
    · rw [drawFrom, if_pos hoffset, if_neg (by omega)]
    rw [drawFrom, if_neg hoffset]
    split
    case h_1 hwidth =>
      have hcells : g.cells style = [] := by rw [Grapheme.cells, hwidth]
      rw [ih hstop, hcells, List.nil_append]
    case h_2 more hwidth =>
      have hlength : (g.cells style).length = g.width := by
        rw [Grapheme.cells, hwidth]
        simp
      have hsize := ((c.sameSize_put offset ⟨g.text, style⟩).trans
        (sameSize_cover _ style (offset + 1) (min more (stop - offset - 1)))).size_cells
      rw [ih (by rw [hsize]; exact hstop), getElem?_grapheme hwidth (by omega) hstop]
      by_cases hin : offset ≤ j ∧ j < stop
      case neg => rw [if_neg (by omega), if_neg hin, if_neg hin]
      rw [if_pos hin, if_pos hin]
      -- The cell is one of this grapheme, or one of the rest, which starts behind it.
      by_cases hbehind : offset + g.width ≤ j
      · have hindex : j - offset - g.width = j - (offset + g.width) := by omega
        rw [if_pos ⟨hbehind, hin.2⟩, List.getElem?_append_right (by omega), hlength, hindex,
          List.getElem?_eq_none (by omega : (g.cells style).length ≤ j - offset), Option.none_or]
      · rw [if_neg (by omega), List.getElem?_append_left (by omega)]

theorem sameSize_draw (c : Canvas) (x y : Nat) (style : Style) (text : String) :
    c.SameSize (c.draw x y style text) := by
  unfold draw
  split
  · exact sameSize_drawFrom ..
  · exact .refl c

theorem getElem?_draw {x y : Nat} (hx : x < c.width) (hy : y < c.height) (text : String)
    (j : Nat) : (c.draw x y style text).cells[j]? =
      if y * c.width + x ≤ j ∧ j < min ((y + 1) * c.width + x) c.cells.size then
        ((Text.cells style text)[j - (y * c.width + x)]?).or c.cells[j]?
      else c.cells[j]? := by
  rw [draw, if_pos (by simp [hx, hy]), getElem?_drawFrom (Nat.min_le_right ..)]
  rfl

/-! ## Rows -/

theorem getElem?_row (c : Canvas) (y x : Nat) :
    (c.row y)[x]? = if x < c.width then c.cells[y * c.width + x]? else none := by
  have hnext : (y + 1) * c.width = y * c.width + c.width := Nat.succ_mul ..
  rw [row, Array.getElem?_toList, Array.getElem?_extract]
  by_cases hx : x < c.width
  · rw [if_pos hx]
    split
    · rfl
    · exact (Array.getElem?_eq_none (by omega)).symm
  · rw [if_neg hx, if_neg (by omega)]

theorem row_end_le_size {y : Nat} (hy : y < c.height) : (y + 1) * c.width ≤ c.cells.size := by
  rw [c.size_cells, Nat.mul_comm c.width]
  exact Nat.mul_le_mul_right _ hy

theorem getElem?_row_eq_cell? {y : Nat} (hy : y < c.height) (x : Nat) :
    (c.row y)[x]? = c.cell? x y := by
  simp [getElem?_row, cell?, hy]

theorem length_row {y : Nat} (hy : y < c.height) : (c.row y).length = c.width := by
  rw [row, Array.length_toList, Array.size_extract, Nat.min_eq_left (row_end_le_size hy),
    Nat.succ_mul, Nat.add_sub_cancel_left]

theorem row_blank {width height y : Nat} (hy : y < height) :
    (blank width height style).row y = List.replicate width ⟨" ", style⟩ := by
  have hlength := length_row (c := blank width height style) hy
  rw [row, blank, Array.extract_replicate, Array.toList_replicate] at hlength ⊢
  rw [List.length_replicate] at hlength
  rw [hlength]

/-- The cells of a row are those between its ends. -/
theorem between_row_ends_iff {width x : Nat} (hx : x < width) (y z : Nat) :
    y * width ≤ z * width + x ∧ z * width + x < (y + 1) * width ↔ z = y := by
  have hdiv : (z * width + x) / width = z := by
    rw [Nat.add_comm, Nat.add_mul_div_right _ _ (by omega), Nat.div_eq_of_lt hx, Nat.zero_add]
  constructor
  · rintro ⟨hfirst, hlast⟩
    rw [← hdiv, Nat.div_eq_of_lt_le hfirst hlast]
  · rintro rfl
    rw [Nat.succ_mul]
    omega

/-- A row with cells written over its beginning; what does not fit is cut off. -/
def overlay (cells row : List Cell) : List Cell :=
  cells.take row.length ++ row.drop cells.length

theorem getElem?_overlay {cells row : List Cell} {x : Nat} (hx : x < row.length) :
    (overlay cells row)[x]? = (cells[x]?).or row[x]? := by
  unfold overlay
  by_cases hcell : x < cells.length
  · rw [List.getElem?_append_left (by rw [List.length_take]; omega), List.getElem?_take_of_lt hx,
      List.getElem?_eq_getElem hcell, Option.some_or]
  · have hindex : cells.length + (x - cells.length) = x := by omega
    rw [List.getElem?_append_right (by rw [List.length_take]; omega), List.length_take,
      Nat.min_eq_right (by omega), List.getElem?_drop, hindex,
      List.getElem?_eq_none (by omega : cells.length ≤ x), Option.none_or]

theorem length_overlay (cells row : List Cell) : (overlay cells row).length = row.length := by
  rw [overlay, List.length_append, List.length_take, List.length_drop]
  omega

/-- A text that starts in the first column stays in its row. -/
theorem row_draw {y z : Nat} (hy : y < c.height) (hz : z < c.height) (text : String) :
    (c.draw 0 y style text).row z =
      if z = y then overlay (Text.cells style text) (c.row y) else c.row z := by
  obtain ⟨hwidth, hheight⟩ := sameSize_draw c 0 y style text
  refine List.ext_getElem? fun x => ?_
  by_cases hx : x < c.width
  case neg =>
    rw [List.getElem?_eq_none (by rw [length_row (by omega)]; omega), List.getElem?_eq_none]
    split
    · rw [length_overlay, length_row hy]
      omega
    · rw [length_row hz]
      omega
  -- In the first column the text is cut off at the end of its row.
  rw [getElem?_row, hwidth, if_pos hx, getElem?_draw (by omega) hy, Nat.add_zero, Nat.add_zero,
    Nat.min_eq_left (row_end_le_size hy)]
  simp only [between_row_ends_iff hx]
  split
  · next h =>
    have hindex : z * c.width + x - y * c.width = x := by rw [h, Nat.add_sub_cancel_left]
    rw [getElem?_overlay (by rwa [length_row hy]), getElem?_row, if_pos hx, hindex, h]
  · rw [getElem?_row, if_pos hx]

/-! ## Pasting -/

theorem cell?_eq_some {x y : Nat} (hx : x < c.width) (hy : y < c.height) :
    ∃ cell, c.cell? x y = some cell := by
  have hrow := row_end_le_size hy
  rw [Nat.succ_mul] at hrow
  have hindex : y * c.width + x < c.cells.size := by omega
  exact ⟨c.cells[y * c.width + x], by simp [cell?, hx, hy, hindex]⟩

theorem cell?_paste (c top : Canvas) (x y i j : Nat) :
    (c.paste x y top).cell? i j =
      if x ≤ i ∧ y ≤ j then
        (c.cell? i j).map fun cell => (top.cell? (i - x) (j - y)).getD cell
      else c.cell? i j := by
  by_cases hin : i < c.width ∧ j < c.height
  case neg => simp [cell?, paste, hin]
  have hcolumn : (j * c.width + i) % c.width = i := by
    rw [Nat.mul_add_mod_self_right, Nat.mod_eq_of_lt hin.1]
  have hrow : (j * c.width + i) / c.width = j := by
    rw [Nat.mul_comm, Nat.mul_add_div (by omega), Nat.div_eq_of_lt hin.1, Nat.add_zero]
  have hcell : (c.paste x y top).cell? i j =
      (c.cell? i j).map fun cell =>
        if x ≤ i && y ≤ j then (top.cell? (i - x) (j - y)).getD cell else cell := by
    simp only [cell?, paste, hin, decide_true, Bool.and_self, if_true, Array.getElem?_mapIdx,
      hcolumn, hrow]
  rw [hcell]
  by_cases hbehind : x ≤ i ∧ y ≤ j <;> simp [hbehind]

/-- A pasted canvas shows its cells. -/
theorem cell?_paste_inside {top : Canvas} {x y i j : Nat} (hi : i < top.width)
    (hj : j < top.height) (hx : x + i < c.width) (hy : y + j < c.height) :
    (c.paste x y top).cell? (x + i) (y + j) = top.cell? i j := by
  obtain ⟨below, hbelow⟩ := cell?_eq_some hx hy
  obtain ⟨cell, hcell⟩ := cell?_eq_some hi hj
  rw [cell?_paste, if_pos ⟨Nat.le_add_right x i, Nat.le_add_right y j⟩, hbelow,
    Nat.add_sub_cancel_left, Nat.add_sub_cancel_left, hcell]
  rfl

/-- A pasted canvas covers nothing in rows that it does not reach. -/
theorem cell?_paste_outside {top : Canvas} {x y i j : Nat} (h : j < y ∨ y + top.height ≤ j) :
    (c.paste x y top).cell? i j = c.cell? i j := by
  rw [cell?_paste]
  split
  case isTrue hbehind =>
    have hnone : top.cell? (i - x) (j - y) = none := by
      rw [cell?, if_neg (by simp only [Bool.and_eq_true, decide_eq_true_eq]; omega)]
    simp [hnone]
  case isFalse => rfl

end Canvas

end DebugConsole
