import Mathlib.Data.List.Basic
import DebugConsole.Proofs.Screen.Drawing
import DebugConsole.Screen.Pane

/-!
# Labels

Texts that are drawn beside each other on a canvas, none of which touches another one.

- **Plain texts** (`cells_plain`): a text of printable ASCII takes one cell for each character.
- **Spans** (`cellsIn_draw`, `cellsIn_draw_of_apart`): a text that fits into its row fills the cells
  from where it starts on, and leaves all others as they are.
- **Labels** (`cellsIn_drawLabels`): where no two of them have a cell in common, each is shown whole,
  in whatever order they are drawn.
-/

namespace DebugConsole

/-! ## Plain texts -/

namespace Text

/-- A character that is printed by itself: printable ASCII. -/
def isPlain (c : Char) : Bool :=
  ' ' ≤ c && c ≤ '~'

/-- What holds of the printable codes holds of every plain character. -/
theorem forall_isPlain {P : Char → Prop} (h : ∀ n < 95, P (Char.ofNat (32 + n))) (c : Char)
    (hc : isPlain c = true) : P c := by
  simp only [isPlain, Bool.and_eq_true, decide_eq_true_eq] at hc
  have hlow : 32 ≤ c.toNat := UInt32.le_iff_toNat_le.mp hc.1
  have hhigh : c.toNat ≤ 126 := UInt32.le_iff_toNat_le.mp hc.2
  have hcode := h (c.toNat - 32) (by omega)
  rwa [Nat.add_sub_cancel' hlow, Char.ofNat_toNat] at hcode

/-- Of two plain characters, the first does not take in the second. -/
theorem joins_plain {last c : Char} (hlast : isPlain last = true) (hc : isPlain c = true)
    (before : List Char) : joins last before c = false := by
  have hclass : ∀ c, isPlain c = true → isControl c = false ∧ isExtending c = false ∧
      isSpacing c = false ∧ isPrepending c = false ∧ isFlagHalf c = false ∧
      isConsonant c = false ∧ isPictograph c = false ∧ hangul? c = none :=
    forall_isPlain (by decide +kernel)
  obtain ⟨hcontrol, hextending, hspacing, -, hflag, hconsonant, hpictograph, hhangul⟩ := hclass c hc
  obtain ⟨hcontrol', -, -, hprepending, -⟩ := hclass last hlast
  simp [joins, hcontrol, hcontrol', hextending, hspacing, hprepending, hflag, hconsonant,
    hpictograph, hhangul]

theorem graphemesFrom_plain {last : Char} (hlast : isPlain last = true) {cs : List Char}
    (hcs : ∀ c ∈ cs, isPlain c = true) :
    graphemesFrom last [] cs = (last :: cs).map fun c => ⟨[c]⟩ := by
  induction cs generalizing last with
  | nil => rfl
  | cons c rest ih =>
    obtain ⟨hc, hrest⟩ := List.forall_mem_cons.mp hcs
    rw [graphemesFrom, joins_plain hlast hc, ih hc hrest]
    rfl

theorem graphemes_plain {s : String} (h : ∀ c ∈ s.toList, isPlain c = true) :
    graphemes s = s.toList.map fun c => ⟨[c]⟩ := by
  unfold graphemes
  cases hs : s.toList with
  | nil => rfl
  | cons c rest =>
    rw [hs, List.forall_mem_cons] at h
    exact graphemesFrom_plain h.1 h.2

/-- A plain text takes one cell for each character. -/
theorem cells_plain (style : Style) {s : String} (h : ∀ c ∈ s.toList, isPlain c = true) :
    cells style s = s.toList.map fun c => ⟨.ofList [c], style⟩ := by
  have hwidth : ∀ c, isPlain c = true → clusterWidth [c] = 1 := forall_isPlain (by decide +kernel)
  rw [cells, graphemes_plain h, List.flatMap_map, List.map_eq_flatMap]
  apply List.flatMap_congr
  intro c hc
  have hone : Grapheme.width ⟨[c]⟩ = 1 := hwidth c (h c hc)
  rw [Grapheme.cells, hone]
  rfl

end Text

/-! ## Spans -/

/-- Cells side by side in a row. -/
structure Span where
  x : Nat
  y : Nat
  length : Nat

namespace Span

/-- The span lies within a canvas of a size. -/
def Within (p : Span) (width height : Nat) : Prop :=
  p.x + p.length ≤ width ∧ p.y < height

/-- The spans have no cell in common. -/
def Apart (p q : Span) : Prop :=
  p.y = q.y → p.x + p.length ≤ q.x ∨ q.x + q.length ≤ p.x

end Span

namespace Canvas

variable {c : Canvas} {x y : Nat} {style : Style} {text : String} {p : Span}

/-- The cells of a span, as far as there are any. -/
def cellsIn (c : Canvas) (p : Span) : List Cell :=
  ((c.row p.y).drop p.x).take p.length

/-- What is to be read in a span. -/
def textIn (c : Canvas) (p : Span) : String :=
  String.join ((c.cellsIn p).map (·.text))

/-- A text stands in a span, whole: one character a cell, all of them in one style. -/
structure ShowsText (c : Canvas) (p : Span) (text : String) (style : Style) : Prop where
  within : p.Within c.width c.height
  cells : c.cellsIn p = text.toList.map fun letter => ⟨.ofList [letter], style⟩

theorem ShowsText.textIn_eq (h : c.ShowsText p text style) : c.textIn p = text := by
  rw [textIn, h.cells, ← String.toList_inj, String.toList_join]
  simp [List.flatMap_map]

theorem getElem?_cellsIn (c : Canvas) (p : Span) (i : Nat) :
    (c.cellsIn p)[i]? = if i < p.length then (c.row p.y)[p.x + i]? else none := by
  rw [cellsIn, List.getElem?_take, List.getElem?_drop]

/-- The letters of a text that stands in a span, one by one. -/
theorem ShowsText.cell? (h : c.ShowsText p text style) {i : Nat} (hi : i < p.length) :
    c.cell? (p.x + i) p.y = text.toList[i]?.map fun letter => ⟨.ofList [letter], style⟩ := by
  have hcell := congrArg (·[i]?) h.cells
  simp only [getElem?_cellsIn, hi, if_true, List.getElem?_map] at hcell
  rw [← getElem?_row_eq_cell? h.within.2, hcell]

/-- A text that fits into its row stays in it. -/
theorem getElem?_row_draw {z k : Nat} (hfit : x + (Text.cells style text).length ≤ c.width)
    (hy : y < c.height) (hk : k < c.width) :
    ((c.draw x y style text).row z)[k]? =
      if z = y ∧ x ≤ k then ((Text.cells style text)[k - x]?).or (c.row z)[k]?
      else (c.row z)[k]? := by
  by_cases hx : x < c.width
  case neg =>
    -- Then the text is empty, and nothing is drawn.
    rw [draw, if_neg (by simp [hx]), if_neg (by omega)]
  obtain ⟨hwidth, -⟩ := sameSize_draw c x y style text
  simp only [getElem?_row, hwidth, hk, if_true, getElem?_draw hx hy]
  have hnext : (y + 1) * c.width = y * c.width + c.width := Nat.succ_mul ..
  have hend := row_end_le_size hy
  rcases Nat.lt_trichotomy z y with hbefore | rfl | hbehind
  · have hrows : (z + 1) * c.width ≤ y * c.width := Nat.mul_le_mul_right _ hbefore
    rw [Nat.succ_mul] at hrows
    rw [if_neg (by omega), if_neg (by omega)]
  · by_cases hxk : x ≤ k
    · have hindex : z * c.width + k - (z * c.width + x) = k - x := by omega
      rw [if_pos (by omega), if_pos ⟨rfl, hxk⟩, hindex]
    · rw [if_neg (by omega), if_neg (by omega)]
  · -- A longer text would run on into the next row.
    have hrows : (y + 1) * c.width ≤ z * c.width := Nat.mul_le_mul_right _ hbehind
    rw [if_neg (by omega : ¬ (z = y ∧ x ≤ k)),
      List.getElem?_eq_none (by omega : _ ≤ z * c.width + k - (y * c.width + x)), Option.none_or,
      ite_self]

/-- A text that fits into its row is shown whole. -/
theorem cellsIn_draw (hp : p = ⟨x, y, (Text.cells style text).length⟩)
    (hwithin : p.Within c.width c.height) :
    (c.draw x y style text).cellsIn p = Text.cells style text := by
  subst hp
  obtain ⟨hfit, hy⟩ := hwithin
  apply List.ext_getElem?
  intro i
  rw [getElem?_cellsIn]
  split
  case isTrue hi =>
    simp only at hfit hy hi ⊢
    rw [getElem?_row_draw hfit hy (by omega), if_pos (by omega), Nat.add_sub_cancel_left,
      List.getElem?_eq_getElem hi, Option.some_or]
  case isFalse hi => exact (List.getElem?_eq_none (Nat.le_of_not_lt hi)).symm

/-- A text that fits into its row leaves the cells alone that it does not fill. -/
theorem cellsIn_draw_of_apart
    (hfit : Span.Within ⟨x, y, (Text.cells style text).length⟩ c.width c.height)
    (hwithin : p.Within c.width c.height)
    (hapart : p.Apart ⟨x, y, (Text.cells style text).length⟩) :
    (c.draw x y style text).cellsIn p = c.cellsIn p := by
  apply List.ext_getElem?
  intro i
  rw [getElem?_cellsIn, getElem?_cellsIn]
  split
  case isTrue hi =>
    unfold Span.Within at hfit hwithin
    unfold Span.Apart at hapart
    simp only at hfit hapart
    rw [getElem?_row_draw hfit.1 hfit.2 (by omega)]
    split
    case isTrue h =>
      have hbehind := hapart h.1
      rw [List.getElem?_eq_none (by omega), Option.none_or]
    case isFalse => rfl
  case isFalse => rfl

end Canvas

/-! ## Labels -/

namespace Pane

namespace Label

/-- The cells that a label takes. -/
def cells (l : Label) : List Cell :=
  Text.cells l.style l.text

/-- Where a label stands. -/
def span (l : Label) : Span :=
  ⟨l.x, l.y, l.cells.length⟩

end Label

variable {c : Canvas} {labels : List Label} {l : Label}

theorem Label.span_of_plain (h : ∀ c ∈ l.text.toList, Text.isPlain c = true) :
    l.span = ⟨l.x, l.y, l.text.toList.length⟩ := by
  rw [span, cells, Text.cells_plain _ h, List.length_map]

theorem sameSize_drawLabels (labels : List Label) (c : Canvas) :
    c.SameSize (drawLabels labels c) := by
  induction labels generalizing c with
  | nil => exact .refl c
  | cons l rest ih => exact (c.sameSize_draw l.x l.y l.style l.text).trans (ih _)

theorem cellsIn_drawLabels_of_apart {p : Span}
    (hlabels : ∀ l ∈ labels, l.span.Within c.width c.height) (hp : p.Within c.width c.height)
    (hapart : ∀ l ∈ labels, p.Apart l.span) : (drawLabels labels c).cellsIn p = c.cellsIn p := by
  induction labels generalizing c with
  | nil => rfl
  | cons l rest ih =>
    obtain ⟨hwidth, hheight⟩ := c.sameSize_draw l.x l.y l.style l.text
    obtain ⟨hl, hrest⟩ := List.forall_mem_cons.mp hlabels
    obtain ⟨hapartl, hapartrest⟩ := List.forall_mem_cons.mp hapart
    rw [← hwidth, ← hheight] at hrest
    have hfirst : (c.draw l.x l.y l.style l.text).cellsIn p = c.cellsIn p :=
      Canvas.cellsIn_draw_of_apart hl hp hapartl
    rw [← hfirst]
    exact ih hrest (by rwa [hwidth, hheight]) hapartrest

/-- Labels that have no cells in common are all shown. -/
theorem cellsIn_drawLabels (hlabels : ∀ l ∈ labels, l.span.Within c.width c.height)
    (hapart : labels.Pairwise fun l l' => l.span.Apart l'.span) (hl : l ∈ labels) :
    (drawLabels labels c).cellsIn l.span = l.cells := by
  induction labels generalizing c with
  | nil => cases hl
  | cons first rest ih =>
    obtain ⟨hwidth, hheight⟩ := c.sameSize_draw first.x first.y first.style first.text
    obtain ⟨hfirst, hrest⟩ := List.forall_mem_cons.mp hlabels
    obtain ⟨hbehind, hpairwise⟩ := List.pairwise_cons.mp hapart
    have hwithin : ∀ l ∈ rest, l.span.Within (c.draw first.x first.y first.style first.text).width
        (c.draw first.x first.y first.style first.text).height := by
      rwa [hwidth, hheight]
    rcases List.mem_cons.mp hl with rfl | hmem
    · -- None of the labels behind it touches its cells again.
      have hdrawn : (c.draw l.x l.y l.style l.text).cellsIn l.span = l.cells :=
        Canvas.cellsIn_draw rfl hfirst
      rw [← hdrawn]
      exact cellsIn_drawLabels_of_apart hwithin (by rwa [hwidth, hheight]) hbehind
    · exact ih hwithin hpairwise hmem

theorem showsText_drawLabels (hlabels : ∀ l ∈ labels, l.span.Within c.width c.height)
    (hapart : labels.Pairwise fun l l' => l.span.Apart l'.span) (hl : l ∈ labels)
    (hplain : ∀ c ∈ l.text.toList, Text.isPlain c = true) :
    (drawLabels labels c).ShowsText l.span l.text l.style := by
  obtain ⟨hwidth, hheight⟩ := sameSize_drawLabels labels c
  constructor
  · rw [hwidth, hheight]
    exact hlabels l hl
  · rw [cellsIn_drawLabels hlabels hapart hl, Label.cells, Text.cells_plain _ hplain]

end Pane

end DebugConsole
