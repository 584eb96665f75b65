import DebugConsole.Host.Scripted
import DebugConsole.Proofs.Console.Steps
import DebugConsole.Proofs.Listing.RegisterBlock
import DebugConsole.Proofs.Screen.Labels
import DebugConsole.Screen.App

/-!
# The register pane

The register pane shows every register and every flag whole, and marks the ones that changed
(`registers_legible`).

- **Layout** (`registerSpan`, `flagSpan`): the cells of each register and flag. In a pane that is
  wide enough, no two of them have a cell in common.
- **Pictures** (`ShowsRegisters`): what a picture shows of two snapshots, and how a register is read
  from it (`readRegister`).
- **The screen** (`App.cell?_view_registers`): the picture stands in its frame, and nothing that is
  drawn later covers it.
-/

namespace DebugConsole

namespace Pane

/-! ## Layout -/

/-- The column that a register stands in. -/
def columnOf (register : Register) : Nat :=
  registerColumns.findIdx (register ∈ ·)

/-- The row that a register stands in. -/
def rowOf (register : Register) : Nat :=
  (registerColumns.getD (columnOf register) []).idxOf register

/-- The cells of a register: its name, a sign and its digits. -/
def registerSpan (width : Nat) (register : Register) : Span :=
  ⟨columnOf register * (width / registerColumns.length), rowOf register,
    register.name.toList.length + 1 + if register.isSegment then 4 else 8⟩

/-- The cells of a flag: its letter, a sign and its bit. -/
def flagSpan (f : Flag) : Span :=
  ⟨4 * Flag.listed.idxOf f, 4, 3⟩

theorem columnOf_lt (register : Register) : columnOf register < registerColumns.length := by
  cases register <;> decide

theorem rowOf_lt (register : Register) : rowOf register < 4 := by
  cases register <;> decide

/-- The register in a place. -/
theorem registerColumns_getElem? (register : Register) :
    (registerColumns[columnOf register]?).bind (·[rowOf register]?) = some register := by
  cases register <;> rfl

theorem place_inj {r r' : Register} (hcolumn : columnOf r = columnOf r')
    (hrow : rowOf r = rowOf r') : r = r' := by
  have hr := registerColumns_getElem? r
  rw [hcolumn, hrow, registerColumns_getElem? r', Option.some.injEq] at hr
  exact hr.symm

variable {width height : Nat}

/-- The registers take less room than a column has. -/
theorem length_registerSpan_le (hwidth : 56 ≤ width) (register : Register) :
    (registerSpan width register).length ≤ width / registerColumns.length := by
  have hlength : register.name.toList.length + 1 + (if register.isSegment then 4 else 8) ≤ 14 := by
    cases register <;> decide
  have hcolumns : registerColumns.length = 4 := rfl
  rw [hcolumns]
  exact Nat.le_trans hlength (by omega)

theorem registerSpan_within (hwidth : 56 ≤ width) (hheight : 5 ≤ height) (register : Register) :
    (registerSpan width register).Within width height := by
  have hlength := length_registerSpan_le hwidth register
  have hcolumn : (columnOf register + 1) * (width / registerColumns.length) ≤
      registerColumns.length * (width / registerColumns.length) :=
    Nat.mul_le_mul_right _ (columnOf_lt register)
  have hwhole := Nat.mul_div_le width registerColumns.length
  have hrow := rowOf_lt register
  rw [Nat.succ_mul] at hcolumn
  unfold Span.Within
  constructor
  · simp only [registerSpan] at hlength ⊢
    omega
  · simp only [registerSpan]
    omega

theorem registerSpan_before (hwidth : 56 ≤ width) {r r' : Register}
    (h : columnOf r < columnOf r') :
    (registerSpan width r).x + (registerSpan width r).length ≤ (registerSpan width r').x := by
  have hlength := length_registerSpan_le hwidth r
  have hcolumn : (columnOf r + 1) * (width / registerColumns.length) ≤
      columnOf r' * (width / registerColumns.length) := Nat.mul_le_mul_right _ h
  rw [Nat.succ_mul] at hcolumn
  simp only [registerSpan] at hlength ⊢
  omega

theorem registerSpan_apart (hwidth : 56 ≤ width) {r r' : Register} (hne : r ≠ r') :
    (registerSpan width r).Apart (registerSpan width r') := by
  intro hrow
  have hcolumn : columnOf r ≠ columnOf r' := fun h => hne (place_inj h hrow)
  rcases Nat.lt_or_gt_of_ne hcolumn with hbefore | hbehind
  · exact .inl (registerSpan_before hwidth hbefore)
  · exact .inr (registerSpan_before hwidth hbehind)

theorem idxOf_listed_lt (f : Flag) : Flag.listed.idxOf f < 9 := by
  cases f <;> decide

theorem flagSpan_within (hwidth : 56 ≤ width) (hheight : 5 ≤ height) (f : Flag) :
    (flagSpan f).Within width height := by
  have hindex := idxOf_listed_lt f
  unfold Span.Within
  simp only [flagSpan]
  omega

theorem flagSpan_apart {f g : Flag} (hne : f ≠ g) : (flagSpan f).Apart (flagSpan g) := by
  intro _
  have hindex : Flag.listed.idxOf f ≠ Flag.listed.idxOf g := by
    revert hne
    cases f <;> cases g <;> decide
  simp only [flagSpan]
  omega

/-! ## Labels -/

/-- The label of a register. -/
def registerLabel (width : Nat) (previous current : Registers) (register : Register) : Label :=
  ⟨(registerSpan width register).x, (registerSpan width register).y,
    if current.get register = previous.get register then Palette.normal else Palette.changed,
    registerText current register⟩

/-- The label of a flag. -/
def flagLabel (previous current : Registers) (f : Flag) : Label :=
  ⟨(flagSpan f).x, (flagSpan f).y,
    if current.has f = previous.has f then Palette.caption else Palette.changed,
    flagText current f⟩

/-- All labels of the pane, in the order they are drawn. -/
def labels (width : Nat) (previous current : Registers) : List Label :=
  registerColumns.flatten.map (registerLabel width previous current) ++
    Flag.listed.map (flagLabel previous current)

variable (previous current : Registers)

theorem registers_eq_drawLabels (width height : Nat) :
    registers width height previous current =
      drawLabels (labels width previous current) (Canvas.blank width height Palette.normal) := by
  rw [labels, drawLabels, List.foldl_append]
  rfl

theorem plain_registerText (register : Register) :
    ∀ c ∈ (registerText current register).toList, Text.isPlain c = true := by
  have hname : register.name.toList.all Text.isPlain = true := by
    cases register <;> decide
  have hdigits := Text.forall_mem_hexDigits (P := (Text.isPlain · = true)) (by decide)
    (if register.isSegment then 4 else 8) (current.get register).toNat
  intro c hc
  simp only [registerText, String.toList_append, List.mem_append, Text.hex,
    String.toList_ofList] at hc
  rcases hc with (hc | hc) | hc
  · exact List.all_eq_true.mp hname c hc
  · obtain rfl : c = '=' := by simpa using hc
    rfl
  · exact hdigits c hc

theorem plain_flagText (f : Flag) :
    ∀ c ∈ (flagText current f).toList, Text.isPlain c = true := by
  have hletter : Text.isPlain f.letter = true := by cases f <;> rfl
  have hbit : Text.isPlain (if current.has f then '1' else '0') = true := by split <;> rfl
  simp only [flagText, String.toList_ofList, List.forall_mem_cons]
  exact ⟨hletter, rfl, hbit, List.forall_mem_nil _⟩

theorem span_registerLabel (width : Nat) (register : Register) :
    (registerLabel width previous current register).span = registerSpan width register := by
  have hspan : (registerLabel width previous current register).span =
      ⟨(registerSpan width register).x, (registerSpan width register).y,
        (registerText current register).toList.length⟩ :=
    Label.span_of_plain (plain_registerText current register)
  have hlength : (registerText current register).toList.length =
      (registerSpan width register).length := by
    simp only [registerText, Text.hex, String.toList_append, String.toList_ofList,
      List.length_append, Text.length_hexDigits]
    rfl
  rw [hspan, hlength]

theorem span_flagLabel (f : Flag) : (flagLabel previous current f).span = flagSpan f := by
  have hspan : (flagLabel previous current f).span =
      ⟨(flagSpan f).x, (flagSpan f).y, (flagText current f).toList.length⟩ :=
    Label.span_of_plain (plain_flagText current f)
  have hlength : (flagText current f).toList.length = (flagSpan f).length := by
    simp [flagText, flagSpan]
  rw [hspan, hlength]

theorem labels_within (hwidth : 56 ≤ width) (hheight : 5 ≤ height) :
    ∀ l ∈ labels width previous current, l.span.Within width height := by
  intro l hl
  simp only [labels, List.mem_append, List.mem_map] at hl
  rcases hl with ⟨register, -, rfl⟩ | ⟨f, -, rfl⟩
  · rw [span_registerLabel]
    exact registerSpan_within hwidth hheight register
  · rw [span_flagLabel]
    exact flagSpan_within hwidth hheight f

theorem labels_apart (hwidth : 56 ≤ width) :
    (labels width previous current).Pairwise fun l l' => l.span.Apart l'.span := by
  have hregisters : registerColumns.flatten.Nodup := by decide
  have hflags : Flag.listed.Nodup := by decide
  rw [labels, List.pairwise_append, List.pairwise_map, List.pairwise_map]
  simp only [span_registerLabel, span_flagLabel]
  refine ⟨hregisters.imp (registerSpan_apart hwidth), hflags.imp flagSpan_apart, ?_⟩
  -- The flags stand below the registers.
  intro l hl l' hl' hrow
  obtain ⟨register, -, rfl⟩ := List.mem_map.mp hl
  obtain ⟨f, -, rfl⟩ := List.mem_map.mp hl'
  have hlow : rowOf register < 4 := rowOf_lt register
  have hfour : rowOf register = 4 := hrow
  omega

/-! ## Pictures -/

/-- The value that is to be read behind the name of a register. -/
def readRegister (picture : Canvas) (register : Register) : Option UInt32 :=
  let text := picture.textIn (registerSpan picture.width register)
  Text.readHex32 (text.toList.drop (register.name.toList.length + 1))

/-- A picture shows the later one of two snapshots: every register and every flag whole, without a
cell in common, and in the style of a change exactly if it differs from the earlier snapshot. -/
structure ShowsRegisters (previous current : Registers) (picture : Canvas) : Prop where
  apart {r r' : Register} (h : r ≠ r') :
    (registerSpan picture.width r).Apart (registerSpan picture.width r')
  register (r : Register) : ∃ style,
    picture.ShowsText (registerSpan picture.width r) (r.name ++ "=" ++ current.digits r) style ∧
      (style = Palette.changed ↔ current.get r ≠ previous.get r)
  value (r : Register) : readRegister picture r = some (current.get r)
  flag (f : Flag) : ∃ style,
    picture.ShowsText (flagSpan f)
        (.ofList [f.letter, '=', if current.has f then '1' else '0']) style ∧
      (style = Palette.changed ↔ current.has f ≠ previous.has f)

theorem sameSize_registers (width height : Nat) :
    (Canvas.blank width height Palette.normal).SameSize
      (registers width height previous current) := by
  rw [registers_eq_drawLabels]
  exact sameSize_drawLabels _ _

variable {previous current}

theorem showsText_registers (hwidth : 56 ≤ width) (hheight : 5 ≤ height) {l : Label}
    (hl : l ∈ labels width previous current)
    (hplain : ∀ c ∈ l.text.toList, Text.isPlain c = true) :
    (registers width height previous current).ShowsText l.span l.text l.style := by
  rw [registers_eq_drawLabels]
  exact showsText_drawLabels (labels_within previous current hwidth hheight)
    (labels_apart previous current hwidth) hl hplain

theorem ite_changed_iff {p : Prop} [Decidable p] {style : Style} (h : style ≠ Palette.changed) :
    (if p then style else Palette.changed) = Palette.changed ↔ ¬ p := by
  simp [h]

theorem showsRegisters_registers (hwidth : 56 ≤ width) (hheight : 5 ≤ height) :
    ShowsRegisters previous current (registers width height previous current) := by
  have hsize : (registers width height previous current).width = width :=
    (sameSize_registers previous current width height).width
  have hregister (r : Register) :
      (registers width height previous current).ShowsText (registerSpan width r)
        (registerText current r) (registerLabel width previous current r).style := by
    have hmem : r ∈ registerColumns.flatten := by cases r <;> decide
    rw [← span_registerLabel previous current]
    exact showsText_registers hwidth hheight
      (List.mem_append_left _ (List.mem_map_of_mem hmem)) (plain_registerText current r)
  have hflag (f : Flag) :
      (registers width height previous current).ShowsText (flagSpan f) (flagText current f)
        (flagLabel previous current f).style := by
    have hmem : f ∈ Flag.listed := by cases f <;> decide
    rw [← span_flagLabel previous current]
    exact showsText_registers hwidth hheight
      (List.mem_append_right _ (List.mem_map_of_mem hmem)) (plain_flagText current f)
  constructor
  case apart =>
    intro r r' hne
    rw [hsize]
    exact registerSpan_apart hwidth hne
  case register =>
    intro r
    rw [hsize]
    exact ⟨_, hregister r, ite_changed_iff (by decide)⟩
  case value =>
    intro r
    have htext : (registerText current r).toList.drop (r.name.toList.length + 1) =
        (current.digits r).toList := by
      have hfront : (r.name ++ "=").toList.length = r.name.toList.length + 1 := by simp
      rw [registerText, String.toList_append, ← hfront, List.drop_left]
      rfl
    rw [readRegister, hsize, (hregister r).textIn_eq, htext, current.readHex32_digits]
  case flag =>
    intro f
    exact ⟨_, hflag f, ite_changed_iff (by decide)⟩

/-! ## The screen -/

/-- A canvas stands in its frame, and the border covers none of it. -/
theorem cell?_frame {inside : Canvas} {frameWidth frameHeight : Nat}
    (hwidth : inside.width = inner frameWidth) (hheight : inside.height = inner frameHeight)
    (title : String) {i j : Nat} (hi : i < inside.width) (hj : j < inside.height) :
    (frame title frameWidth frameHeight inside).cell? (1 + i) (1 + j) = inside.cell? i j := by
  have hborder : ((border "┏" "┓" frameWidth).draw 2 0 Palette.normal title).height = 1 := by
    simp only [border, (Canvas.sameSize_draw ..).height]
    rfl
  unfold inner at hwidth hheight
  rw [frame, Canvas.cell?_paste_outside (by omega)]
  apply Canvas.cell?_paste_inside hi hj
  · change 1 + i < frameWidth
    omega
  · change 1 + j < frameHeight
    omega

end Pane

/-- The picture of the registers is on the screen, framed and beside the log, and nothing covers
it. -/
theorem App.cell?_view_registers (a : App) {i j : Nat}
    (hi : i < Pane.inner (registersWidth a.width)) (hj : j < Pane.inner (paneHeight a.height)) :
    a.view.cell? (logWidth a.width + 1 + i) (1 + j) =
      (Pane.registers (Pane.inner (registersWidth a.width)) (Pane.inner (paneHeight a.height))
        a.session.previous a.session.current).cell? i j := by
  obtain ⟨hwidth, hheight⟩ := Pane.sameSize_registers a.session.previous a.session.current
    (Pane.inner (registersWidth a.width)) (Pane.inner (paneHeight a.height))
  rw [← Pane.cell?_frame hwidth hheight "regs" (by rwa [hwidth]) (by rwa [hheight])]
  unfold Pane.inner at hi hj
  have hrow : 1 + j < paneHeight a.height := by omega
  have hcolumn : logWidth a.width + (1 + i) < a.width := by
    unfold logWidth registersWidth at *
    omega
  have hbottom : paneHeight a.height ≤ a.height := Nat.sub_le ..
  -- The prompt and the status bar are below the panes.
  rw [view, Canvas.cell?_paste_outside (by omega), Canvas.cell?_paste_outside (.inl hrow),
    Nat.add_assoc]
  conv_lhs => rw [← Nat.zero_add (1 + j)]
  apply Canvas.cell?_paste_inside
  · change 1 + i < registersWidth a.width
    omega
  · change 1 + j < paneHeight a.height
    exact hrow
  · exact hcolumn
  · change 0 + (1 + j) < a.height
    omega

namespace Pane

/-- Whatever has happened to a console, its last two snapshots are legible in every pane that is at
least 56 wide and 5 high: no two registers have a cell in common and none is cut, so that the value
of each is read back from the picture; each flag shows its bit; and a register or a flag is in the
style of a change exactly if the snapshots differ in it. A screen with a pane of that size shows
just this picture. -/
theorem registers_legible {σ : Type} (host : Host σ) (x : σ) (s : Session)
    (steps : List (Console.Step σ)) {width height : Nat} (hwidth : 56 ≤ width)
    (hheight : 5 ≤ height) :
    let after := Console.sessionAfter s (Console.history builtinTable host s x steps)
    let picture := registers width height after.previous after.current
    picture.width = width ∧ picture.height = height ∧
    ShowsRegisters after.previous after.current picture ∧
    ∀ a : App, a.session = after → inner (App.registersWidth a.width) = width →
      inner (App.paneHeight a.height) = height → ∀ i < width, ∀ j < height,
        a.view.cell? (App.logWidth a.width + 1 + i) (1 + j) = picture.cell? i j := by
  intro after picture
  obtain ⟨hpictureWidth, hpictureHeight⟩ :=
    sameSize_registers after.previous after.current width height
  refine ⟨hpictureWidth, hpictureHeight, showsRegisters_registers hwidth hheight, ?_⟩
  intro a hsession hwide hhigh i hi j hj
  rw [App.cell?_view_registers a (hwide ▸ hi) (hhigh ▸ hj), hsession, hwide, hhigh]

/-- Two listings of the registers, between which a register and a flag changed: both stand out in
the smallest pane, and on a screen that leaves the pane just this size. -/
theorem registers_legible_changed :
    let s : Session := { resolve := fun _ => none, codeSize := .bits16 }
    let x : ScriptedHost := { registers := { eax := 0x1234, cs := 8 } }
    let now : Registers := { eax := 0xDEADBEEF, cs := 8, flags := 1 }
    let steps : List (Console.Step ScriptedHost) :=
      [.line "r", .change ({ · with registers := now }), .line "r"]
    let after := Console.sessionAfter s (Console.history builtinTable ScriptedHost.answer s x steps)
    let picture := registers 56 5 after.previous after.current
    56 ≤ 56 ∧ 5 ≤ 5 ∧ after.previous = x.registers ∧ after.current = now ∧
      readRegister picture .eax = some 0xDEADBEEF ∧
      picture.ShowsText ⟨0, 0, 12⟩ "EAX=DEADBEEF" Palette.changed ∧
      (∃ style, picture.ShowsText ⟨28, 0, 7⟩ "CS=0008" style ∧ style ≠ Palette.changed) ∧
      picture.ShowsText ⟨0, 4, 3⟩ "C=1" Palette.changed ∧
      ∀ a : App, a.session = after → a.width = 58 → a.height = 9 →
        a.view.cell? 1 1 = some ⟨"E", Palette.changed⟩ := by
  intro s x now steps after picture
  obtain ⟨hwidth, -, hlegible, hscreen⟩ := registers_legible ScriptedHost.answer x s steps
    (Nat.le_refl 56) (Nat.le_refl 5)
  have hprevious : after.previous = x.registers := by decide +kernel
  have hcurrent : after.current = now := by decide +kernel
  have hshows : ShowsRegisters x.registers now picture := hprevious ▸ hcurrent ▸ hlegible
  have hspan : registerSpan picture.width = registerSpan 56 := congrArg registerSpan hwidth
  obtain ⟨_, heax, heaxChanged⟩ := hshows.register .eax
  obtain ⟨_, hcs, hcsChanged⟩ := hshows.register .cs
  obtain ⟨_, hcarry, hcarryChanged⟩ := hshows.flag .carry
  rw [hspan, heaxChanged.mpr (by decide)] at heax
  rw [hspan] at hcs
  rw [hcarryChanged.mpr (by decide)] at hcarry
  have heaxText : "EAX" ++ "=" ++ now.digits .eax = "EAX=DEADBEEF" := by decide +kernel
  have hcarryText : String.ofList ['C', '=', if now.has .carry then '1' else '0'] = "C=1" := by
    decide +kernel
  have hcsText : "CS" ++ "=" ++ now.digits .cs = "CS=0008" := by decide +kernel
  have hshown : picture.ShowsText ⟨0, 0, 12⟩ "EAX=DEADBEEF" Palette.changed := heaxText ▸ heax
  refine ⟨Nat.le_refl 56, Nat.le_refl 5, hprevious, hcurrent, hshows.value .eax, hshown,
    ⟨_, hcsText ▸ hcs, fun h => hcsChanged.mp h rfl⟩, hcarryText ▸ hcarry, ?_⟩
  have hletter : picture.cell? 0 0 = some ⟨"E", Palette.changed⟩ :=
    (hshown.cell? (i := 0) (by decide)).trans (by decide)
  intro a hsession hwide hhigh
  have hcell := hscreen a hsession (by rw [hwide]; rfl) (by rw [hhigh]; rfl) 0 (by decide)
    0 (by decide)
  rw [hwide] at hcell
  exact hcell.trans hletter

end Pane

end DebugConsole
