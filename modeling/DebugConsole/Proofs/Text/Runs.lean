import DebugConsole.Proofs.Text.Tokens

/-!
# Maximal runs

What the runs of a text are, said without splitting it (`Text.Parted`): in front of a run stands the
start of the text or a separator, and behind it a separator or the end. Every text has exactly one
division of this kind, and `Text.runs` gives it (`runs_iff`).
-/

namespace DebugConsole.Text

/-- A text with its maximal runs of characters that are no separators. -/
inductive Parted (separates : Char → Bool) : List Char → List String → Prop where
  | nil : Parted separates [] []
  | separator {c : Char} {rest : List Char} {tokens : List String} (hc : separates c = true)
    (h : Parted separates rest tokens) : Parted separates (c :: rest) tokens
  | last {token : List Char} (hne : token ≠ []) (htoken : ∀ c ∈ token, separates c = false) :
    Parted separates token [.ofList token]
  | run {token : List Char} {c : Char} {rest : List Char} {tokens : List String}
    (hne : token ≠ []) (htoken : ∀ c ∈ token, separates c = false) (hc : separates c = true)
    (h : Parted separates rest tokens) :
    Parted separates (token ++ c :: rest) (.ofList token :: tokens)

variable {separates : Char → Bool}

/-! ## The runs of a text -/

theorem runs_cons_separator {c : Char} (hc : separates c = true) (rest : List Char) :
    runs separates (.ofList (c :: rest)) = runs separates (.ofList rest) := by
  have hsplit : (c :: rest).splitOnP separates = [] :: rest.splitOnP separates :=
    List.splitOnP_append_cons_of_forall_mem (List.forall_mem_nil _) c hc rest
  simp [runs, hsplit]

theorem runs_token {token : List Char} (hne : token ≠ [])
    (htoken : ∀ c ∈ token, separates c = false) :
    runs separates (.ofList token) = [.ofList token] := by
  have hsplit : token.splitOnP separates = [token] := List.splitOnP_eq_singleton htoken
  simp [runs, hsplit, hne]

/-- The division of a text is the one that `runs` gives. -/
theorem Parted.runs_eq {cs : List Char} {tokens : List String} (h : Parted separates cs tokens) :
    runs separates (.ofList cs) = tokens := by
  induction h with
  | nil => simp [runs]
  | separator hc _ ih => rw [runs_cons_separator hc, ih]
  | last hne htoken => exact runs_token hne htoken
  | run hne htoken hc _ ih => rw [runs_append_cons hne htoken hc, ih]

/-! ## The division of a text -/

/-- A character that is no separator goes to the first run, if that begins at once. -/
theorem exists_parted_cons {c : Char} (hc : separates c = false) {rest : List Char}
    {tokens : List String} (h : Parted separates rest tokens) :
    ∃ tokens', Parted separates (c :: rest) tokens' := by
  cases h with
  | nil => exact ⟨_, .last (List.cons_ne_nil c []) (by simpa using hc)⟩
  | separator hd h => exact ⟨_, .run (List.cons_ne_nil c []) (by simpa using hc) hd h⟩
  | last hne htoken =>
    exact ⟨_, .last (List.cons_ne_nil c _) (List.forall_mem_cons.mpr ⟨hc, htoken⟩)⟩
  | @run token d rest tokens hne htoken hd h =>
    exact ⟨_, .run (List.cons_ne_nil c token) (List.forall_mem_cons.mpr ⟨hc, htoken⟩) hd h⟩

theorem exists_parted (separates : Char → Bool) (cs : List Char) :
    ∃ tokens, Parted separates cs tokens := by
  induction cs with
  | nil => exact ⟨[], .nil⟩
  | cons c rest ih =>
    obtain ⟨tokens, h⟩ := ih
    cases hc : separates c with
    | true => exact ⟨tokens, .separator hc h⟩
    | false => exact exists_parted_cons hc h

theorem runs_iff {s : String} {tokens : List String} :
    runs separates s = tokens ↔ Parted separates s.toList tokens := by
  constructor
  · rintro rfl
    obtain ⟨tokens, h⟩ := exists_parted separates s.toList
    have hruns := h.runs_eq
    rw [String.ofList_toList] at hruns
    rw [hruns]
    exact h
  · intro h
    have hruns := h.runs_eq
    rwa [String.ofList_toList] at hruns

namespace Parted

variable {cs : List Char} {tokens : List String}

/-- No run is empty, and none has a separator in it. -/
theorem of_mem (h : Parted separates cs tokens) {token : String} (hmem : token ∈ tokens) :
    token ≠ "" ∧ ∀ c ∈ token.toList, separates c = false := by
  induction h with
  | nil => cases hmem
  | separator _ _ ih => exact ih hmem
  | last hne htoken =>
    obtain rfl := List.mem_singleton.mp hmem
    simpa [hne] using htoken
  | run hne htoken _ _ ih =>
    rcases List.mem_cons.mp hmem with rfl | hmem
    · simpa [hne] using htoken
    · exact ih hmem

/-- A separator parts what is in front of it from what is behind it. -/
theorem append {c : Char} {rest : List Char} {tokens' : List String}
    (h : Parted separates cs tokens) (hc : separates c = true)
    (hrest : Parted separates rest tokens') :
    Parted separates (cs ++ c :: rest) (tokens ++ tokens') := by
  induction h with
  | nil => exact .separator hc hrest
  | separator hd _ ih => exact .separator hd ih
  | last hne htoken => exact .run hne htoken hc hrest
  | run hne htoken hd _ ih =>
    rw [List.append_assoc, List.cons_append]
    exact .run hne htoken hd ih

/-- Separators in front make no difference. -/
theorem separators {before : List Char} (hbefore : ∀ c ∈ before, separates c = true)
    (h : Parted separates cs tokens) : Parted separates (before ++ cs) tokens := by
  induction before with
  | nil => exact h
  | cons c before ih =>
    obtain ⟨hc, hrest⟩ := List.forall_mem_cons.mp hbefore
    exact .separator hc (ih hrest)

end Parted

/-! ## Words of a line -/

theorem parted_words (s : String) : Parted (· == ' ') s.toList (words s) :=
  runs_iff.mp rfl

/-- A space parts the words in front of it from those behind it. -/
theorem words_append_space (s t : String) : words (s ++ " " ++ t) = words s ++ words t := by
  refine runs_iff.mpr ?_
  simpa using (parted_words s).append (by rfl) (parted_words t)

theorem IsWord.not_space {token : String} (h : IsWord token) :
    ∀ c ∈ token.toList, (c == ' ') = false := by
  intro c hc
  refine beq_false_of_ne ?_
  rintro rfl
  exact h.no_space hc

theorem IsWord.words_eq {token : String} (h : IsWord token) : words token = [token] := by
  have hne : token.toList ≠ [] := by simpa using h.ne_empty
  refine runs_iff.mpr ?_
  simpa using Parted.last hne h.not_space

/-- A word comes in front of the words behind the next space. -/
theorem IsWord.parted_append {token tail : String} (h : IsWord token)
    (htail : tail = "" ∨ ∃ more, tail.toList = ' ' :: more) :
    Parted (· == ' ') (token ++ tail).toList (token :: words tail) := by
  rcases htail with rfl | ⟨more, hmore⟩
  · have hparted := parted_words token
    rw [h.words_eq] at hparted
    simpa [words, runs] using hparted
  · have hne : token.toList ≠ [] := by simpa using h.ne_empty
    have hbehind : words tail = words (.ofList more) := by
      rw [← String.ofList_toList (s := tail), hmore]
      exact runs_cons_separator (by rfl) more
    have hmore' := parted_words (.ofList more)
    rw [String.toList_ofList, ← hbehind] at hmore'
    simpa [hmore] using Parted.run hne h.not_space (by rfl) hmore'

end DebugConsole.Text
