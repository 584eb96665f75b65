import DebugConsole.Console

/-!
# Steps of a console

A console lives on a host that may change without it. A step is a line, a notification that the
machine stopped, or a change on the host's side; what each step comes to is kept (`Stepped`), and a
history is one step after the other, whatever the lines lead to.
-/

namespace DebugConsole.Console

variable {σ : Type}

/-- What happens to a console. -/
inductive Step (σ : Type) where
  | line (text : String)
  | stopped (r : Registers)
  /-- The host changes by itself. -/
  | change (f : σ → σ)

/-- A step, with the session before it and what it came to. -/
structure Stepped (σ : Type) where
  step : Step σ
  before : Session
  proceed : Proceed
  exchanges : List Exchange
  output : List Output
  session : Session
  host : σ

/-- Takes a step. -/
def take (commands : CommandTable (Action Unit)) (host : Host σ) (s : Session) (x : σ)
    (step : Step σ) : Stepped σ :=
  match step with
  | .line text =>
    let c := (execute commands s text).converse host x
    ⟨step, s, c.value.proceed, c.exchanges, c.value.output, c.value.session, c.host⟩
  | .stopped r => ⟨step, s, .continue, [], [stopped r], s, x⟩
  | .change f => ⟨step, s, .continue, [], [], s, f x⟩

theorem take_before (commands : CommandTable (Action Unit)) (host : Host σ) (s : Session) (x : σ)
    (step : Step σ) : (take commands host s x step).before = s := by
  cases step <;> rfl

/-- Takes steps one after the other. -/
def history (commands : CommandTable (Action Unit)) (host : Host σ) (s : Session) (x : σ) :
    List (Step σ) → List (Stepped σ)
  | [] => []
  | step :: rest =>
    let stepped := take commands host s x step
    stepped :: history commands host stepped.session stepped.host rest

/-- The session that some steps leave. -/
def sessionAfter (s : Session) (steps : List (Stepped σ)) : Session :=
  steps.foldl (fun _ stepped => stepped.session) s

@[simp] theorem sessionAfter_nil (s : Session) :
    sessionAfter s ([] : List (Stepped σ)) = s := rfl

@[simp] theorem sessionAfter_cons (s : Session) (stepped : Stepped σ) (rest : List (Stepped σ)) :
    sessionAfter s (stepped :: rest) = sessionAfter stepped.session rest := rfl

/-- The host that some steps leave. -/
def hostAfter (x : σ) (steps : List (Stepped σ)) : σ :=
  steps.foldl (fun _ stepped => stepped.host) x

@[simp] theorem hostAfter_nil (x : σ) : hostAfter x [] = x := rfl

@[simp] theorem hostAfter_cons (x : σ) (stepped : Stepped σ) (rest : List (Stepped σ)) :
    hostAfter x (stepped :: rest) = hostAfter stepped.host rest := rfl

/-- What holds of every single step holds of every step of a history. -/
theorem history_forall {commands : CommandTable (Action Unit)} {host : Host σ}
    {P : Stepped σ → Prop} (h : ∀ s x step, P (take commands host s x step)) (s : Session) (x : σ)
    (steps : List (Step σ)) : ∀ stepped ∈ history commands host s x steps, P stepped := by
  induction steps generalizing s x with
  | nil => simp [history]
  | cons step rest ih =>
    rw [history, List.forall_mem_cons]
    exact ⟨h s x step, ih _ _⟩

end DebugConsole.Console
