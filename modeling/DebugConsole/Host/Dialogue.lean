import DebugConsole.Host.Request

/-!
# Dialogues with the host

A program of requests, apart from any host: it ends with a value, or asks something and goes on with
the answer. A host is anything that answers requests; the same dialogue runs on every one of them.

* `Dialogue.bind`: one dialogue after another; dialogues form a lawful monad.
* `Query`: a dialogue that ends with the first failed request.
* `Dialogue.converse`: the run of a dialogue on a host, with everything that was said.
-/

namespace DebugConsole

/-- Why a host did not answer a request. -/
structure HostFailure where
  message : String
  deriving DecidableEq, Repr, Inhabited

/-- A program of requests that ends with a value of type `α`. -/
inductive Dialogue (α : Type) where
  | done (value : α)
  | ask (request : Request) (next : Except HostFailure request.Reply → Dialogue α)

namespace Dialogue

variable {α β γ σ : Type}

/-- The first dialogue, then the one that its value chooses. -/
def bind : Dialogue α → (α → Dialogue β) → Dialogue β
  | .done a, f => f a
  | .ask r next, f => .ask r fun reply => (next reply).bind f

instance : Monad Dialogue where
  pure := .done
  bind := bind

@[simp] theorem pure_eq (a : α) : (pure a : Dialogue α) = .done a := rfl

@[simp] theorem done_bind (a : α) (f : α → Dialogue β) : (Dialogue.done a >>= f) = f a := rfl

@[simp] theorem ask_bind (r : Request) (next : Except HostFailure r.Reply → Dialogue α)
    (f : α → Dialogue β) : (Dialogue.ask r next >>= f) = .ask r fun reply => next reply >>= f := rfl

@[simp] theorem bind_done (d : Dialogue α) : (d >>= Dialogue.done) = d := by
  induction d with
  | done => rfl
  | ask r next ih => exact congrArg (Dialogue.ask r) (funext ih)

theorem bind_assoc (d : Dialogue α) (f : α → Dialogue β) (g : β → Dialogue γ) :
    (d >>= f >>= g) = d >>= fun a => f a >>= g := by
  induction d with
  | done => rfl
  | ask r next ih => exact congrArg (Dialogue.ask r) (funext ih)

instance : LawfulMonad Dialogue :=
  LawfulMonad.mk' Dialogue bind_done (fun _ _ => rfl) bind_assoc

/-- The dialogue of one request. -/
def request (r : Request) : Dialogue (Except HostFailure r.Reply) :=
  .ask r .done

end Dialogue

/-- A dialogue that ends with the first failed request. -/
abbrev Query := ExceptT HostFailure Dialogue

/-- The query of one request. -/
def Query.ask (r : Request) : Query r.Reply :=
  Dialogue.request r

/-- A host with states `σ`: it answers every request and may change as it does so. -/
abbrev Host (σ : Type) := (r : Request) → σ → Except HostFailure r.Reply × σ

/-- A request and what the host said to it. -/
structure Exchange where
  request : Request
  reply : Except HostFailure request.Reply

/-- A dialogue that was held: its value, everything said in order, and the host afterwards. -/
structure Conversation (σ α : Type) where
  value : α
  exchanges : List Exchange
  host : σ

namespace Conversation

variable {σ α : Type}

/-- The requests of a conversation, in order. -/
def requests (c : Conversation σ α) : List Request :=
  c.exchanges.map (·.request)

end Conversation

namespace Dialogue

variable {α β σ : Type}

/-- Holds a dialogue with a host. -/
def converse (host : Host σ) : Dialogue α → σ → Conversation σ α
  | .done a, s => ⟨a, [], s⟩
  | .ask r next, s =>
    let (reply, s) := host r s
    let rest := (next reply).converse host s
    { rest with exchanges := ⟨r, reply⟩ :: rest.exchanges }

@[simp] theorem converse_done (host : Host σ) (a : α) (s : σ) :
    (Dialogue.done a).converse host s = ⟨a, [], s⟩ := rfl

/-- A conversation in two parts is the first part, then the second on the host it leaves. -/
theorem converse_bind (host : Host σ) (d : Dialogue α) (f : α → Dialogue β) (s : σ) :
    (d >>= f).converse host s =
      let first := d.converse host s
      let second := (f first.value).converse host first.host
      { second with exchanges := first.exchanges ++ second.exchanges } := by
  induction d generalizing s with
  | done => rfl
  | ask r next ih => simp [converse, ih]

end Dialogue

end DebugConsole
