import Mathlib.Data.List.Forall2
import DebugConsole.Host.Scripted
import DebugConsole.Proofs.Bus.Messages
import DebugConsole.Proofs.Command.Failures
import DebugConsole.Proofs.Console.Steps

/-!
# The console over the bus

A console that reaches its host over the bus behaves like one that holds the host itself
(`console_over_bus`). The calls are recorded on the way (`Transport.recorded`).

- **Hosts** (`recording_eq`): one request over the bus, from the rules for messages.
- **Lines** (`Conversation.Relayed`): the same value, unless a request was refused; then the report
  names the bus error (`Dialogue.Reports.relayed`).
- **Histories** (`Bus.Mirrors`): step by step the same flow, session and output.
-/

namespace DebugConsole

open Wire

variable {σ : Type}

/-- A transport that keeps a record of the calls, oldest first. -/
def Transport.recorded (transport : Transport σ) : Transport (σ × List MethodCall) :=
  fun call (x, calls) =>
    let (reply, x) := transport call x
    (reply, x, calls ++ [call])

/-- A host at the far end of a bus that records the calls. -/
def Bus.recording (service : String) (host : Host σ) : Host (σ × List MethodCall) :=
  Bus.host service (Bus.serve host).recorded

/-! ## Conversations -/

theorem Bus.recording_eq (service : String) (host : Host σ) {r : Request} {x x' : σ}
    {reply : Except HostFailure r.Reply} (hreply : host r x = (reply, x'))
    (h : Exchange.Carried ⟨r, reply⟩) (calls : List MethodCall) :
    Bus.recording service host r (x, calls) =
      (reply.mapError named, x', calls ++ [.ofRequest service r]) := by
  have hhost : Bus.host service (serve host) r x = (reply.mapError named, x') := by
    have := host_serve service host (r := r) (x := x) (by rw [hreply]; exact h)
    rwa [hreply] at this
  show ((Bus.host service (serve host) r x).1, (Bus.host service (serve host) r x).2, _) = _
  rw [hhost]

/-- A conversation over the bus against the direct one: the same requests as calls behind the
earlier ones, the same host, and the same value unless the last request was refused. -/
structure Conversation.Relayed (service : String) (calls : List MethodCall)
    (direct : Conversation σ Outcome) (c : Conversation (σ × List MethodCall) Outcome) :
    Prop where
  host : c.host = (direct.host, calls ++ direct.requests.map (.ofRequest service))
  same (h : ∀ e, ¬ Exchange.BrokenOff direct.exchanges e) : c.value = direct.value
  refused (e : HostFailure) (h : Exchange.BrokenOff direct.exchanges e) :
    ∃ s, direct.value = .failed s (.host e) ∧ c.value = .failed s (.host (Bus.named e))

theorem Dialogue.done_relayed (o : Outcome) (service : String) (host : Host σ) (x : σ)
    (calls : List MethodCall) :
    ((Dialogue.done o).converse host x).Relayed service calls
      ((Dialogue.done o).converse (Bus.recording service host) (x, calls)) where
  host := by simp [Conversation.requests]
  same _ := rfl
  refused _ h := absurd h Exchange.BrokenOff.not_nil

/-- A dialogue that reports its failures, over the bus. -/
theorem Dialogue.Reports.relayed {P : Session → Prop} {d : Dialogue Outcome} (h : d.Reports P)
    (service : String) (host : Host σ) (x : σ) (calls : List MethodCall)
    (hcarried : ∀ e ∈ (d.converse host x).exchanges, e.Carried) :
    (d.converse host x).Relayed service calls
      (d.converse (Bus.recording service host) (x, calls)) := by
  induction h generalizing x calls with
  | done => exact done_relayed _ service host x calls
  | @ask s r next hs _ ih =>
    rcases hreply : host r x with ⟨e | reply, x'⟩
    · rw [converse_orFail_error hreply] at hcarried ⊢
      have hbus := Bus.recording_eq service host hreply (hcarried _ (List.mem_cons_self ..)) calls
      rw [converse_orFail_error hbus]
      refine ⟨rfl, fun hnone => ?_, fun e' he' => ?_⟩
      · exact absurd (Exchange.brokenOff_single_iff.mpr rfl) (hnone e)
      · obtain rfl : e' = e := Exchange.brokenOff_single_iff.mp he'
        exact ⟨s, rfl, rfl⟩
    · rw [converse_orFail_ok hreply] at hcarried ⊢
      have hbus := Bus.recording_eq service host hreply (hcarried _ (List.mem_cons_self ..)) calls
      rw [converse_orFail_ok hbus]
      have hrest := ih reply x' (calls ++ [.ofRequest service r])
        (fun e he => hcarried e (List.mem_cons_of_mem _ he))
      have hfirst : Exchange.Answered ⟨r, .ok reply⟩ := ⟨reply, rfl⟩
      refine ⟨?_, fun hnone => ?_, fun e he => ?_⟩
      · rw [hrest.host]
        simp [Conversation.requests]
      · exact hrest.same fun e he => hnone e ((Exchange.brokenOff_cons_iff hfirst).mpr he)
      · exact hrest.refused e ((Exchange.brokenOff_cons_iff hfirst).mp he)

/-- Flow and session do not depend on how a failure is named. -/
theorem Conversation.Relayed.kept {service : String} {calls : List MethodCall}
    {direct : Conversation σ Outcome} {c : Conversation (σ × List MethodCall) Outcome}
    (h : direct.Relayed service calls c) :
    c.value.proceed = direct.value.proceed ∧ c.value.session = direct.value.session := by
  by_cases hbroken : ∃ e, Exchange.BrokenOff direct.exchanges e
  · obtain ⟨e, he⟩ := hbroken
    obtain ⟨s, hdirect, hc⟩ := h.refused e he
    rw [hdirect, hc]
    exact ⟨rfl, rfl⟩
  · rw [h.same fun e he => hbroken ⟨e, he⟩]
    exact ⟨rfl, rfl⟩

theorem Console.execute_relayed (service : String) (host : Host σ) (x : σ)
    (calls : List MethodCall) (s : Session) (line : String)
    (hcarried : ∀ e ∈ ((execute builtinTable s line).converse host x).exchanges, e.Carried) :
    ((execute builtinTable s line).converse host x).Relayed service calls
      ((execute builtinTable s line).converse (Bus.recording service host) (x, calls)) := by
  rw [execute_eq] at hcarried ⊢
  cases hread : reading s line with
  | nothing | unknown | refused => exact Dialogue.done_relayed _ service host x calls
  | order o =>
    rw [hread] at hcarried
    obtain ⟨_, _, -, hof⟩ := of_reading hread
    have hreports : (o.dialogue s).Reports fun _ => True :=
      Order.reports hof.quiet trivial fun _ _ _ => trivial
    exact hreports.relayed service host x calls hcarried

/-! ## Steps -/

/-- What a signal does to a console: a malformed one does nothing. -/
def Signal.step (signal : Signal) : Console.Step σ :=
  match signal.stopped? with
  | some r => .stopped r
  | none => .change id

namespace Bus

open Console

/-- A step of a console whose host is at the far end of the bus. -/
def step : Step σ → Step (σ × List MethodCall)
  | .line text => .line text
  | .stopped r => (Signal.ofStopped r).step
  | .change f => .change (Prod.map f id)

/-- A step over the bus against the direct one: the same flow, session and host, and the same output
unless a request was refused; then the two reports differ in the name of the bus error. -/
structure Mirrors (direct : Stepped σ) (b : Stepped (σ × List MethodCall)) : Prop where
  before : b.before = direct.before
  proceed : b.proceed = direct.proceed
  session : b.session = direct.session
  host : b.host.1 = direct.host
  same (h : ∀ e, ¬ Exchange.BrokenOff direct.exchanges e) : b.output = direct.output
  refused (e : HostFailure) (h : Exchange.BrokenOff direct.exchanges e) :
    direct.output = [.error ("Host error: " ++ e.message)] ∧
      b.output = [.error ("Host error: com.dosbox.Error.Failed: " ++ e.message)]

theorem step_stopped (r : Registers) : step (.stopped r : Step σ) = .stopped r := by
  rw [step, Signal.step, Signal.stopped?_ofStopped]

theorem named_message (e : HostFailure) : (CommandError.host (named e)).message =
    "Host error: com.dosbox.Error.Failed: " ++ e.message := by
  have hprefix : "Host error: " ++ (failureName ++ ": ") =
      "Host error: com.dosbox.Error.Failed: " := by decide
  rw [← hprefix, String.append_assoc]
  rfl

/-- The calls that carry the requests of some exchanges. -/
def callsOf (service : String) (exchanges : List Exchange) : List MethodCall :=
  exchanges.map fun e => .ofRequest service e.request

theorem take_mirrors (service : String) (host : Host σ) (s : Session) (x : σ)
    (calls : List MethodCall) (st : Step σ)
    (hcarried : ∀ e ∈ (take builtinTable host s x st).exchanges, e.Carried) :
    let direct := take builtinTable host s x st
    let b := take builtinTable (recording service host) s (x, calls) (step st)
    Mirrors direct b ∧ b.host.2 = calls ++ callsOf service direct.exchanges := by
  cases st with
  | line text =>
    have hrelayed := execute_relayed service host x calls s text hcarried
    have hhost := hrelayed.host
    refine ⟨⟨rfl, hrelayed.kept.1, hrelayed.kept.2, congrArg Prod.fst hhost, fun hnone => ?_,
      fun e he => ?_⟩, ?_⟩
    · exact congrArg Outcome.output (hrelayed.same hnone)
    · obtain ⟨t, hdirect, hc⟩ := hrelayed.refused e he
      refine ⟨congrArg Outcome.output hdirect, (congrArg Outcome.output hc).trans ?_⟩
      rw [← named_message]
      rfl
    · refine (congrArg Prod.snd hhost).trans ?_
      simp [Conversation.requests, callsOf, take]
  | stopped r =>
    rw [step_stopped]
    exact ⟨⟨rfl, rfl, rfl, rfl, fun _ => rfl, fun e he => absurd he Exchange.BrokenOff.not_nil⟩,
      by simp [take, callsOf]⟩
  | change f =>
    exact ⟨⟨rfl, rfl, rfl, rfl, fun _ => rfl, fun e he => absurd he Exchange.BrokenOff.not_nil⟩,
      by simp [take, callsOf, step]⟩

theorem history_mirrors (service : String) (host : Host σ) (s : Session) (x : σ)
    (calls : List MethodCall) (steps : List (Step σ))
    (hcarried : ∀ b ∈ history builtinTable host s x steps, ∀ e ∈ b.exchanges, e.Carried) :
    let direct := history builtinTable host s x steps
    let overBus := history builtinTable (recording service host) s (x, calls) (steps.map step)
    List.Forall₂ Mirrors direct overBus ∧ (hostAfter (x, calls) overBus).2 =
      calls ++ callsOf service (direct.flatMap (·.exchanges)) := by
  induction steps generalizing s x calls with
  | nil => exact ⟨.nil, by simp [history, callsOf]⟩
  | cons st rest ih =>
    rw [history, List.forall_mem_cons] at hcarried
    obtain ⟨hmirrors, hcalls⟩ := take_mirrors service host s x calls st hcarried.1
    have hhost : (take builtinTable (recording service host) s (x, calls) (step st)).host =
        ((take builtinTable host s x st).host, calls ++
          callsOf service (take builtinTable host s x st).exchanges) :=
      Prod.ext hmirrors.host hcalls
    obtain ⟨hrest, hcalls'⟩ := ih _ _ (calls ++
      callsOf service (take builtinTable host s x st).exchanges) hcarried.2
    simp only [List.map_cons, history, hostAfter_cons, hmirrors.session, hhost, List.flatMap_cons]
    refine ⟨.cons hmirrors hrest, ?_⟩
    rw [hcalls']
    simp [callsOf]

/-- A scripted host takes its descriptors from records. -/
theorem fromRecords_answer (r : Request) (h : ScriptedHost) :
    Exchange.FromRecords ⟨r, (ScriptedHost.answer r h).1⟩ := by
  have hmap (records : List DescriptorRecord) :
      ∀ d ∈ records.map Descriptor.ofRecord, ∃ record, d = .ofRecord record := by
    intro d hd
    obtain ⟨record, -, rfl⟩ := List.mem_map.mp hd
    exact ⟨record, rfl⟩
  intro reply hreply
  unfold ScriptedHost.answer at hreply
  split at hreply
  · cases hreply
  · cases r with
    | globalTable | localTable =>
      cases hreply
      exact hmap _
    | _ => trivial

/-- All that a scripted host says in a step takes its descriptors from records. -/
theorem fromRecords_take (s : Session) (h : ScriptedHost) (st : Step ScriptedHost) :
    ∀ e ∈ (take builtinTable ScriptedHost.answer s h st).exchanges, e.FromRecords := by
  cases st with
  | line text => exact Dialogue.forall_mem_exchanges fromRecords_answer _ h
  | stopped r => simp [take]
  | change f => simp [take]

/-- A console with a scripted host at the far end of the bus takes every sequence of steps like one
that holds the host itself: the flows, the sessions, the host and the output are the same step by
step, but a refused request is reported with the name of the bus error. The calls are the direct
requests in order, by the names of their methods and with their arguments. -/
theorem console_over_bus (service : String) (host : ScriptedHost) (s : Session)
    (steps : List (Step ScriptedHost))
    (hfits : ∀ b ∈ history builtinTable ScriptedHost.answer s host steps,
      ∀ e ∈ b.exchanges, e.Fits) :
    let direct := history builtinTable ScriptedHost.answer s host steps
    let overBus := history builtinTable (recording service ScriptedHost.answer) s (host, [])
      (steps.map step)
    let calls := (hostAfter (host, []) overBus).2
    List.Forall₂ Mirrors direct overBus ∧
      calls.map (fun call => (call.member, call.request?)) =
        (direct.flatMap (·.exchanges)).map fun e => (e.request.method, some e.request) := by
  intro direct overBus calls
  have hrecords : ∀ b ∈ direct, ∀ e ∈ b.exchanges, e.FromRecords :=
    history_forall fromRecords_take s host steps
  obtain ⟨hmirrors, hcalls⟩ := history_mirrors service ScriptedHost.answer s host [] steps
    fun b hb e he => ⟨hfits b hb e he, hrecords b hb e he⟩
  refine ⟨hmirrors, ?_⟩
  show List.map _ calls = _
  rw [show calls = _ from hcalls, List.nil_append, callsOf, List.map_map]
  refine List.map_congr_left fun e he => ?_
  obtain ⟨b, hb, he⟩ := List.mem_flatMap.mp he
  have hrequest : (MethodCall.ofRequest service e.request).request? = some e.request :=
    MethodCall.request?_ofRequest service e.request (lt_of_le_maxMessage (hfits b hb e he).request)
  show ((MethodCall.ofRequest service e.request).member, _) = _
  rw [hrequest]
  rfl

/-- A listing, a notification, and a step that the host refuses after a change of its own. -/
theorem console_over_bus_refused_step :
    let host : ScriptedHost := { assembly := [⟨⟨0, 0⟩, "nop"⟩] }
    let s : Session := { resolve := fun _ => none, codeSize := .bits16 }
    let steps : List (Step ScriptedHost) :=
      [.line "u 0:0", .stopped { eip := 7 }, .change fun h => { h with failures := [("*", "no")] },
        .line "n"]
    let direct := history builtinTable ScriptedHost.answer s host steps
    (∀ b ∈ direct, ∀ e ∈ b.exchanges, e.Fits) ∧ List.Forall₂ Mirrors direct
      (history builtinTable (recording "com.dosbox" ScriptedHost.answer) s (host, [])
        (steps.map step)) := by
  intro host s steps direct
  have hfits : ∀ b ∈ direct, ∀ e ∈ b.exchanges, e.Fits := by decide +kernel
  exact ⟨hfits, (console_over_bus "com.dosbox" host s steps hfits).1⟩

end Bus

end DebugConsole
