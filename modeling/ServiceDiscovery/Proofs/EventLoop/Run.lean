import ServiceDiscovery.Discovery.EventLoop
import Mathlib.Data.List.Induction

/-!
# Runs of an event loop

An event loop goes through a list of inputs (`EventLoop.Input`): commands, chances to take in an
event of its engine, and happenings outside, which reach the engine alone.  What a happening does to
the engine is said by a `world : ω → σ → σ`, which is any function here: a statement about all
worlds holds whatever the engine comes to report, and however its events are interleaved with the
commands.

`EventLoop.after` is the loop after some inputs, with everything it has shown on the way.  What one
input preserves, a whole run preserves (`EventLoop.after_invariant`); a statement that also speaks
of what was shown is proved by taking the last input off (`EventLoop.after_concat`).
-/

namespace ServiceDiscovery

theorem Effects.append_nothing (a : Effects) : a ++ {} = a := by
  show Effects.mk (a.replies ++ []) (a.notices ++ []) = a
  rw [List.append_nil, List.append_nil]

namespace EventLoop

/-- What an event loop goes through. -/
inductive Input (ω : Type)
  | command (ticket : Nat) (command : Command)
  /-- The engine is asked for an event, which is taken in if there is one. -/
  | poll
  /-- Something happens outside, and reaches the engine alone. -/
  | outside (happening : ω)

variable {σ ω : Type} [Engine σ] (world : ω → σ → σ)

/-- Goes through one input. -/
def step (input : Input ω) (l : EventLoop σ) : EventLoop σ × Effects :=
  match input with
  | .command ticket command => l.serve ticket command
  | .poll => l.poll.2
  | .outside happening => ({ l with engine := world happening l.engine }, {})

/-- Goes through some inputs, and gathers what is shown. -/
def after (inputs : List (Input ω)) (l : EventLoop σ) : EventLoop σ × Effects :=
  inputs.foldl
    (fun (l, shown) input =>
      let (l, more) := l.step world input
      (l, shown ++ more))
    (l, {})

@[simp] theorem after_nil (l : EventLoop σ) : l.after world [] = (l, {}) := rfl

/-- The last input of a run acts on what the others leave. -/
theorem after_concat (inputs : List (Input ω)) (input : Input ω) (l : EventLoop σ) :
    l.after world (inputs ++ [input]) =
      (((l.after world inputs).1.step world input).1,
        (l.after world inputs).2 ++ ((l.after world inputs).1.step world input).2) := by
  simp only [after, List.foldl_append, List.foldl_cons, List.foldl_nil]

/-- **Invariants of runs.** What holds at the beginning and is preserved by every input holds after
every run. -/
theorem after_invariant {P : EventLoop σ → Prop} {l : EventLoop σ} (hl : P l)
    (hstep : ∀ input l, P l → P (l.step world input).1) (inputs : List (Input ω)) :
    P (l.after world inputs).1 := by
  induction inputs using List.reverseRecOn with
  | nil => exact hl
  | append_singleton inputs input ih =>
    rw [after_concat]
    exact hstep input _ ih

/-! ### What a step does -/

/-- Where the engine has to wait, polling changes the engine alone. -/
theorem step_poll_none {l : EventLoop σ} (h : (Engine.next l.engine).event = none) :
    l.step world .poll =
      ({ l with engine := (Engine.next l.engine).engine },
        { notices := (Engine.next l.engine).notices }) := by
  simp only [step, poll, h]

/-- Where the engine has an event, polling takes it in. -/
theorem step_poll_some {l : EventLoop σ} {event : Event}
    (h : (Engine.next l.engine).event = some event) :
    l.step world .poll =
      (({ l with engine := (Engine.next l.engine).engine }.receive event).1,
        { notices := (Engine.next l.engine).notices } ++
          ({ l with engine := (Engine.next l.engine).engine }.receive event).2) := by
  simp only [step, poll, h]

/-- **The five ways of a query.** Before the sweep has started, the engine has failed, or it refuses
to browse, or the sweep starts; while the sweep is under way the query waits; after that it is
answered. -/
theorem query_cases (ticket : Nat) (scope : IpScope) (l : EventLoop σ) :
    (l.sweep.progress = .idle ∧ Engine.failed l.engine = true ∧
      l.query ticket scope = (l, { replies := [(ticket, .urls ∅)] })) ∨
    (l.sweep.progress = .idle ∧ Engine.failed l.engine = false ∧
      ∃ refusal engine, Engine.browse serverType scope l.engine = (.error refusal, engine) ∧
        l.query ticket scope =
          ({ l with engine },
            { replies := [(ticket, .urls ∅)], notices := [.browsingRefused refusal] })) ∨
    (l.sweep.progress = .idle ∧ Engine.failed l.engine = false ∧
      ∃ engine, Engine.browse serverType scope l.engine = (.ok (), engine) ∧
        l.query ticket scope =
          ({ engine, sweep := { l.sweep with started := true }, parked := l.parked ++ [ticket] },
            {})) ∨
    (l.sweep.progress = .browsing ∧
      l.query ticket scope = ({ l with parked := l.parked ++ [ticket] }, {})) ∨
    (l.sweep.progress = .complete ∧
      l.query ticket scope = (l, { replies := [(ticket, .urls l.sweep.urls)] })) := by
  unfold query
  cases hp : l.sweep.progress with
  | idle =>
    -- an idle sweep asks the engine, unless it has failed
    cases hf : Engine.failed l.engine with
    | true => exact .inl ⟨rfl, rfl, rfl⟩
    | false =>
      rcases hb : Engine.browse serverType scope l.engine with ⟨refusal | _, engine⟩
      · refine .inr (.inl ⟨rfl, rfl, refusal, engine, rfl, ?_⟩)
        simp [Sweep.start, hb]
      · refine .inr (.inr (.inl ⟨rfl, rfl, engine, rfl, ?_⟩))
        simp [Sweep.start, hb]
  -- the scope only counts where the sweep has not started
  | browsing => exact .inr (.inr (.inr (.inl ⟨rfl, rfl⟩)))
  | complete => exact .inr (.inr (.inr (.inr ⟨rfl, rfl⟩)))

/-- **What a command does.** It leaves the sweep and its engine alone, or publishes, or asks to
browse; and then the sweep starts, unless the engine refuses. -/
theorem obey_cases (ticket : Nat) (command : Command) (l : EventLoop σ) :
    ((l.obey ticket command).1.sweep = l.sweep ∧ (l.obey ticket command).1.engine = l.engine) ∨
    (∃ ad, (l.obey ticket command).1.sweep = l.sweep ∧
      (l.obey ticket command).1.engine = (Engine.publish ad l.engine).2) ∨
    (∃ scope, (l.obey ticket command).1.sweep = l.sweep ∧
      (l.obey ticket command).1.engine = (Engine.browse serverType scope l.engine).2) ∨
    ∃ scope engine, Engine.browse serverType scope l.engine = (.ok (), engine) ∧
      (l.obey ticket command).1.sweep = { l.sweep with started := true } ∧
      (l.obey ticket command).1.engine = engine := by
  cases command with
  | status => exact .inl ⟨rfl, rfl⟩
  | info => exact .inl ⟨rfl, rfl⟩
  | publish ad => exact .inr (.inl ⟨ad, rfl, rfl⟩)
  | query scope =>
    -- of a query it only matters what it makes of the sweep and the engine
    rw [obey]
    obtain ⟨-, -, hq⟩ | ⟨-, -, refusal, engine, hb, hq⟩ | ⟨-, -, engine, hb, hq⟩ | ⟨-, hq⟩ |
      ⟨-, hq⟩ := query_cases ticket scope l <;> rw [hq]
    · exact .inl ⟨rfl, rfl⟩
    · exact .inr (.inr (.inl ⟨scope, rfl, by rw [hb]⟩))
    · exact .inr (.inr (.inr ⟨scope, engine, hb, rfl, rfl⟩))
    · exact .inl ⟨rfl, rfl⟩
    · exact .inl ⟨rfl, rfl⟩

/-- **What an event does.** It leaves the sweep and its engine alone, or the engine has failed and
the sweep is given up, or the sweep takes it in. -/
theorem handle_cases (event : Event) (l : EventLoop σ) :
    ((l.handle event).1.sweep = l.sweep ∧ (l.handle event).1.engine = l.engine) ∨
    (event = .engine .failure ∧ (l.handle event).1.sweep = (l.sweep.giveUp l.engine).1 ∧
      (l.handle event).1.engine = (l.sweep.giveUp l.engine).2) ∨
    ((l.handle event).1.sweep = (l.sweep.handle event l.engine).1 ∧
      (l.handle event).1.engine = (l.sweep.handle event l.engine).2.1) := by
  cases event with
  | engine state =>
    cases state with
    | failure => exact .inr (.inl ⟨rfl, rfl, rfl⟩)
    | _ => exact .inl ⟨rfl, rfl⟩
  | established => exact .inl ⟨rfl, rfl⟩
  | nameTaken => exact .inl ⟨rfl, rfl⟩
  | publishFailed reason => exact .inl ⟨rfl, rfl⟩
  -- everything else is about browsing or about a resolution
  | _ => exact .inr (.inr ⟨rfl, rfl⟩)

variable {world} in
/-- **What a step preserves.** A property of the sweep and its engine is preserved by every input if
it is preserved by what a command does, by asking the engine for an event, by what an event does,
and by what happens outside.  Answering those who are parked concerns neither. -/
theorem step_invariant {P : EventLoop σ → Prop} {l : EventLoop σ}
    (h_frame : ∀ {l l' : EventLoop σ}, P l → l'.sweep = l.sweep → l'.engine = l.engine → P l')
    (h_obey : ∀ {l : EventLoop σ} ticket command, P l → P (l.obey ticket command).1)
    (h_next : ∀ {l : EventLoop σ}, P l → P { l with engine := (Engine.next l.engine).engine })
    (h_handle : ∀ {l : EventLoop σ} event, P l → P (l.handle event).1)
    (h_world : ∀ {l : EventLoop σ} happening, P l →
      P { l with engine := world happening l.engine })
    (h : P l) (input : Input ω) : P (l.step world input).1 := by
  -- answering the queries that wait touches neither the sweep nor the engine
  have h_answer : ∀ {l : EventLoop σ}, P l → P l.answerParked.1 := fun {l} h =>
    h_frame h (sweep_answerParked l) (engine_answerParked l)
  cases input with
  | command ticket command => exact h_answer (h_obey ticket command h)
  | poll =>
    cases he : (Engine.next l.engine).event with
    | none => rw [step_poll_none world he]; exact h_next h
    | some event => rw [step_poll_some world he]; exact h_answer (h_handle event (h_next h))
  | outside happening => exact h_world happening h

end EventLoop
end ServiceDiscovery
