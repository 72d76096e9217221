import ServiceDiscovery.Discovery.Sweep
import ServiceDiscovery.Proofs.Since

/-!
# The history of a sweep

What a sweep knows is said here in terms of its past.  A `Sweep.Course` takes a sweep and its
engine through a list of inputs (`Sweep.Input`): attempts to start, events, decisions to give up,
and happenings outside, which reach the engine alone.  On the way it writes down what occurred, as
it can be told from the inputs and the answers of the engine (`Sweep.Occurrence`).  No occurrence
is read off the table of outstanding resolutions or off the directory.

A resolution is in flight (`Sweep.InFlight`) since the engine accepted it and until it is closed.
The table of outstanding resolutions is exactly what is in flight
(`Sweep.Course.outstanding_iff_inFlight`); the proof is one lemma on what a step does to the table,
`Sweep.outstanding_step`, and an induction on the inputs from their end.
-/

namespace ServiceDiscovery

namespace Sweep

/-! ### Courses and what occurs in them -/

/-- What a sweep goes through. -/
inductive Input (ω : Type)
  | start (scope : IpScope)
  | handle (event : Event)
  | giveUp
  /-- Something happens outside, and reaches the engine alone. -/
  | outside (happening : ω)

/-- What can be told about an input from the answer of the engine. -/
inductive Occurrence
  /-- The engine began to browse. -/
  | began
  /-- The engine accepted to resolve a sighting, under a number. -/
  | resolving (id : Nat) (sighting : Sighting)
  /-- A sighting of a started sweep is gone. -/
  | vanished (sighting : Sighting)
  /-- A resolution was reported to have ended, with a contact if it succeeded.  It may be one that
  nobody waits for. -/
  | ended (id : Nat) (contact? : Option Contact)
  /-- A started sweep was given up, or its browsing failed. -/
  | givenUp
  /-- Nothing that concerns the sweep: it has not started, or the engine refused. -/
  | nothing

variable {σ ω : Type} [Engine σ] (world : ω → σ → σ)

/-- What an input amounts to.  Of the sweep it matters only whether it has started. -/
def occurrence (input : Input ω) (s : Sweep) (e : σ) : Occurrence :=
  match input with
  | .start scope =>
    match (Engine.browse serverType scope e).1 with
    | .ok () => .began
    | .error _ => .nothing
  | .handle (.appeared sighting) =>
    if s.started then
      match (Engine.resolve sighting sighting.protocol e).1 with
      | .ok id => .resolving id sighting
      | .error _ => .nothing
    else .nothing
  | .handle (.vanished sighting) => if s.started then .vanished sighting else .nothing
  | .handle (.browseFailed _) => if s.started then .givenUp else .nothing
  | .handle (.found id contact) => .ended id (some contact)
  | .handle (.unresolved id _) => .ended id none
  | .handle _ => .nothing
  | .giveUp => if s.started then .givenUp else .nothing
  | .outside _ => .nothing

/-- Goes through one input. -/
def step (input : Input ω) (s : Sweep) (e : σ) : Sweep × σ :=
  match input with
  | .start scope => (s.start scope e).2
  | .handle event => ((s.handle event e).1, (s.handle event e).2.1)
  | .giveUp => s.giveUp e
  | .outside happening => (s, world happening e)

/-- A sweep with its engine, and what has occurred so far. -/
structure Course (σ : Type) where
  sweep : Sweep
  engine : σ
  history : List Occurrence

namespace Course

/-- The course of a sweep that has not started. -/
def ofEngine (e : σ) : Course σ := { sweep := .fresh, engine := e, history := [] }

/-- Goes through one input, and writes down what occurs. -/
def advance (input : Input ω) (c : Course σ) : Course σ :=
  { sweep := (c.sweep.step world input c.engine).1
    engine := (c.sweep.step world input c.engine).2
    history := c.history ++ [occurrence input c.sweep c.engine] }

/-- Goes through some inputs. -/
def after (inputs : List (Input ω)) (c : Course σ) : Course σ :=
  inputs.foldl (fun c input => c.advance world input) c

@[simp] theorem after_nil (c : Course σ) : c.after world [] = c := rfl

theorem after_append (inputs inputs' : List (Input ω)) (c : Course σ) :
    c.after world (inputs ++ inputs') = (c.after world inputs).after world inputs' :=
  List.foldl_append

/-- The last input of a course acts on what the others leave. -/
theorem after_concat (inputs : List (Input ω)) (input : Input ω) (c : Course σ) :
    c.after world (inputs ++ [input]) = (c.after world inputs).advance world input := by
  rw [after_append]
  rfl

end Course

/-! ### What a step does -/

/-- **The six ways of a step.** What occurs says what becomes of the sweep, but for whether it is
surveyed. -/
theorem step_cases (input : Input ω) (s : Sweep) (e : σ) :
    (occurrence input s e = .began ∧ (s.step world input e).1 = { s with started := true }) ∨
    (∃ id k, occurrence input s e = .resolving id k ∧
      (s.step world input e).1 = { s with outstanding := s.outstanding.insert id k }) ∨
    (∃ k, occurrence input s e = .vanished k ∧
      (s.step world input e).1 = { s with directory := s.directory.erase k }) ∨
    (∃ id contact?, occurrence input s e = .ended id contact? ∧
      (s.step world input e).1 = (s.conclude id contact? e).1) ∨
    (occurrence input s e = .givenUp ∧
      (s.step world input e).1 = { s with outstanding := ∅, surveyed := true }) ∨
    (occurrence input s e = .nothing ∧
      ((s.step world input e).1 = s ∨ (s.step world input e).1 = { s with surveyed := true })) := by
  -- one case for each input; the engine's answer decides what it comes to
  cases input with
  | start scope =>
    -- the engine accepts or refuses
    rcases hb : Engine.browse serverType scope e with ⟨_ | _, e'⟩ <;>
      simp [step, start, occurrence, hb]
  | outside happening => simp [step, occurrence]
  | giveUp => cases hs : s.started <;> simp [step, giveUp, occurrence, hs]
  | handle event =>
    -- events on browsing count once the sweep has started, the ends of resolutions always
    cases event with
    | appeared k =>
      cases hs : s.started with
      | false => simp [step, handle, observe, occurrence, hs]
      | true =>
        -- only what the engine accepts is noted
        rcases hr : Engine.resolve k k.protocol e with ⟨_ | _, e'⟩ <;>
          simp [step, handle, observe, occurrence, hs, hr]
    | found id contact => simp [step, handle, occurrence]
    | unresolved id reason => simp [step, handle, occurrence]
    | browseFailed reason =>
      cases hs : s.started <;> simp [step, handle, observe, giveUp, occurrence, hs]
    | _ => cases hs : s.started <;> simp [step, handle, observe, occurrence, hs]

/-- Only a sighting that is reported to be gone vanishes, once the sweep has started. -/
theorem occurrence_eq_vanished_iff {input : Input ω} {s : Sweep} {e : σ} {k : Sighting} :
    occurrence input s e = .vanished k ↔ input = .handle (.vanished k) ∧ s.started = true := by
  unfold occurrence
  split <;> (try split) <;> (try split) <;> simp_all

/-- Only a resolution that is reported to have succeeded ends with a contact. -/
theorem occurrence_eq_ended_some_iff {input : Input ω} {s : Sweep} {e : σ} {id : Nat}
    {contact : Contact} :
    occurrence input s e = .ended id (some contact) ↔ input = .handle (.found id contact) := by
  unfold occurrence
  split <;> (try split) <;> (try split) <;> simp_all

/-- A sweep has started once the engine began to browse. -/
theorem started_step (input : Input ω) (s : Sweep) (e : σ) :
    (s.step world input e).1.started = true ↔
      s.started = true ∨ occurrence input s e = .began := by
  rcases step_cases world input s e with
    ⟨ho, hs⟩ | ⟨id, k, ho, hs⟩ | ⟨k, ho, hs⟩ | ⟨id, contact?, ho, hs⟩ | ⟨ho, hs⟩ | ⟨ho, hs | hs⟩ <;>
    rw [ho, hs] <;> simp

/-! ### Resolutions in flight -/

/-- An occurrence after which a number does not stand for the same resolution any more. -/
def Occurrence.Closes (id : Nat) : Occurrence → Prop
  | .resolving id' _ => id' = id
  | .ended id' _ => id' = id
  | .givenUp => True
  | _ => False

/-- The engine accepted to resolve a sighting under a number, and that resolution was not closed
since.  It is closed when it is reported to have ended, when the sweep is given up, or when the
engine hands its number out again, which engines are not supposed to do. -/
def InFlight (id : Nat) (k : Sighting) (history : List Occurrence) : Prop :=
  Since (fun _ o => o = .resolving id k) (fun _ o => o.Closes id) history

theorem not_inFlight_nil (id : Nat) (k : Sighting) : ¬ InFlight id k [] :=
  not_since_nil

/-- The table of resolutions follows what occurs, as `InFlight` does. -/
theorem outstanding_step (input : Input ω) (s : Sweep) (e : σ) (id : Nat) (k : Sighting) :
    (s.step world input e).1.outstanding[id]? = some k ↔
      occurrence input s e = .resolving id k ∨
        (s.outstanding[id]? = some k ∧ ¬ (occurrence input s e).Closes id) := by
  rcases step_cases world input s e with
    ⟨ho, hs⟩ | ⟨id', k', ho, hs⟩ | ⟨k', ho, hs⟩ | ⟨id', contact?, ho, hs⟩ | ⟨ho, hs⟩ |
    ⟨ho, hs | hs⟩ <;>
    rw [ho, hs]
  · simp [Occurrence.Closes]
  · -- a number that is handed out again stands for its new resolution
    by_cases hid : id' = id
    · subst hid
      simp [Occurrence.Closes]
    · simp [Occurrence.Closes, Std.ExtTreeMap.getElem?_insert, hid]
  · simp [Occurrence.Closes]
  · -- the end of a resolution frees its number, whether or not somebody waits for it
    rw [getElem?_outstanding_conclude]
    by_cases hid : id' = id <;> simp [Occurrence.Closes, hid]
  · simp [Occurrence.Closes]
  · simp [Occurrence.Closes]
  · simp [Occurrence.Closes]

namespace Course

variable {world}

/-- The sweep has started exactly if the engine once began to browse. -/
theorem started_iff_began (e : σ) (inputs : List (Input ω)) :
    ((ofEngine e).after world inputs).sweep.started = true ↔
      .began ∈ ((ofEngine e).after world inputs).history := by
  induction inputs using List.reverseRecOn with
  | nil => simp [ofEngine, fresh]
  | append_singleton inputs input ih =>
    rw [after_concat, advance, started_step, ih, List.mem_append, List.mem_singleton,
      @eq_comm _ Occurrence.began]

/-- **The table of resolutions is what is in flight.** -/
theorem outstanding_iff_inFlight (e : σ) (inputs : List (Input ω)) (id : Nat) (k : Sighting) :
    ((ofEngine e).after world inputs).sweep.outstanding[id]? = some k ↔
      InFlight id k ((ofEngine e).after world inputs).history := by
  induction inputs using List.reverseRecOn with
  | nil => simp [ofEngine, fresh, not_inFlight_nil]
  | append_singleton inputs input ih =>
    -- both sides of the induction hypothesis are followed by one occurrence
    rw [after_concat, advance, outstanding_step, InFlight, since_concat, ih, InFlight]

end Course

end Sweep
end ServiceDiscovery
