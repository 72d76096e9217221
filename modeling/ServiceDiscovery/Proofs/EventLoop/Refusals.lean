import ServiceDiscovery.Proofs.EventLoop.Aftermath
import ServiceDiscovery.Proofs.EventLoop.Pinned
import ServiceDiscovery.Proofs.Responder.Fates

/-!
# Refusals

A request that is refused leaves no trace.

* A responder that refuses stays as it was (`Responder.Dealings.RefusesCleanly`), but that a
  resolution may use a number up.  Such a number was skipped for good: it is never given to anybody
  (`Responder.Dealings.Skipped`).
* A sweep that is refused does not start, and a loop whose sweep has not started yet treats every
  query like the first one (`EventLoop.Idles`).
* A registration that fails does not start the event loop, and changes nothing but what the engine
  itself makes of its refusal (`Agent.RegistersCleanly`).  Where that is nothing
  (`Engine.PublishesCleanly`), whoever tries to register in vain might as well not have tried.
-/

namespace ServiceDiscovery

/-! ### A responder that refuses -/

namespace Responder
namespace Dealings

/-- A number that was used up, and not given to anybody. -/
structure Skipped (id : Nat) (c : Dealings) : Prop where
  lt : id < c.responder.nextResolution
  unused : id ∉ acceptances c.history

namespace Skipped

variable {id : Nat} {c : Dealings}

/-- Numbers that are given later are greater. -/
theorem advance (h : c.Skipped id) (input : Input) : (c.advance input).Skipped id := by
  -- a step that accepts nothing leaves the number passed over
  have h_le {d : Dealing} {r : Responder} (hr : c.responder.nextResolution ≤ r.nextResolution)
      (hd : ∀ id', d ≠ .accepted id') :
      Skipped id { responder := r, history := c.history ++ [d] } :=
    ⟨Nat.lt_of_lt_of_le h.lt hr, by rw [acceptances_concat hd]; exact h.unused⟩
  unfold Dealings.advance
  obtain ⟨id', hd, h_id, h_next, -⟩ | ⟨id', hd, h_next, -⟩ | ⟨event, hd, h_next, -⟩ |
    ⟨hd, h_next, -⟩ := step_cases input c.responder <;> rw [hd]
  · -- the number that is accepted is the next one, and `id` lies before it
    refine ⟨?_, ?_⟩
    · rw [h_next, h_id]
      exact Nat.lt_succ_of_lt h.lt
    · rw [acceptances_append]
      intro h_mem
      rcases List.mem_append.mp h_mem with h_mem | h_mem
      · exact h.unused h_mem
      · have h_eq : id = id' := List.mem_singleton.mp h_mem
        exact absurd (h_eq.trans h_id) (Nat.ne_of_lt h.lt)
  · -- an answer that accepts nothing, an event, or nothing at all
    exact h_le (Nat.le_of_eq h_next.symm) (by simp)
  · exact h_le (Nat.le_of_eq h_next.symm) (by simp)
  · exact h_le h_next (by simp)

theorem after (h : c.Skipped id) (inputs : List Input) : (c.after inputs).Skipped id := by
  induction inputs using List.reverseRecOn with
  | nil => exact h
  | append_singleton inputs input ih => rw [after_concat]; exact ih.advance input

/-- Nothing is ever heard of it. -/
theorem silent (h : c.Skipped id) (hc : c.Accounted) :
    id ∉ reportedEnds c.history ∧ id ∉ inHand c.responder :=
  ⟨fun h_mem => h.unused (hc.mem_acceptances_of_reported h_mem),
    fun h_mem => h.unused (hc.held id h_mem).mem_acceptances⟩

end Skipped

/-- What a responder that was dealt with leaves of a request that it refuses. -/
structure RefusesCleanly (c : Dealings) : Prop where
  publish {ad : Advertisement} {refusal : Refusal} {r : Responder} :
    c.responder.publish ad = (.error refusal, r) → r = c.responder
  browse {type : String} {scope : IpScope} {refusal : Refusal} {r : Responder} :
    c.responder.browse type scope = (.error refusal, r) → r = c.responder
  /-- A number that was used up by the refusal is never given to anybody, and nothing is ever heard
  of it. -/
  resolve {k : Sighting} {q : IpScope} {refusal : Refusal} {r : Responder} :
    c.responder.resolve k q = (.error refusal, r) →
      r = c.responder ∨
      r = { c.responder with nextResolution := c.responder.nextResolution + 1 } ∧
        ∀ later, let c' := (c.advance (.resolve k q)).after later
          c.responder.nextResolution ∉ acceptances c'.history ∧
            c.responder.nextResolution ∉ reportedEnds c'.history ∧
            c.responder.nextResolution ∉ inHand c'.responder

theorem RefusesCleanly.of_accounted {c : Dealings} (hc : c.Accounted) : c.RefusesCleanly where
  publish {ad refusal r} h := by
    obtain ⟨_, h_eq⟩ | ⟨_, _, -, -, -, h_eq⟩ := publish_cases ad c.responder
    · -- a refused publish changes nothing
      exact (congrArg Prod.snd (h_eq.symm.trans h)).symm
    · cases h_eq.symm.trans h
  browse {type scope refusal r} h := by
    obtain ⟨_, h_eq⟩ | ⟨_, -, -, -, h_eq⟩ := browse_cases type scope c.responder
    · -- and so does a refused browse
      exact (congrArg Prod.snd (h_eq.symm.trans h)).symm
    · cases h_eq.symm.trans h
  resolve {k q refusal r} h := by
    -- a resolve that is refused early changes nothing, later it has used up a number
    obtain ⟨_, h_eq⟩ | ⟨_, h_eq⟩ | ⟨_, -, -, ⟨_, -, h_eq⟩ | ⟨_, -, -, h_eq⟩⟩ :=
      resolve_cases k q c.responder <;> cases h_eq.symm.trans h
    · exact .inl rfl
    · refine .inr ⟨rfl, fun later => ?_⟩
      have h_step : c.responder.step (.resolve k q) = (c.responder.useNumber, .nothing) := by
        simp only [step, h_eq]
      -- the number that it has used is not among those that were accepted
      have h_skipped : (c.advance (.resolve k q)).Skipped c.responder.nextResolution := by
        unfold Dealings.advance
        rw [h_step]
        refine ⟨Nat.lt_succ_self _, ?_⟩
        rw [acceptances_concat (d := .nothing) (by simp)]
        exact fun h_mem => absurd (hc.accepted_lt _ h_mem) (Nat.lt_irrefl _)
      have h_later := h_skipped.after later
      exact ⟨h_later.unused, h_later.silent ((hc.advance (.resolve k q)).after later)⟩

end Dealings
end Responder

variable {σ ω : Type} [Engine σ] {world : ω → σ → σ}

/-! ### A sweep that is refused -/

theorem Sweep.start_refused {s s' : Sweep} {e e' : σ} {scope : IpScope} {refusal : Refusal}
    (h : s.start scope e = (.error refusal, s', e')) :
    s' = s ∧ Engine.browse serverType scope e = (.error refusal, e') := by
  unfold Sweep.start at h
  -- the engine is asked first, and what it refuses leaves the sweep alone
  rcases h_browse : Engine.browse serverType scope e with ⟨refusal' | _, e''⟩
  · rw [h_browse] at h
    cases h
    exact ⟨rfl, rfl⟩
  · rw [h_browse] at h
    cases h

namespace EventLoop

variable {l : EventLoop σ}

/-- What becomes of a loop whose sweep has not started. -/
structure Idles (world : ω → σ → σ) (l : EventLoop σ) : Prop where
  fresh : l.sweep = .fresh
  nobody : l.parked = []
  /-- An engine that has failed is not asked. -/
  failed : Engine.failed l.engine = true → ∀ ticket scope,
    l.step world (.command ticket (.query scope)) = (l, { replies := [(ticket, .urls ∅)] })
  /-- Any other is asked by every query, and leaves at most a trace in itself if it refuses. -/
  refused : Engine.failed l.engine = false → ∀ ticket scope refusal engine,
    Engine.browse serverType scope l.engine = (.error refusal, engine) →
      l.step world (.command ticket (.query scope)) =
        ({ l with engine },
          { replies := [(ticket, .urls ∅)], notices := [.browsingRefused refusal] })
  accepted : Engine.failed l.engine = false → ∀ ticket scope engine,
    Engine.browse serverType scope l.engine = (.ok (), engine) →
      l.step world (.command ticket (.query scope)) =
        ({ engine, sweep := { l.sweep with started := true }, parked := [ticket] }, {})
  /-- Nothing else starts the sweep. -/
  started (input : Input ω) : (l.step world input).1.sweep.started = true →
    ∃ ticket scope, input = .command ticket (.query scope) ∧
      (Engine.browse serverType scope l.engine).1 = .ok ()

theorem idles_of (h_fresh : l.FreshUntilStarted) (h_parked : l.ParkedWhileBrowsing)
    (h_idle : l.sweep.started = false) : l.Idles world := by
  -- nothing is listed, and nobody waits
  have h_sweep : l.sweep = .fresh := h_fresh h_idle
  have h_progress : l.sweep.progress = .idle := (Sweep.progress_eq_idle_iff _).mpr h_idle
  have h_nobody : l.parked = [] := h_parked.parked_eq_nil (by rw [h_progress]; decide)
  refine ⟨h_sweep, h_nobody, fun h_failed ticket scope => ?_,
    fun h_alive ticket scope refusal engine h_browse => ?_,
    fun h_alive ticket scope engine h_browse => ?_, fun input h_started => ?_⟩
  · -- the engine has failed: the answer is empty, and nothing has been asked
    refine step_query_of world ?_ (answerParked_of_nil h_nobody)
    simp only [query, h_progress, h_failed, if_true]
  · -- the engine refuses: the answer is empty, and the sweep stays idle
    refine step_query_of world ?_ (answerParked_of_nil h_nobody)
    simp only [query, h_progress, h_alive, Sweep.start, h_browse]
    rfl
  · -- the engine accepts: the query waits
    refine step_query_of world ?_ (answerParked_of_browsing ?_)
    · simp only [query, h_progress, h_alive, Sweep.start, h_browse, h_nobody]
      rfl
    · rw [h_sweep]
      rfl
  · -- only a query that the engine accepts starts the sweep
    rw [started_step, h_idle, Bool.false_or] at h_started
    obtain ⟨scope, h_for⟩ := Option.isSome_iff_exists.mp h_started
    obtain ⟨ticket, rfl⟩ := query_of_startedFor? h_for
    exact ⟨ticket, scope, rfl, congrArg Prod.fst (browse_of_startedFor? h_for).2.2⟩

/-- Publishing does nothing but what it does to the engine. -/
theorem serve_publish (h : l.ParkedWhileBrowsing) (ticket : Nat) (ad : Advertisement) :
    l.serve ticket (.publish ad) =
      ({ l with engine := (Engine.publish ad l.engine).2 },
        { replies := [(ticket, .publish (Engine.publish ad l.engine).1)] }) := by
  have h_obey : (l.obey ticket (.publish ad)).1.ParkedWhileBrowsing := h
  unfold serve
  dsimp only
  rw [h_obey.answerParked]
  rfl

end EventLoop

/-! ### Registrations that fail -/

/-- An engine that refuses to publish is left as it was. -/
def Engine.PublishesCleanly (σ : Type) [Engine σ] : Prop :=
  ∀ (ad : Advertisement) (e e' : σ) (refusal : Refusal),
    Engine.publish ad e = (.error refusal, e') → e' = e

theorem Responder.publishesCleanly : Engine.PublishesCleanly Responder := by
  intro ad r r' refusal h
  obtain ⟨_, h_eq⟩ | ⟨_, _, -, -, -, h_eq⟩ := publish_cases ad r
  · exact (congrArg Prod.snd (h_eq.symm.trans h)).symm
  · cases h_eq.symm.trans h

theorem Seat.publishesCleanly : Engine.PublishesCleanly Seat := by
  intro ad s s' refusal h
  change s.publish ad = _ at h
  unfold Seat.publish at h
  dsimp only at h
  split at h
  · exact (congrArg Prod.snd h).symm
  · split at h <;> cases h

namespace Agent

variable {a : Agent σ}

/-- What becomes of an agent that registers: it is told why that fails, and stays as it was but for
what the engine makes of its refusal; or the engine publishes, and the event loop runs from then
on. -/
structure RegistersCleanly (a : Agent σ) : Prop where
  refused {tag port : String} {scope : IpScope} : (a.register tag port scope).2 ≠ [] →
    (a.register tag port scope).1 = a ∨
      ∃ ad e refusal e', a.engine? = some e ∧ Engine.publish ad e = (.error refusal, e') ∧
        (a.register tag port scope).1 = a.mapEngine fun _ => e'
  accepted {tag port : String} {scope : IpScope} : (a.register tag port scope).2 = [] →
    ∃ number e e', Text.parsePort port = .ok number ∧ a.engine? = some e ∧
      Engine.publish (.ofServer (Engine.info e).hostName tag number scope) e = (.ok (), e') ∧
      (a.register tag port scope).1 = (a.mapEngine fun _ => e').start

/-- **The three ways of a registration.** It is not even tried, or the engine refuses, or the engine
publishes. -/
theorem register_cases (h : a.Runs world) (tag port : String) (scope : IpScope) :
    (∃ notice, a.register tag port scope = (a, [notice])) ∨
    ∃ number e, Text.parsePort port = .ok number ∧ a.engine? = some e ∧
      ∃ e', (∃ refusal,
          Engine.publish (.ofServer (Engine.info e).hostName tag number scope) e =
            (.error refusal, e') ∧
          a.register tag port scope =
            (a.mapEngine fun _ => e', [.registrationRefused refusal])) ∨
        Engine.publish (.ofServer (Engine.info e).hostName tag number scope) e = (.ok (), e') ∧
          a.register tag port scope = ((a.mapEngine fun _ => e').start, []) := by
  unfold register
  cases h_port : Text.parsePort port with
  -- a port that is no number is refused before the engine is asked
  | error fault => exact .inl ⟨_, rfl⟩
  | ok number =>
    cases a with
    -- there is no engine to ask
    | unavailable => exact .inl ⟨_, rfl⟩
    | resting e =>
      dsimp only
      split
      · -- the engine has failed
        exact .inl ⟨_, rfl⟩
      · refine .inr ⟨number, e, rfl, rfl, ?_⟩
        rcases h_publish : Engine.publish (.ofServer (Engine.info e).hostName tag number scope) e
          with ⟨refusal | _, e'⟩
        · exact ⟨e', .inl ⟨refusal, rfl, rfl⟩⟩
        · exact ⟨e', .inr ⟨rfl, rfl⟩⟩
    | running l =>
      refine .inr ⟨number, l.engine, rfl, rfl, ?_⟩
      -- the loop has got where it is by a course, so nobody is parked without cause
      obtain ⟨e, inputs, rfl⟩ := h l rfl
      dsimp only
      rw [EventLoop.serve_publish (EventLoop.parkedWhileBrowsing_after world e inputs)]
      generalize ((EventLoop.ofEngine e).after world inputs).1 = l
      rcases h_publish : Engine.publish
        (.ofServer (Engine.info l.engine).hostName tag number scope) l.engine with ⟨refusal | _, e'⟩
      · exact ⟨e', .inl ⟨refusal, rfl, rfl⟩⟩
      · exact ⟨e', .inr ⟨rfl, rfl⟩⟩

theorem registersCleanly (h : a.Runs world) : a.RegistersCleanly where
  refused {tag port scope} h_notices := by
    obtain ⟨notice, h_eq⟩ | ⟨number, e, -, h_engine, e', ⟨refusal, h_publish, h_eq⟩ | ⟨-, h_eq⟩⟩ :=
      register_cases h tag port scope <;> rw [h_eq] at h_notices ⊢
    · -- a notice says that it was refused: by the agent itself, or by the engine
      exact .inl rfl
    · exact .inr ⟨_, e, refusal, e', h_engine, h_publish, rfl⟩
    · exact absurd rfl h_notices
  accepted {tag port scope} h_notices := by
    obtain ⟨notice, h_eq⟩ | ⟨number, e, h_port, h_engine, e', ⟨refusal, -, h_eq⟩ |
      ⟨h_publish, h_eq⟩⟩ := register_cases h tag port scope <;> rw [h_eq] at h_notices ⊢
    · -- without a notice it has been accepted
      cases h_notices
    · cases h_notices
    · exact ⟨number, e, e', h_port, h_engine, h_publish, rfl⟩

omit [Engine σ] in
/-- An engine that stays as it was leaves the agent as it was. -/
theorem mapEngine_of_engine? {e : σ} (h : a.engine? = some e) : (a.mapEngine fun _ => e) = a := by
  cases a <;> cases h <;> rfl

/-- Where refusing leaves no trace in the engine, it leaves none in the agent. -/
theorem RegistersCleanly.eq_of_refused (h : a.RegistersCleanly) (hc : Engine.PublishesCleanly σ)
    {tag port : String} {scope : IpScope} (h_notices : (a.register tag port scope).2 ≠ []) :
    (a.register tag port scope).1 = a := by
  obtain h_eq | ⟨ad, e, refusal, e', h_engine, h_publish, h_eq⟩ := h.refused h_notices
  · exact h_eq
  · rw [h_eq, hc ad e e' refusal h_publish, mapEngine_of_engine? h_engine]

end Agent

/-- **Refusals leave no trace.** Whatever was done to a responder, one that refuses to publish, to
browse or to resolve stays as it was, except that it may skip a number.

A sweep that is refused stays as it was, and not started.  Until some query starts the sweep of a
loop, each of them asks the engine again unless it has failed, and nothing but the engine is
different for the queries that were refused.

A registration that fails, for whatever reason, does not start the event loop of an agent.  If the
engine leaves no trace of its refusals, as those here do, the agent is the same as before; otherwise
only the engine may be different. -/
theorem refusals_leave_no_trace (world : ω → σ → σ) :
    (∀ os settings opened inputs, ((Responder.Dealings.ofResponder
      (.on os settings opened)).after inputs).RefusesCleanly) ∧
    (∀ (s s' : Sweep) scope (e e' : σ) refusal, s.start scope e = (.error refusal, s', e') →
      s' = s ∧ (s.started = false → s'.progress = .idle)) ∧
    (∀ (e : σ) inputs, ((EventLoop.ofEngine e).after world inputs).1.sweep.started = false →
      ((EventLoop.ofEngine e).after world inputs).1.Idles world) ∧
    (∀ start : Agent σ, (∀ l, start ≠ .running l) → ∀ inputs,
      (start.after world inputs).RegistersCleanly ∧
      (Engine.PublishesCleanly σ → ∀ tag port scope,
        ((start.after world inputs).register tag port scope).2 ≠ [] →
          ((start.after world inputs).register tag port scope).1 = start.after world inputs)) ∧
    Engine.PublishesCleanly Responder ∧ Engine.PublishesCleanly Seat := by
  refine ⟨fun os settings opened inputs => ?_, fun s s' scope e e' refusal h => ?_,
    fun e inputs h_idle => ?_, fun start h_start inputs => ?_, Responder.publishesCleanly,
    Seat.publishesCleanly⟩
  · exact .of_accounted (Responder.Dealings.Accounted.after (.fresh os settings opened) inputs)
  · obtain rfl := (Sweep.start_refused h).1
    exact ⟨rfl, (Sweep.progress_eq_idle_iff s').mpr⟩
  · exact EventLoop.idles_of (EventLoop.freshUntilStarted_after world e inputs)
      (EventLoop.parkedWhileBrowsing_after world e inputs) h_idle
  · have h_runs : start.Runs world := fun l h => absurd h (h_start l)
    have h_cleanly := Agent.registersCleanly (h_runs.after inputs)
    exact ⟨h_cleanly, fun hc _ _ _ h_notices => h_cleanly.eq_of_refused hc h_notices⟩

end ServiceDiscovery
