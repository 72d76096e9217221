import ServiceDiscovery.Proofs.EventLoop.Run

/-!
# Engines that answer alike

To speak of more than a loop shows, its engine is put into another one that passes every request on,
and remembers something on the way.  `Engine.Translates f` says that an engine answers every request
like the one that `f` finds in it.  Then the loop over the one is the loop over the other, and shows
the same (`EventLoop.after_map`).
-/

namespace ServiceDiscovery

variable {σ τ ω : Type} [Engine σ] [Engine τ] {f : τ → σ}

/-- Every request is answered as if the engine that `f` finds had been asked. -/
structure Engine.Translates (f : τ → σ) : Prop where
  state (e : τ) : Engine.state (f e) = Engine.state e
  info (e : τ) : Engine.info (f e) = Engine.info e
  publish (ad : Advertisement) (e : τ) :
    Engine.publish ad (f e) = ((Engine.publish ad e).1, f (Engine.publish ad e).2)
  browse (type : String) (scope : IpScope) (e : τ) :
    Engine.browse type scope (f e) =
      ((Engine.browse type scope e).1, f (Engine.browse type scope e).2)
  resolve (k : Sighting) (q : IpScope) (e : τ) :
    Engine.resolve k q (f e) = ((Engine.resolve k q e).1, f (Engine.resolve k q e).2)
  release (id : Nat) (e : τ) : Engine.release id (f e) = f (Engine.release id e)
  next (e : τ) : Engine.next (f e) =
    { event := (Engine.next e).event, notices := (Engine.next e).notices
      engine := f (Engine.next e).engine }

/-! ### Sweeps -/

namespace Sweep

theorem start_map (s : Sweep) (hf : Engine.Translates f) (scope : IpScope) (e : τ) :
    s.start scope (f e) =
      ((s.start scope e).1, (s.start scope e).2.1, f (s.start scope e).2.2) := by
  unfold start
  rw [hf.browse]
  rcases Engine.browse serverType scope e with ⟨refusal | _, e'⟩ <;> rfl

theorem foldl_release_map (hf : Engine.Translates f) (ids : List Nat) (e : τ) :
    ids.foldl (fun e id => Engine.release id e) (f e) =
      f (ids.foldl (fun e id => Engine.release id e) e) := by
  induction ids generalizing e with
  | nil => rfl
  | cons id ids ih => rw [List.foldl_cons, hf.release, ih, List.foldl_cons]

theorem giveUp_map (hf : Engine.Translates f) (s : Sweep) (e : τ) :
    s.giveUp (f e) = ((s.giveUp e).1, f (s.giveUp e).2) := by
  unfold giveUp
  rw [foldl_release_map hf]
  split <;> rfl

theorem conclude_map (hf : Engine.Translates f) (id : Nat) (contact? : Option Contact) (s : Sweep)
    (e : τ) : s.conclude id contact? (f e) =
      ((s.conclude id contact? e).1, f (s.conclude id contact? e).2) := by
  unfold conclude
  rw [hf.release]
  split
  · rfl
  · cases contact? <;> rfl

theorem observe_map (hf : Engine.Translates f) (event : Event) (s : Sweep) (e : τ) :
    s.observe event (f e) =
      ((s.observe event e).1, f (s.observe event e).2.1, (s.observe event e).2.2) := by
  unfold observe
  split
  · rfl
  · -- only two events make the sweep ask the engine
    cases event with
    | appeared k =>
      dsimp only
      rw [hf.resolve]
      rcases Engine.resolve k k.protocol e with ⟨refusal | id, e'⟩ <;> rfl
    | browseFailed reason => simp only [giveUp_map hf]
    | _ => rfl

theorem handle_map (hf : Engine.Translates f) (event : Event) (s : Sweep) (e : τ) :
    s.handle event (f e) =
      ((s.handle event e).1, f (s.handle event e).2.1, (s.handle event e).2.2) := by
  cases event with
  | found id contact => simp only [handle, conclude_map hf]
  | unresolved id reason => simp only [handle, conclude_map hf]
  | _ => simp only [handle, observe_map hf]

end Sweep

/-! ### Loops -/

namespace EventLoop

/-- The loop over the engine that `f` finds. -/
def map (f : τ → σ) (l : EventLoop τ) : EventLoop σ :=
  { engine := f l.engine, sweep := l.sweep, parked := l.parked }

omit [Engine σ] [Engine τ] in
theorem answerParked_map (l : EventLoop τ) :
    (l.map f).answerParked = (l.answerParked.1.map f, l.answerParked.2) := by
  show (if l.sweep.progress = .complete then _ else _) = _
  unfold answerParked
  split <;> rfl

theorem query_map (hf : Engine.Translates f) (ticket : Nat) (scope : IpScope) (l : EventLoop τ) :
    (l.map f).query ticket scope =
      ((l.query ticket scope).1.map f, (l.query ticket scope).2) := by
  have h_failed : Engine.failed (l.map f).engine = Engine.failed l.engine :=
    congrArg (· == .failure) (hf.state l.engine)
  have h_start : (l.map f).sweep.start scope (l.map f).engine = _ :=
    l.sweep.start_map hf scope l.engine
  unfold query
  rw [show (l.map f).sweep.progress = l.sweep.progress from rfl, h_failed, h_start]
  -- only an idle sweep asks the engine
  split
  · split
    · rfl
    · rcases l.sweep.start scope l.engine with ⟨refusal | _, sweep, e⟩ <;> rfl
  · rfl
  · rfl

theorem obey_map (hf : Engine.Translates f) (ticket : Nat) (command : Command) (l : EventLoop τ) :
    (l.map f).obey ticket command =
      ((l.obey ticket command).1.map f, (l.obey ticket command).2) := by
  cases command with
  | status => simp only [obey, map, Engine.failed, hf.state]
  | info => simp only [obey, map, hf.info]
  | publish ad => simp only [obey, map, hf.publish]
  | query scope => exact query_map hf ticket scope l

theorem handle_map (hf : Engine.Translates f) (event : Event) (l : EventLoop τ) :
    (l.map f).handle event = ((l.handle event).1.map f, (l.handle event).2) := by
  unfold handle
  split <;> simp only [map, Sweep.giveUp_map hf, Sweep.handle_map hf]

theorem receive_map (hf : Engine.Translates f) (event : Event) (l : EventLoop τ) :
    (l.map f).receive event = ((l.receive event).1.map f, (l.receive event).2) := by
  simp only [receive, handle_map hf, answerParked_map]

variable {world : ω → σ → σ} {behind : ω → τ → τ}

theorem step_map (hf : Engine.Translates f)
    (h_world : ∀ happening e, world happening (f e) = f (behind happening e)) (input : Input ω)
    (l : EventLoop τ) :
    (l.map f).step world input = ((l.step behind input).1.map f, (l.step behind input).2) := by
  cases input with
  | command ticket command => simp only [step, serve, obey_map hf, answerParked_map]
  | poll =>
    -- the turn of the engine is the translated one, so it brings the same event and notices
    have h_next : { l.map f with engine := (Engine.next (l.map f).engine).engine } =
        ({ l with engine := (Engine.next l.engine).engine } : EventLoop τ).map f :=
      congrArg (EventLoop.mk · l.sweep l.parked) (congrArg Turn.engine (hf.next l.engine))
    have h_same : (Engine.next (l.map f).engine).event = (Engine.next l.engine).event :=
      congrArg Turn.event (hf.next l.engine)
    have h_notices : (Engine.next (l.map f).engine).notices = (Engine.next l.engine).notices :=
      congrArg Turn.notices (hf.next l.engine)
    cases h_event : (Engine.next l.engine).event with
    | none =>
      rw [step_poll_none (l := l) _ h_event, step_poll_none _ (h_same.trans h_event), h_next,
        h_notices]
    | some event =>
      rw [step_poll_some (l := l) _ h_event, step_poll_some _ (h_same.trans h_event), h_next,
        h_notices, receive_map hf]
  | outside happening => simp only [step, map, h_world]

/-- **Loops over engines that answer alike.** -/
theorem after_map (hf : Engine.Translates f)
    (h_world : ∀ happening e, world happening (f e) = f (behind happening e))
    (inputs : List (Input ω)) (l : EventLoop τ) :
    (l.map f).after world inputs =
      ((l.after behind inputs).1.map f, (l.after behind inputs).2) := by
  induction inputs using List.reverseRecOn with
  | nil => rfl
  | append_singleton inputs input ih => rw [after_concat, after_concat, ih, step_map hf h_world]

end EventLoop
end ServiceDiscovery
