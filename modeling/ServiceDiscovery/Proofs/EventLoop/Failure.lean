import ServiceDiscovery.Proofs.EventLoop.Queries
import ServiceDiscovery.Proofs.Responder.Turns
import ServiceDiscovery.Proofs.Sweep.Grouping
import ServiceDiscovery.Segment.Member

/-!
# Engines that have failed

An engine may fail before its event loop is started, while it browses, or after servers were found.
What a caller is told depends on how far the sweep is, as a failure ends the sweep and takes nothing
off the directory.

* Before the sweep has started nothing is listed (`EventLoop.FreshUntilStarted`), and a query is
  answered at once that there are no servers.  The engine is not even asked to browse.
* While the sweep is under way a query is parked.  The report of the failure gives all resolutions
  up, and answers everybody in that very step with what has been found by then
  (`EventLoop.step_poll_of_failure`).
* After that a query is answered at once with what is listed (`EventLoop.step_query_of_failed`).

Whether a failed engine takes on anything else is up to the engine (`Engine.RefusesInFailure`): the
loop passes on what is published, and asks it to resolve who appears.
-/

namespace ServiceDiscovery

variable {σ ω : Type} [Engine σ] {world : ω → σ → σ}

/-! ### Engines in failure -/

namespace Engine

/-- While it has failed, an engine refuses whatever it is asked for. -/
structure RefusesInFailure (σ : Type) [Engine σ] : Prop where
  publish (advertisement : Advertisement) {e : σ} : failed e = true →
    ∃ refusal, (Engine.publish advertisement e).1 = .error refusal
  browse (type : String) (scope : IpScope) {e : σ} : failed e = true →
    ∃ refusal, (Engine.browse type scope e).1 = .error refusal
  resolve (k : Sighting) (protocol : IpScope) {e : σ} : failed e = true →
    ∃ refusal, (Engine.resolve k protocol e).1 = .error refusal

/-- An engine that is `down` has failed for good: whatever it is asked for and whatever happens to
it, it stays `down`, and it resolves nothing. -/
structure FailsForGood (world : ω → σ → σ) (down : σ → Prop) : Prop where
  failed {e : σ} : down e → failed e = true
  refuses (k : Sighting) (protocol : IpScope) {e : σ} : down e →
    ∃ refusal, (Engine.resolve k protocol e).1 = .error refusal
  publish (advertisement : Advertisement) {e : σ} :
    down e → down (Engine.publish advertisement e).2
  resolve (k : Sighting) (protocol : IpScope) {e : σ} :
    down e → down (Engine.resolve k protocol e).2
  release (id : Nat) {e : σ} : down e → down (Engine.release id e)
  next {e : σ} : down e → down (Engine.next e).engine
  world (happening : ω) {e : σ} : down e → down (world happening e)

end Engine

open Engine (FailsForGood RefusesInFailure)

namespace Responder

variable {r : Responder}

theorem refusesInFailure : RefusesInFailure Responder where
  publish ad {r} h := by
    have h_state : r.state = .failure := eq_of_beq h
    exact ⟨.notRunning, congrArg Prod.fst (if_pos h_state)⟩
  browse type scope {r} h := by
    have h_state : r.state = .failure := eq_of_beq h
    exact ⟨.notRunning, congrArg Prod.fst (if_pos h_state)⟩
  resolve k protocol {r} h := by
    have h_state : r.state = .failure := eq_of_beq h
    exact ⟨.notRunning, congrArg Prod.fst (if_pos h_state)⟩

/-- After a failure a turn only reports what is left. -/
theorem turn_of_failure (h : r.state = .failure) : r.turn = r.report [] := by
  unfold turn
  cases r.machine.inbox with
  | nil => rw [turnWith, if_pos (.inr h)]
  | cons arrival arrivals => rw [turnWith, if_pos (.inr h)]

@[simp] theorem state_report (notices : List Notice) (r : Responder) :
    (r.report notices).engine.state = r.state := by
  unfold report
  split <;> rfl

/-- A responder that has failed has failed for good. -/
theorem failsForGood : FailsForGood undergo fun r : Responder => r.state = .failure where
  failed h := beq_iff_eq.mpr h
  refuses k protocol {r} h := refusesInFailure.resolve k protocol (beq_iff_eq.mpr h)
  publish ad {r} h := by
    rw [show Engine.publish ad r = (.error .notRunning, r) from if_pos h]
    exact h
  resolve k protocol {r} h := by
    rw [show Engine.resolve k protocol r = (.error .notRunning, r) from if_pos h]
    exact h
  release id {r} h := h
  next {r} h := by
    -- what was still to be reported is reported, and nothing else
    rw [show (Engine.next r).engine = (r.report []).engine by
      rw [← turn_of_failure h]; rfl, state_report]
    exact h
  world happening {r} h := by
    cases happening with
    | timePasses time => exact h
    | systemChanges change => exact h
    | arrives family arrival =>
      unfold undergo arrive
      dsimp only
      split <;> split <;> exact h
    | breaksOff pause =>
      -- no turn is begun, so there is nothing to give up
      rw [undergo, (moves_breakOff pause r).eq_of_failure h]
      exact h

end Responder

theorem Seat.refusesInFailure : RefusesInFailure Seat where
  publish ad {seat} h := by
    have h_state : seat.member.state = .failure := eq_of_beq h
    exact ⟨.notRunning, congrArg Prod.fst (if_pos h_state)⟩
  browse type scope {seat} h := by
    have h_state : seat.member.state = .failure := eq_of_beq h
    exact ⟨.notRunning, congrArg Prod.fst (if_pos h_state)⟩
  resolve k protocol {seat} h := by
    have h_state : seat.member.state = .failure := eq_of_beq h
    exact ⟨.notRunning, congrArg Prod.fst (if_pos h_state)⟩

/-! ### Nothing is listed -/

/-- A view is empty if nothing is listed. -/
theorem Directory.urls_eq_empty_iff (d : Directory) : d.urls = ∅ ↔ ∀ k, d.get? k = none := by
  rw [Std.ExtTreeMap.eq_empty_iff_forall_not_mem]
  constructor
  · -- a listing would put its tag in the view
    intro h k
    refine Option.eq_none_iff_forall_ne_some.mpr fun l hl => ?_
    exact h l.tag (mem_urls.mpr ⟨k, l, hl, rfl⟩)
  · intro h tag h_mem
    obtain ⟨k, l, hl, -⟩ := mem_urls.mp h_mem
    exact absurd ((h k).symm.trans hl) (by simp)

namespace Sweep

variable {s : Sweep} {e : σ}

/-- Before the sweep has started an event about what is browsed for is not taken in. -/
theorem handle_fresh (event : Event) (e : σ) : fresh.handle event e = (fresh, e, []) := by
  cases event <;> rfl

/-- A sweep that is given up is not under way. -/
theorem progress_giveUp (s : Sweep) (e : σ) :
      (s.giveUp e).1.progress ≠ .browsing := by
  -- what has started is complete, and what has not stays idle
  cases hs : s.started with
  | true =>
    have h_complete : (s.giveUp e).1.progress = .complete := by
      unfold giveUp
      rw [if_pos hs]
      exact (progress_eq_complete_iff _).mpr ⟨hs, rfl, rfl⟩
    rw [h_complete]
    decide
  | false =>
    have h_idle : (s.giveUp e).1.progress = .idle :=
      (progress_eq_idle_iff _).mpr ((started_giveUp s e).trans hs)
    rw [h_idle]
    decide

theorem outstanding_giveUp {id : Nat} {k : Sighting}
    (h : (s.giveUp e).1.outstanding[id]? = some k) : s.outstanding[id]? = some k := by
  unfold giveUp at h
  split at h
  · exact absurd h (by simp)
  · exact h

/-- Who appears is not resolved if the engine refuses. -/
theorem observe_of_refused {k : Sighting}
    (h : ∃ refusal, (Engine.resolve k k.protocol e).1 = .error refusal) :
    (s.observe (.appeared k) e).1 = s := by
  obtain ⟨refusal, h_refusal⟩ := h
  unfold observe
  split
  · rfl
  · -- a sweep that has started hears the refusal
    rcases hr : Engine.resolve k k.protocol e with ⟨refusal' | id, e'⟩
    · simp only [hr]
    · rw [hr] at h_refusal
      exact absurd h_refusal (by simp)

/-- Where the engine refuses to resolve, no resolution starts. -/
theorem outstanding_observe_of_refused
    (h_refuses : ∀ k protocol, ∃ refusal, (Engine.resolve k protocol e).1 = .error refusal)
    (event : Event) {id : Nat} {k : Sighting}
    (h : (s.observe event e).1.outstanding[id]? = some k) : s.outstanding[id]? = some k := by
  cases event with
  | appeared k' => rwa [observe_of_refused (h_refuses k' k'.protocol)] at h
  | browseFailed reason =>
    unfold observe at h
    split at h
    · exact h
    · exact outstanding_giveUp h
  | _ =>
    -- no other event changes what is outstanding
    unfold observe at h
    split at h <;> exact h

theorem outstanding_handle_of_refused
    (h_refuses : ∀ k protocol, ∃ refusal, (Engine.resolve k protocol e).1 = .error refusal)
    (event : Event) {id : Nat} {k : Sighting}
    (h : (s.handle event e).1.outstanding[id]? = some k) : s.outstanding[id]? = some k := by
  -- a resolution that ends is not outstanding any more, and the others are as before
  have h_conclude : ∀ id' contact?,
      (s.conclude id' contact? e).1.outstanding[id]? = some k → s.outstanding[id]? = some k := by
    intro id' contact? h
    rw [getElem?_outstanding_conclude] at h
    split at h
    · exact absurd h (by simp)
    · exact h
  cases event with
  | found id' contact => exact h_conclude id' (some contact) h
  | unresolved id' reason => exact h_conclude id' none h
  | _ => exact outstanding_observe_of_refused h_refuses _ h

end Sweep

namespace EventLoop

variable {l : EventLoop σ}

/-! ### A sweep that has not started has found nothing -/

/-- The sweep has found something only if it has started. -/
def FreshUntilStarted (l : EventLoop σ) : Prop :=
  l.sweep.started = false → l.sweep = .fresh

theorem FreshUntilStarted.obey (h : l.FreshUntilStarted) (ticket : Nat) (command : Command) :
    (l.obey ticket command).1.FreshUntilStarted := by
  unfold FreshUntilStarted
  rcases obey_cases ticket command l with
    ⟨h_sweep, -⟩ | ⟨_, h_sweep, -⟩ | ⟨_, h_sweep, -⟩ | ⟨_, _, -, h_sweep, -⟩
  · exact h_sweep ▸ h
  · exact h_sweep ▸ h
  · exact h_sweep ▸ h
  · -- the sweep has started now
    rw [h_sweep]
    exact fun h => Bool.noConfusion h

theorem FreshUntilStarted.handle (h : l.FreshUntilStarted) (event : Event) :
    (l.handle event).1.FreshUntilStarted := by
  intro h_started
  rw [started_handle] at h_started
  have h_fresh := h h_started
  -- neither giving up nor an event does anything to a sweep that has not started
  rcases handle_cases event l with ⟨h_sweep, -⟩ | ⟨-, h_sweep, -⟩ | ⟨h_sweep, -⟩
  · rw [h_sweep, h_fresh]
  · rw [h_sweep, h_fresh]; rfl
  · rw [h_sweep, h_fresh, Sweep.handle_fresh]

/-- **Invariant preservation.** No input lets a sweep find something before it has started. -/
theorem FreshUntilStarted.step (h : l.FreshUntilStarted) (world : ω → σ → σ) (input : Input ω) :
    (l.step world input).1.FreshUntilStarted :=
  step_invariant (P := FreshUntilStarted)
    (fun h h_sweep _ => by unfold FreshUntilStarted; rw [h_sweep]; exact h)
    (fun ticket command h => h.obey ticket command) (fun h => h)
    (fun event h => h.handle event) (fun _ h => h) h input

theorem freshUntilStarted_after (world : ω → σ → σ) (e : σ) (inputs : List (Input ω)) :
    ((ofEngine e).after world inputs).1.FreshUntilStarted :=
  after_invariant world (fun _ => rfl) (fun input _ h => h.step world input) inputs

omit [Engine σ] in
/-- Before the sweep has started nobody is listed. -/
theorem FreshUntilStarted.urls_eq (h : l.FreshUntilStarted) (h_idle : l.sweep.progress = .idle) :
    l.sweep.urls = ∅ := by
  rw [h ((Sweep.progress_eq_idle_iff _).mp h_idle)]
  exact (Directory.urls_eq_empty_iff _).mpr Directory.get?_empty

/-! ### Queries that find the engine failed -/

omit [Engine σ] in
theorem answerParked_of_nil (h : l.parked = []) : l.answerParked = (l, {}) := by
  obtain ⟨engine, sweep, parked⟩ := l
  obtain rfl : parked = [] := h
  unfold EventLoop.answerParked
  split <;> rfl

omit [Engine σ] in
theorem answerParked_of_browsing (h : l.sweep.progress = .browsing) : l.answerParked = (l, {}) :=
  if_neg (by rw [h]; decide)

omit [Engine σ] in
/-- Where queries are parked only while the sweep is under way, nobody has to be answered. -/
theorem ParkedWhileBrowsing.answerParked (h : l.ParkedWhileBrowsing) :
    l.answerParked = (l, {}) := by
  by_cases hp : l.sweep.progress = .browsing
  · exact answerParked_of_browsing hp
  · exact answerParked_of_nil (h.parked_eq_nil hp)

/-- Where nobody has to be answered at its end, a step is what its query does. -/
theorem step_query_of (world : ω → σ → σ) {l' : EventLoop σ} {effects : Effects} {ticket : Nat}
    {scope : IpScope} (h_query : l.query ticket scope = (l', effects))
    (h_nobody : l'.answerParked = (l', {})) :
    l.step world (.command ticket (.query scope)) = (l', effects) := by
  show l.serve ticket (.query scope) = _
  -- nobody is answered besides
  unfold serve
  rw [show l.obey ticket (.query scope) = _ from h_query]
  dsimp only
  rw [h_nobody, Effects.append_nothing]

/-- Where the sweep is not under way, a query that finds the engine failed is answered at once with
what is listed, and nothing else happens. -/
theorem step_query_of_failed (world : ω → σ → σ) (h_failed : Engine.failed l.engine = true)
    (h_parked : l.ParkedWhileBrowsing) (h_fresh : l.FreshUntilStarted)
    (hp : l.sweep.progress ≠ .browsing) (ticket : Nat) (scope : IpScope) :
    l.step world (.command ticket (.query scope)) =
      (l, { replies := [(ticket, .urls l.sweep.urls)] }) := by
  have h_query : l.query ticket scope = (l, { replies := [(ticket, .urls l.sweep.urls)] }) := by
    rcases query_cases ticket scope l with
      ⟨h_idle, -, hq⟩ | ⟨-, hf, -⟩ | ⟨-, hf, -⟩ | ⟨h_browsing, -⟩ | ⟨-, hq⟩
    · -- the engine is not asked, and nobody is listed
      rw [hq, h_fresh.urls_eq h_idle]
    · -- an engine that has failed is not asked to browse
      rw [h_failed] at hf; exact Bool.noConfusion hf
    · rw [h_failed] at hf; exact Bool.noConfusion hf
    · exact absurd h_browsing hp
    · exact hq
  -- the query has left the loop as it was, so there is nobody to be answered at the end of the step
  exact step_query_of world h_query h_parked.answerParked

/-- Publishing is answered with what the engine says. -/
theorem step_publish (world : ω → σ → σ) (h_parked : l.ParkedWhileBrowsing) (ticket : Nat)
    (ad : Advertisement) :
    (l.step world (.command ticket (.publish ad))).2.replies =
      [(ticket, .publish (Engine.publish ad l.engine).1)] := by
  have h_obey : (l.obey ticket (.publish ad)).1.ParkedWhileBrowsing := h_parked
  show (l.serve ticket (.publish ad)).2.replies = _
  rw [replies_serve, h_obey.answerParked]
  rfl

/-- While the sweep is under way, a query waits. -/
theorem step_query_of_browsing (world : ω → σ → σ) (hp : l.sweep.progress = .browsing)
    (ticket : Nat) (scope : IpScope) :
    l.step world (.command ticket (.query scope)) =
      ({ l with parked := l.parked ++ [ticket] }, {}) := by
  have h_query : l.query ticket scope = ({ l with parked := l.parked ++ [ticket] }, {}) := by
    unfold query
    rw [hp]
  have h_parked : ({ l with parked := l.parked ++ [ticket] } : EventLoop σ).answerParked =
      ({ l with parked := l.parked ++ [ticket] }, {}) := answerParked_of_browsing hp
  exact step_query_of world h_query h_parked

/-- Where the engine refuses to resolve, an event starts no resolution. -/
theorem outstanding_step_poll_of_refused (world : ω → σ → σ)
    (h_refuses : ∀ k protocol, ∃ refusal,
      (Engine.resolve k protocol (Engine.next l.engine).engine).1 = .error refusal)
    {id : Nat} {k : Sighting} (h : (l.step world .poll).1.sweep.outstanding[id]? = some k) :
    l.sweep.outstanding[id]? = some k := by
  -- without an event nothing changes
  cases he : (Engine.next l.engine).event with
  | none => rw [step_poll_none world he] at h; exact h
  | some event =>
    rw [step_poll_some world he, receive_fst, sweep_answerParked] at h
    -- the event leaves the sweep as it is, makes it give up, or is for the sweep
    rcases handle_cases event { l with engine := (Engine.next l.engine).engine } with
      ⟨h_sweep, -⟩ | ⟨-, h_sweep, -⟩ | ⟨h_sweep, -⟩
    · rw [h_sweep] at h; exact h
    · rw [h_sweep] at h; exact Sweep.outstanding_giveUp h
    · rw [h_sweep] at h; exact Sweep.outstanding_handle_of_refused h_refuses event h

/-! ### The report of a failure -/

omit [Engine σ] in
/-- Whoever waits for a sweep that is not under way any more is told what is listed. -/
theorem answerParked_of_not_browsing (h : l.parked ≠ [] → l.sweep.started = true)
    (hp : l.sweep.progress ≠ .browsing) :
    l.answerParked.2.replies = l.parked.map (·, .urls l.sweep.urls) ∧
      l.answerParked.1.parked = [] := by
  by_cases h_nil : l.parked = []
  · rw [answerParked_of_nil h_nil, h_nil]
    exact ⟨rfl, rfl⟩
  · -- somebody waits, so the sweep has started, and is complete
    have h_complete : l.sweep.progress = .complete := by
      by_contra h_complete
      exact hp (Sweep.progress_eq_browsing (h h_nil) h_complete)
    unfold EventLoop.answerParked
    rw [if_pos h_complete]
    exact ⟨rfl, rfl⟩

/-- The report of a failure answers everybody who is parked with what is listed, and leaves nobody
parked.  Nobody is struck off. -/
theorem step_poll_of_failure (world : ω → σ → σ) (h_parked : l.ParkedWhileBrowsing)
    (he : (Engine.next l.engine).event = some (.engine .failure)) :
    (l.step world .poll).2.replies = l.parked.map (·, .urls l.sweep.urls) ∧
      (l.step world .poll).1.parked = [] ∧
      (l.step world .poll).1.sweep.progress ≠ .browsing ∧
      (l.step world .poll).1.sweep.directory = l.sweep.directory := by
  -- the loop when the sweep has been given up, and before those who wait are answered
  set l' := ({ l with engine := (Engine.next l.engine).engine }.handle (.engine .failure)).1
    with h_l'
  have h_sweep : l'.sweep = (l.sweep.giveUp (Engine.next l.engine).engine).1 := rfl
  have h_progress : l'.sweep.progress ≠ .browsing := h_sweep ▸ Sweep.progress_giveUp l.sweep _
  have h_directory : l'.sweep.directory = l.sweep.directory :=
    h_sweep ▸ Sweep.directory_giveUp l.sweep _
  obtain ⟨h_replies, h_nil⟩ := answerParked_of_not_browsing (l := l')
    (fun hp => (started_handle _ _).trans (h_parked.started hp)) h_progress
  rw [step_poll_some world he, Effects.replies_append, List.nil_append, replies_receive,
    receive_fst, sweep_answerParked, ← h_l']
  refine ⟨?_, h_nil, h_progress, h_directory⟩
  rw [h_replies, Sweep.urls, h_directory]
  rfl

end EventLoop

end ServiceDiscovery
