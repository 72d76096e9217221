import ServiceDiscovery.Discovery.Agent
import ServiceDiscovery.Proofs.EventLoop.Failure
import ServiceDiscovery.Proofs.EventLoop.Waiting
import ServiceDiscovery.Proofs.Segment.Visits

/-!
# Service after a failure

Where an engine has failed for good and resolves nothing (`Engine.FailsForGood`), its sweep wanes
from the report of the failure on (`EventLoop.Wanes`): listings are struck off, and none is added or
changed any more.  No query has to wait then, as no resolution is outstanding and none starts.

`EventLoop.ServesFailed` gathers what a loop tells its callers in failure.  An agent whose loop does
not run yet asks a failed engine for nothing, and the loop of one that runs has gone through a run
(`Agent.Runs`), so it serves them in the same way (`Agent.ServesFailed`).
-/

namespace ServiceDiscovery

variable {σ ω : Type} [Engine σ] {world : ω → σ → σ}

open Engine (FailsForGood RefusesInFailure)

/-! ### Over an engine that has failed for good -/

namespace Sweep

variable {d : Directory} {s : Sweep} {e : σ}

/-- Nothing is being resolved, and nobody is listed but as in a directory of before. -/
structure Wanes (d : Directory) (s : Sweep) : Prop where
  nothing : s.outstanding = ∅
  surveyed : s.started = true → s.surveyed = true
  within (k : Sighting) (v : Listing) : s.directory.get? k = some v → d.get? k = some v

namespace Wanes

omit [Engine σ] in
theorem not_browsing (h : s.Wanes d) : s.progress ≠ .browsing := by
  intro hp
  have h_started := started_of_browsing hp
  have h_complete := (progress_eq_complete_iff _).mpr
    ⟨h_started, h.surveyed h_started, h.nothing⟩
  rw [hp] at h_complete
  exact absurd h_complete (by decide)

/-- A sweep that is given up wanes from then on. -/
theorem of_giveUp (h_fresh : s.started = false → s = .fresh) (e : σ) :
    (s.giveUp e).1.Wanes s.directory := by
  -- nothing is outstanding, the survey is over, and nobody has been listed
  refine ⟨?_, ?_, fun k v hk => Sweep.directory_giveUp s e ▸ hk⟩
  · unfold Sweep.giveUp
    split
    · rfl
    · next hs => rw [h_fresh (Bool.eq_false_iff.mpr hs)]; rfl
  · unfold Sweep.giveUp
    split
    · exact fun _ => rfl
    · next hs => exact fun h => absurd h hs

theorem giveUp (h : s.Wanes d) (e : σ) : (s.giveUp e).1.Wanes d := by
  unfold Sweep.giveUp
  split
  · exact ⟨rfl, fun _ => rfl, h.within⟩
  · exact h

/-- What appears is not resolved, and what vanishes is struck off. -/
theorem observe (h : s.Wanes d)
    (h_refuses : ∀ k protocol, ∃ refusal, (Engine.resolve k protocol e).1 = .error refusal)
    (event : Event) : (s.observe event e).1.Wanes d := by
  have h_surveyed : ({ s with surveyed := true } : Sweep).Wanes d :=
    ⟨h.nothing, fun _ => rfl, h.within⟩
  cases event with
  | appeared k => rw [observe_of_refused (h_refuses k k.protocol)]; exact h
  | vanished k =>
    -- a listing is dropped at most
    unfold Sweep.observe
    split
    · exact h
    · refine ⟨h.nothing, h.surveyed, fun k' v hk => h.within k' v ?_⟩
      change (s.directory.erase k).get? k' = some v at hk
      rw [Directory.get?_erase] at hk
      split at hk
      · exact absurd hk (by simp)
      · exact hk
  | cacheExhausted => unfold Sweep.observe; split <;> [exact h; exact h_surveyed]
  | allForNow => unfold Sweep.observe; split <;> [exact h; exact h_surveyed]
  | browseFailed reason => unfold Sweep.observe; split <;> [exact h; exact h.giveUp e]
  | _ => unfold Sweep.observe; split <;> exact h

theorem handle (h : s.Wanes d)
    (h_refuses : ∀ k protocol, ∃ refusal, (Engine.resolve k protocol e).1 = .error refusal)
    (event : Event) : (s.handle event e).1.Wanes d := by
  -- a resolution that ends now is not outstanding
  have h_conclude : ∀ id contact?, (s.conclude id contact? e).1.Wanes d := by
    intro id contact?
    rw [conclude_of_none contact? e (by rw [h.nothing, Std.ExtTreeMap.getElem?_empty])]
    exact h
  cases event with
  | found id contact => exact h_conclude id (some contact)
  | unresolved id reason => exact h_conclude id none
  | _ => exact h.observe h_refuses _

end Wanes

end Sweep

namespace EventLoop

variable {l : EventLoop σ} {down : σ → Prop} {d : Directory}

/-- A sweep over an engine that is down wanes. -/
structure Wanes (down : σ → Prop) (d : Directory) (l : EventLoop σ) : Prop where
  down : down l.engine
  sweep : l.sweep.Wanes d

namespace Wanes

omit [Engine σ] in
/-- Only the sweep and its engine matter. -/
theorem of_eq (h : l.Wanes down d) {l' : EventLoop σ} (h_sweep : l'.sweep = l.sweep)
    (h_engine : l'.engine = l.engine) : l'.Wanes down d :=
  ⟨h_engine ▸ h.down, h_sweep ▸ h.sweep⟩

theorem handle (h : l.Wanes down d) (hd : FailsForGood world down) (event : Event) :
    (l.handle event).1.Wanes down d := by
  -- all that an event makes of the engine is to release resolutions, and to refuse new ones
  have h_release : ∀ e id, down e → down (Engine.release id e) := fun _ id h => hd.release id h
  have h_resolve : ∀ e (k : Sighting), down e → down (Engine.resolve k k.protocol e).2 :=
    fun _ k h => hd.resolve k k.protocol h
  rcases handle_cases event l with
    ⟨h_sweep, h_engine⟩ | ⟨-, h_sweep, h_engine⟩ | ⟨h_sweep, h_engine⟩
  · exact h.of_eq h_sweep h_engine
  · refine ⟨?_, h_sweep ▸ h.sweep.giveUp l.engine⟩
    rw [h_engine]
    exact Sweep.giveUp_induction h_release h.down
  · refine ⟨?_, h_sweep ▸ h.sweep.handle (fun k protocol => hd.refuses k protocol h.down) event⟩
    rw [h_engine]
    exact Sweep.handle_induction h_release h_resolve h.down event

/-- A failed engine is asked to publish, and for nothing else. -/
theorem obey (h : l.Wanes down d) (hd : FailsForGood world down) (ticket : Nat)
    (command : Command) : (l.obey ticket command).1.Wanes down d := by
  have h_failed : Engine.failed l.engine = true := hd.failed h.down
  cases command with
  | status => exact h
  | info => exact h
  | publish ad => exact ⟨hd.publish ad h.down, h.sweep⟩
  | query scope =>
    -- the two ways in which a query makes the engine browse are for one that has not failed
    show (l.query ticket scope).1.Wanes down d
    rcases query_cases ticket scope l with
      ⟨-, -, hq⟩ | ⟨-, hf, -⟩ | ⟨-, hf, -⟩ | ⟨-, hq⟩ | ⟨-, hq⟩
    · rw [hq]; exact h
    · rw [h_failed] at hf; exact Bool.noConfusion hf
    · rw [h_failed] at hf; exact Bool.noConfusion hf
    · rw [hq]; exact ⟨h.down, h.sweep⟩
    · rw [hq]; exact h

/-- **Invariant preservation.** A sweep over an engine that is down keeps waning. -/
theorem step (h : l.Wanes down d) (hd : FailsForGood world down) (input : Input ω) :
    (l.step world input).1.Wanes down d :=
  step_invariant (P := Wanes down d) (fun h h_sweep h_engine => h.of_eq h_sweep h_engine)
    (fun ticket command h => h.obey hd ticket command) (fun h => ⟨hd.next h.down, h.sweep⟩)
    (fun event h => h.handle hd event) (fun happening h => ⟨hd.world happening h.down, h.sweep⟩)
    h input

end Wanes

/-- From the report of its failure on, the sweep over an engine that is down wanes. -/
theorem wanes_of_failure (hd : FailsForGood world down) (h_fresh : l.FreshUntilStarted)
    (h_down : down (Engine.next l.engine).engine)
    (he : (Engine.next l.engine).event = some (.engine .failure)) :
    (l.step world .poll).1.Wanes down l.sweep.directory := by
  -- the first report of the failure makes the sweep give up
  have h_handle : ({ l with engine := (Engine.next l.engine).engine }.handle
      (.engine .failure)).1.Wanes down l.sweep.directory :=
    ⟨Sweep.giveUp_induction (fun _ id h => hd.release id h) h_down,
      .of_giveUp h_fresh (Engine.next l.engine).engine⟩
  rw [step_poll_some world he]
  exact h_handle.of_eq (sweep_answerParked _) (engine_answerParked _)

/-! ### What callers are told -/

/-- What a loop tells its callers when its engine fails. -/
structure ServesFailed (world : ω → σ → σ) (l : EventLoop σ) : Prop where
  /-- Nobody is told of a server only if nobody is listed. -/
  bare : l.sweep.urls = ∅ ↔ ∀ k, l.sweep.directory.get? k = none
  /-- Before the sweep has started nobody is listed. -/
  idle : l.sweep.progress = .idle → l.sweep.urls = ∅
  /-- A query that finds the engine failed and the sweep not under way is answered at once with what
  is listed, and nothing else happens. -/
  answers : Engine.failed l.engine = true → l.sweep.progress ≠ .browsing → ∀ ticket scope,
    l.step world (.command ticket (.query scope)) =
      (l, { replies := [(ticket, .urls l.sweep.urls)] })
  /-- A query that finds the sweep under way waits. -/
  waits : l.sweep.progress = .browsing → ∀ ticket scope,
    l.step world (.command ticket (.query scope)) = ({ l with parked := l.parked ++ [ticket] }, {})
  /-- The report of a failure answers everybody who waits with what is listed, and ends the sweep.
  Nobody is struck off. -/
  released : (Engine.next l.engine).event = some (.engine .failure) →
    (l.step world .poll).2.replies = l.parked.map (·, .urls l.sweep.urls) ∧
      (l.step world .poll).1.parked = [] ∧
      (l.step world .poll).1.sweep.progress ≠ .browsing ∧
      (l.step world .poll).1.sweep.directory = l.sweep.directory
  /-- An engine that refuses what it is asked for while it has failed accepts nothing: publishing is
  refused, and no resolution starts. -/
  refuses : RefusesInFailure σ →
    (Engine.failed l.engine = true → ∀ ticket ad, ∃ refusal,
      (l.step world (.command ticket (.publish ad))).2.replies =
        [(ticket, .publish (.error refusal))]) ∧
    (Engine.failed (Engine.next l.engine).engine = true → ∀ (id : Nat) (k : Sighting),
      (l.step world .poll).1.sweep.outstanding[id]? = some k → l.sweep.outstanding[id]? = some k)
  /-- If the engine has failed for good, everybody who asks after that report is answered at once,
  and no listing is added or changed any more. -/
  wanes (down : σ → Prop) : FailsForGood world down →
    (Engine.next l.engine).event = some (.engine .failure) →
    down (Engine.next l.engine).engine → ∀ later,
      let l' := ((l.step world .poll).1.after world later).1
      (∀ ticket scope, l'.step world (.command ticket (.query scope)) =
        (l', { replies := [(ticket, .urls l'.sweep.urls)] })) ∧
      ∀ k v, l'.sweep.directory.get? k = some v → l.sweep.directory.get? k = some v

theorem servesFailed_of (world : ω → σ → σ) (h_parked : l.ParkedWhileBrowsing)
    (h_fresh : l.FreshUntilStarted) : l.ServesFailed world where
  bare := Directory.urls_eq_empty_iff l.sweep.directory
  idle := h_fresh.urls_eq
  answers h_failed hp := step_query_of_failed world h_failed h_parked h_fresh hp
  waits hp := step_query_of_browsing world hp
  released he := step_poll_of_failure world h_parked he
  -- a failed engine refuses, so nothing is published, and nothing new is outstanding
  refuses hr := by
    refine ⟨fun h_failed ticket ad => ?_, fun h_failed id k hk => ?_⟩
    · obtain ⟨refusal, h_refusal⟩ := hr.publish ad h_failed
      exact ⟨refusal, by rw [step_publish world h_parked, h_refusal]⟩
    · refine outstanding_step_poll_of_refused world (fun k protocol => ?_) hk
      exact hr.resolve k protocol h_failed
  wanes down hd he h_down later := by
    intro l'
    -- the invariants hold after the report, and the rest of the run preserves them
    have h_wanes : l'.Wanes down l.sweep.directory :=
      after_invariant world (wanes_of_failure hd h_fresh h_down he)
        (fun input _ h => h.step hd input) later
    have h_parked' : l'.ParkedWhileBrowsing :=
      after_invariant world (h_parked.step .poll) (fun input _ h => h.step input) later
    have h_fresh' : l'.FreshUntilStarted :=
      after_invariant world (h_fresh.step world .poll) (fun input _ h => h.step world input) later
    exact ⟨step_query_of_failed world (hd.failed h_wanes.down) h_parked' h_fresh'
      h_wanes.sweep.not_browsing, h_wanes.sweep.within⟩

end EventLoop

/-! ### Agents -/

namespace Agent

/-- What an agent goes through. -/
inductive Input (ω : Type)
  | register (tag port : String) (scope : IpScope)
  | ask (ticket : Nat) (scope : IpScope)
  /-- The event loop, if it runs, is polled. -/
  | poll
  /-- Something happens outside, and reaches the engine alone. -/
  | outside (happening : ω)

/-- Goes through one input. -/
def step (world : ω → σ → σ) (input : Input ω) (a : Agent σ) : Agent σ :=
  match input with
  | .register tag port scope => (a.register tag port scope).1
  | .ask ticket scope => (a.ask ticket scope).1
  | .poll => a.poll.1
  | .outside happening => a.mapEngine (world happening)

/-- Goes through some inputs. -/
def after (world : ω → σ → σ) (inputs : List (Input ω)) (a : Agent σ) : Agent σ :=
  inputs.foldl (fun a input => a.step world input) a

/-- The loop of an agent, if it runs, has gone through a run. -/
def Runs (world : ω → σ → σ) (a : Agent σ) : Prop :=
  ∀ l, a = .running l → ∃ e inputs, l = ((EventLoop.ofEngine e).after world inputs).1

namespace Runs

variable {a : Agent σ} {l : EventLoop σ}

/-- A loop that has gone through a run goes through one more input. -/
theorem next (h : Runs world (.running l)) (input : EventLoop.Input ω) :
    Runs world (.running (l.step world input).1) := by
  rintro _ ⟨⟩
  obtain ⟨e, inputs, rfl⟩ := h l rfl
  exact ⟨e, inputs ++ [input], by rw [EventLoop.after_concat]⟩

theorem start (world : ω → σ → σ) (e : σ) : Runs world (.running (.ofEngine e)) := by
  rintro _ ⟨⟩
  exact ⟨e, [], rfl⟩

theorem register (h : a.Runs world) (tag port : String) (scope : IpScope) :
    (a.register tag port scope).1.Runs world := by
  unfold Agent.register
  cases Text.parsePort port with
  | error fault => exact h
  | ok number =>
    cases a with
    | unavailable => exact h
    | resting engine =>
      dsimp only
      split
      · exact h
      · -- the loop starts with the engine as publishing leaves it
        split
        · exact start world _
        · exact fun l hl => absurd hl (by simp)
    | running loop => exact h.next (.command 0 (.publish _))

theorem ask (h : a.Runs world) (ticket : Nat) (scope : IpScope) :
    (a.ask ticket scope).1.Runs world := by
  cases a with
  | unavailable => exact h
  | resting engine =>
    unfold Agent.ask
    dsimp only
    split
    · exact h
    · -- the query is the first input of the run
      exact (start world engine).next (.command ticket (.query scope))
  | running loop => exact h.next (.command ticket (.query scope))

/-- **Invariant preservation.** Whatever an agent goes through, its loop goes through a run. -/
theorem step (h : a.Runs world) (input : Input ω) : (a.step world input).Runs world := by
  -- one case for each of the inputs; only a loop that runs goes on
  cases input with
  | register tag port scope => exact h.register tag port scope
  | ask ticket scope => exact h.ask ticket scope
  | poll =>
    cases a with
    | running loop => exact h.next .poll
    | _ => exact h
  | outside happening =>
    cases a with
    | unavailable => exact h
    | resting engine => exact fun l hl => absurd hl (by simp [Agent.step, mapEngine])
    | running loop => exact h.next (.outside happening)

end Runs

theorem Runs.after {a : Agent σ} (h : a.Runs world) (inputs : List (Input ω)) :
    (a.after world inputs).Runs world := by
  induction inputs using List.reverseRecOn with
  | nil => exact h
  | append_singleton inputs input ih =>
    rw [Agent.after, List.foldl_append]
    exact Runs.step ih input

theorem runs_after (world : ω → σ → σ) (e : σ) (inputs : List (Input ω)) :
    ((resting e).after world inputs).Runs world :=
  Runs.after (fun _ hl => absurd hl (by simp)) inputs

/-- What an agent tells its callers when its engine fails. -/
structure ServesFailed (world : ω → σ → σ) (a : Agent σ) : Prop where
  /-- While nobody runs the engine, it is asked for nothing, and there are no servers. -/
  resting {e : σ} : a = .resting e → Engine.failed e = true →
    (∀ ticket scope, a.ask ticket scope = (a, { replies := [(ticket, .urls ∅)] })) ∧
      ∀ tag port scope, (a.register tag port scope).1 = a
  /-- A loop that runs is asked, and publishes what is registered. -/
  running {l : EventLoop σ} : a = .running l →
    l.ServesFailed world ∧
      (∀ ticket scope, a.ask ticket scope =
        (.running (l.step world (.command ticket (.query scope))).1,
          (l.step world (.command ticket (.query scope))).2)) ∧
      ∀ tag port scope number, Text.parsePort port = .ok number →
        (a.register tag port scope).1 = .running (l.step world (.command 0
          (.publish (.ofServer (Engine.info l.engine).hostName tag number scope)))).1

end Agent

namespace EventLoop

theorem servesFailed_after (world : ω → σ → σ) (e : σ) (inputs : List (Input ω)) :
    ((ofEngine e).after world inputs).1.ServesFailed world :=
  servesFailed_of world (parkedWhileBrowsing_after world e inputs)
    (freshUntilStarted_after world e inputs)

end EventLoop

namespace Agent

theorem servesFailed_after (world : ω → σ → σ) (e : σ) (inputs : List (Input ω)) :
    ((Agent.resting e).after world inputs).ServesFailed world where
  resting {e'} h_resting h_failed := by
    rw [h_resting]
    refine ⟨fun ticket scope => if_pos h_failed, fun tag port scope => ?_⟩
    unfold register
    -- a port that is no number is refused all the same
    cases Text.parsePort port with
    | error fault => rfl
    | ok number => exact congrArg Prod.fst (if_pos h_failed)
  running {l} h_running := by
    obtain ⟨e', inputs', rfl⟩ := runs_after world e inputs l h_running
    -- the loop has come about by a course, so what holds after every course holds of it
    rw [h_running]
    refine ⟨EventLoop.servesFailed_after world e' inputs', fun ticket scope => rfl, ?_⟩
    intro tag port scope number h_port
    unfold register
    rw [h_port]
    rfl

end Agent

/-- **A failure ends the sweep.** Whatever happens, an event loop and an agent serve their callers
in failure as `EventLoop.ServesFailed` and `Agent.ServesFailed` say: a query is told what is listed,
at once or when the failure is reported, and nobody is listed if the engine fails before the sweep
has started.  The engines here refuse whatever they are asked for while they have failed; a
responder that has failed has failed for good. -/
theorem failure_ends_the_sweep (world : ω → σ → σ) :
    (∀ (e : σ) inputs, ((EventLoop.ofEngine e).after world inputs).1.ServesFailed world) ∧
      (∀ (e : σ) inputs, ((Agent.resting e).after world inputs).ServesFailed world) ∧
      RefusesInFailure Responder ∧ RefusesInFailure Seat ∧
      FailsForGood Responder.undergo fun r => r.state = .failure :=
  ⟨EventLoop.servesFailed_after world, Agent.servesFailed_after world,
    Responder.refusesInFailure, Seat.refusesInFailure, Responder.failsForGood⟩

/-! ### A server that is found before the failure -/

/-- An engine that has failed, and accepts whatever it is asked for. -/
inductive Careless
  | mk

instance : Engine Careless where
  state _ := .failure
  info _ := { version := "", hostName := "", domain := "", fullHostName := "" }
  publish _ e := (.ok (), e)
  browse _ _ e := (.ok (), e)
  resolve _ _ e := (.ok 1, e)
  release _ e := e
  next e := { event := none, notices := [], engine := e }
  backlog _ := 0
  close e := e

namespace EventLoop

/-- Somebody asks for servers, one is found, and the engine fails. -/
def failingSweep : List (Input Event) :=
  .command 0 (.query .any) :: appearance ++ resolution ++ [.outside (.engine .failure)]

/-- The query that waits when the engine fails is told of the server that was found, and so is one
that finds the engine failed.  An engine may accept what is published while it has failed. -/
theorem failure_keeps_what_was_found :
    (Agent.urlsFor? 0 ((scriptedLoop failingSweep).step handed .poll).2.replies).map
        (·.isEmpty) = some false ∧
      Engine.failed (scriptedLoop (failingSweep ++ [.poll])).engine = true ∧
      (Agent.urlsFor? 1 ((scriptedLoop (failingSweep ++ [.poll])).step handed
        (.command 1 (.query .any))).2.replies).map (·.isEmpty) = some false ∧
      Engine.failed Careless.mk = true ∧
      ((ofEngine Careless.mk).step (fun _ : Unit => id)
        (.command 0 (.publish (.ofServer "bench" "7f0c" 55132 .any)))).2.replies.map
          (fun | (_, .publish (.ok ())) => true | _ => false) = [true] :=
  ⟨by decide +kernel, by decide +kernel, by decide +kernel, by decide +kernel, by decide +kernel⟩

end EventLoop
end ServiceDiscovery
