import ServiceDiscovery.Proofs.EventLoop.Accounts
import ServiceDiscovery.Proofs.EventLoop.Queries

/-!
# Queries after the first sweep

The first query waits until the first sweep is complete.  From then on the sweep is surveyed for
good (`EventLoop.Surveyed.step`), and the only thing that can keep it from being complete is a
resolution: a server that appears later has to be resolved like those before it.  So a query that
comes later is not always answered at once (`EventLoop.later_queries_wait`).

* It is answered in its own step, with all that is listed, exactly if no resolution is outstanding.
* Otherwise it is parked, and nobody is answered by a step that leaves a resolution outstanding.
* The first step that leaves none answers all who wait, in the order in which they came.

A step is looked at as a whole for this.  Whoever waited or asked is answered or parked by it
(`EventLoop.parked_append_asked_step`).  If a resolution is outstanding at its end, then nobody is
answered, as every answer takes a complete sweep; and if none is, then nobody is parked, as queries
are parked only while the sweep is under way.
-/

namespace ServiceDiscovery

/-! ### A survey is not taken back -/

namespace Sweep

variable {σ : Type} [Engine σ] {s : Sweep}

theorem surveyed_giveUp (h : s.surveyed = true) (e : σ) : (s.giveUp e).1.surveyed = true := by
  unfold giveUp
  split
  · rfl
  · exact h

theorem surveyed_observe (h : s.surveyed = true) (event : Event) (e : σ) :
    (s.observe event e).1.surveyed = true := by
  unfold observe
  split
  · exact h
  · cases event with
    | appeared k =>
      -- a resolution may start, but the survey has nothing to do with it
      rcases hr : Engine.resolve k k.protocol e with ⟨refusal | id, e'⟩
      · simpa only [hr] using h
      · simpa only [hr] using h
    | cacheExhausted => rfl
    | allForNow => rfl
    | browseFailed reason => exact surveyed_giveUp h e
    | _ => exact h

theorem surveyed_handle (h : s.surveyed = true) (event : Event) (e : σ) :
    (s.handle event e).1.surveyed = true := by
  cases event with
  | found id contact => exact (surveyed_conclude id (some contact) s e).trans h
  | unresolved id reason => exact (surveyed_conclude id none s e).trans h
  | _ => exact surveyed_observe h _ e

end Sweep

namespace EventLoop

variable {σ ω : Type} [Engine σ] {world : ω → σ → σ} {l : EventLoop σ}

/-- A run goes on from what its first part leaves. -/
theorem after_append_fst (world : ω → σ → σ) (a b : List (Input ω)) (l : EventLoop σ) :
    (l.after world (a ++ b)).1 = ((l.after world a).1.after world b).1 := by
  induction b using List.reverseRecOn with
  | nil => rw [List.append_nil, after_nil]
  | append_singleton b input ih => rw [← List.append_assoc, after_concat, after_concat, ih]

/-- The sweep has started, and the engine has reported all it knew. -/
structure Surveyed (l : EventLoop σ) : Prop where
  started : l.sweep.started = true
  surveyed : l.sweep.surveyed = true

namespace Surveyed

omit [Engine σ] in
theorem of_complete (h : l.sweep.progress = .complete) : l.Surveyed := by
  obtain ⟨hs, hn, -⟩ := (Sweep.progress_eq_complete_iff _).mp h
  exact ⟨hs, hn⟩

omit [Engine σ] in
/-- After the survey, resolutions are all that a sweep waits for. -/
theorem complete_iff (h : l.Surveyed) :
    l.sweep.progress = .complete ↔ l.sweep.outstanding = ∅ := by
  rw [Sweep.progress_eq_complete_iff, and_iff_right h.started, and_iff_right h.surveyed]

omit [Engine σ] in
theorem of_sweep {l' : EventLoop σ} (h : l.Surveyed) (h_sweep : l'.sweep = l.sweep) :
    l'.Surveyed :=
  ⟨h_sweep ▸ h.started, h_sweep ▸ h.surveyed⟩

theorem handle (h : l.Surveyed) (event : Event) : (l.handle event).1.Surveyed := by
  refine ⟨(started_handle event l).trans h.started, ?_⟩
  rcases handle_cases event l with ⟨h_sweep, -⟩ | ⟨-, h_sweep, -⟩ | ⟨h_sweep, -⟩
  · rw [h_sweep]; exact h.surveyed
  · rw [h_sweep]; exact Sweep.surveyed_giveUp h.surveyed l.engine
  · rw [h_sweep]; exact Sweep.surveyed_handle h.surveyed event l.engine

theorem obey (h : l.Surveyed) (ticket : Nat) (command : Command) :
    (l.obey ticket command).1.Surveyed := by
  rcases obey_cases ticket command l with
    ⟨h_sweep, -⟩ | ⟨_, h_sweep, -⟩ | ⟨_, h_sweep, -⟩ | ⟨_, _, -, h_sweep, -⟩
  · exact h.of_sweep h_sweep
  · exact h.of_sweep h_sweep
  · exact h.of_sweep h_sweep
  · exact ⟨by rw [h_sweep], by rw [h_sweep]; exact h.surveyed⟩

/-- **Invariant preservation.** No input takes the survey back. -/
theorem step (h : l.Surveyed) (input : Input ω) : (l.step world input).1.Surveyed :=
  step_invariant (fun h h_sweep _ => h.of_sweep h_sweep)
    (fun ticket command h => h.obey ticket command) (fun h => ⟨h.started, h.surveyed⟩)
    (fun event h => h.handle event) (fun _ h => ⟨h.started, h.surveyed⟩) h input

end Surveyed

/-- Once the sweep was complete, it stays surveyed. -/
theorem surveyed_after {e : σ} {inputs : List (Input ω)}
    (h : ((ofEngine e).after world inputs).1.sweep.progress = .complete)
    (later : List (Input ω)) : ((ofEngine e).after world (inputs ++ later)).1.Surveyed := by
  rw [after_append_fst]
  exact after_invariant world (.of_complete h) (fun input _ h => h.step input) later

/-! ### Who is answered by a step -/

/-- Whoever is answered is told some URLs. -/
theorem mem_answered_iff {replies : List (Nat × Reply)} {ticket : Nat} :
    ticket ∈ answered replies ↔ ∃ urls, (ticket, .urls urls) ∈ replies := by
  unfold answered
  rw [List.mem_filterMap]
  -- only an answer to a query counts as one
  constructor
  · rintro ⟨⟨t, reply⟩, h_reply, h_eq⟩
    cases reply with
    | urls urls =>
      obtain rfl : t = ticket := Option.some.inj h_eq
      exact ⟨urls, h_reply⟩
    | _ => exact absurd h_eq (by simp)
  · rintro ⟨urls, h_reply⟩
    exact ⟨_, h_reply, rfl⟩

/-- A query does not touch a sweep that has started. -/
theorem sweep_step_query (world : ω → σ → σ) (h : l.sweep.started = true) (ticket : Nat)
    (scope : IpScope) :
    (l.step world (.command ticket (.query scope))).1.sweep = l.sweep := by
  -- the sweep has started, so the query does not start it
  have h_idle : l.sweep.progress ≠ .idle := by
    rw [Ne, Sweep.progress_eq_idle_iff, h]
    exact Bool.noConfusion
  change (l.query ticket scope).1.answerParked.1.sweep = l.sweep
  rw [sweep_answerParked]
  -- the other ways of a query leave the sweep as it is
  rcases query_cases ticket scope l with ⟨hp, -⟩ | ⟨hp, -⟩ | ⟨hp, -⟩ | ⟨-, hq⟩ | ⟨-, hq⟩
  · exact absurd hp h_idle
  · exact absurd hp h_idle
  · exact absurd hp h_idle
  · rw [hq]
  · rw [hq]

/-- Where a sweep has started, whoever is answered is told all that the complete sweep has found. -/
theorem step_replies_of_started (h : l.sweep.started = true) {input : Input ω} {ticket : Nat}
    {urls : Urls} (h_reply : (ticket, .urls urls) ∈ (l.step world input).2.replies) :
    urls = (l.step world input).1.sweep.urls ∧
      (l.step world input).1.sweep.progress = .complete := by
  refine (step_replies h_reply).resolve_left ?_
  -- only a query that finds the sweep not started is declined
  rintro ⟨-, scope, -, hp, -⟩
  rw [(Sweep.progress_eq_idle_iff _).mp hp] at h
  exact absurd h Bool.false_ne_true

/-- A step that leaves a resolution outstanding answers nobody. -/
theorem Surveyed.answered_of_outstanding (h : l.Surveyed) {input : Input ω}
    (h_out : (l.step world input).1.sweep.outstanding ≠ ∅) :
    answered (l.step world input).2.replies = [] := by
  rw [List.eq_nil_iff_forall_not_mem]
  intro ticket h_mem
  obtain ⟨urls, h_reply⟩ := mem_answered_iff.mp h_mem
  have h_complete := (step_replies_of_started h.started h_reply).2
  exact h_out ((h.step input).complete_iff.mp h_complete)

/-- **Who waits.** A step that leaves a resolution outstanding parks who asks behind those who are
parked already, and answers nobody; one that leaves none answers them all. -/
theorem Surveyed.answered_step (h : l.Surveyed) (h_parked : l.ParkedWhileBrowsing)
    (world : ω → σ → σ) (input : Input ω) :
    ((l.step world input).1.sweep.outstanding ≠ ∅ →
      answered (l.step world input).2.replies = [] ∧
        (l.step world input).1.parked = l.parked ++ asked [input]) ∧
    ((l.step world input).1.sweep.outstanding = ∅ →
      answered (l.step world input).2.replies = l.parked ++ asked [input] ∧
        (l.step world input).1.parked = []) := by
  have h_all : l.parked ++ asked [input] =
      answered (l.step world input).2.replies ++ (l.step world input).1.parked :=
    parked_append_asked_step h_parked input
  constructor
  · -- whoever waited or asks is parked, as nobody is answered
    intro h_out
    have h_nobody := h.answered_of_outstanding h_out
    rw [h_nobody, List.nil_append] at h_all
    exact ⟨h_nobody, h_all.symm⟩
  · -- all of them are answered, as nobody is parked behind a complete sweep
    intro h_none
    have h_complete := (h.step input).complete_iff.mpr h_none
    have h_empty : (l.step world input).1.parked = [] :=
      (h_parked.step input).parked_eq_nil (by rw [h_complete]; decide)
    rw [h_empty, List.append_nil] at h_all
    exact ⟨h_all.symm, h_empty⟩

/-- A query is answered at once, with all that is listed, exactly if no resolution is outstanding;
otherwise it is parked. -/
theorem Surveyed.answers_query_iff (h : l.Surveyed) (h_parked : l.ParkedWhileBrowsing)
    (world : ω → σ → σ) (ticket : Nat) (scope : IpScope) :
    ((ticket, .urls l.sweep.urls) ∈
        (l.step world (.command ticket (.query scope))).2.replies ↔ l.sweep.outstanding = ∅) ∧
      (l.sweep.outstanding ≠ ∅ →
        (l.step world (.command ticket (.query scope))).1.parked = l.parked ++ [ticket]) := by
  have h_sweep := sweep_step_query world h.started ticket scope
  have h_step := h.answered_step h_parked world (.command ticket (.query scope))
  rw [h_sweep] at h_step
  refine ⟨⟨fun h_reply => ?_, fun h_none => ?_⟩, fun h_out => (h_step.1 h_out).2⟩
  · -- it was answered, so the sweep was complete
    have h_complete := (step_replies_of_started h.started h_reply).2
    rw [h_sweep] at h_complete
    exact h.complete_iff.mp h_complete
  · -- it is among those who are answered, and all of them are told what is listed
    have h_mem : ticket ∈ answered (l.step world (.command ticket (.query scope))).2.replies := by
      rw [(h_step.2 h_none).1]
      exact List.mem_append_right _ (List.mem_singleton_self _)
    obtain ⟨urls, h_reply⟩ := mem_answered_iff.mp h_mem
    have h_urls := (step_replies_of_started h.started h_reply).1
    rw [h_sweep] at h_urls
    rwa [← h_urls]

/-! ### When a later query is answered -/

/-- **Later queries wait for resolutions.** Whatever the engine and the world do: once the sweep was
complete, a query is answered in its own step, with all that is listed, exactly if no resolution is
outstanding; otherwise it is parked.  A step that leaves a resolution outstanding answers nobody.
One that leaves none answers all who are parked and who asks, in the order in which they came, with
all that is listed by then. -/
theorem later_queries_wait (world : ω → σ → σ) (e : σ) (inputs later : List (Input ω))
    (h_complete : ((ofEngine e).after world inputs).1.sweep.progress = .complete) :
    let l := ((ofEngine e).after world (inputs ++ later)).1
    (∀ ticket scope,
      ((ticket, .urls l.sweep.urls) ∈
          (l.step world (.command ticket (.query scope))).2.replies ↔ l.sweep.outstanding = ∅) ∧
        (l.sweep.outstanding ≠ ∅ →
          (l.step world (.command ticket (.query scope))).1.parked = l.parked ++ [ticket])) ∧
    ∀ input : Input ω,
      let l' := (l.step world input).1
      let replies := (l.step world input).2.replies
      (l'.sweep.outstanding ≠ ∅ →
        answered replies = [] ∧ l'.parked = l.parked ++ asked [input]) ∧
      (l'.sweep.outstanding = ∅ →
        answered replies = l.parked ++ asked [input] ∧ l'.parked = []) ∧
      ∀ ticket urls, (ticket, .urls urls) ∈ replies → urls = l'.sweep.urls := by
  intro l
  -- a survey that is over stays over
  have h : l.Surveyed := surveyed_after h_complete later
  have h_parked : l.ParkedWhileBrowsing := parkedWhileBrowsing_after world e (inputs ++ later)
  refine ⟨h.answers_query_iff h_parked world, fun input => ?_⟩
  have h_step := h.answered_step h_parked world input
  refine ⟨h_step.1, h_step.2, fun ticket urls h_reply => ?_⟩
  exact (step_replies_of_started h.started h_reply).1

/-! ### A server that appears after the first sweep -/

/-- Somebody asks for servers, and there are none. -/
def firstSweep : List (Input Event) :=
  [.command 0 (.query .any), .outside .allForNow, .poll]

/-- A server appears. -/
def appearance : List (Input Event) := [.outside (.appeared Sweep.attic), .poll]

/-- It is resolved. -/
def resolution : List (Input Event) := [.outside (.found 1 Sweep.atticContact), .poll]

/-- The loop over an engine that reports what it is handed. -/
def scriptedLoop (inputs : List (Input Event)) : EventLoop Seat :=
  ((ofEngine { segment := .quiet, member := .scripted : Seat }).after handed inputs).1

/-- A query that comes once the server is resolved is answered at once. -/
theorem later_queries_wait_attic :
    (scriptedLoop firstSweep).sweep.progress = .complete ∧
      (scriptedLoop (firstSweep ++ (appearance ++ resolution))).sweep.outstanding = ∅ ∧
      (1, .urls (scriptedLoop (firstSweep ++ (appearance ++ resolution))).sweep.urls) ∈
        ((scriptedLoop (firstSweep ++ (appearance ++ resolution))).step handed
          (.command 1 (.query .any))).2.replies := by
  -- the two sides at this course are computed
  have h_complete : (scriptedLoop firstSweep).sweep.progress = .complete := by decide +kernel
  have h_none :
      (scriptedLoop (firstSweep ++ (appearance ++ resolution))).sweep.outstanding = ∅ := by
    apply Std.ExtTreeMap.isEmpty_iff.mp
    decide +kernel
  have h := later_queries_wait handed { segment := .quiet, member := .scripted : Seat }
    firstSweep (appearance ++ resolution) h_complete
  exact ⟨h_complete, h_none, (h.1 1 .any).1.mpr h_none⟩

/-- A query that comes while the server is being resolved is not answered in its step, although the
first sweep was complete: it is parked. -/
theorem second_query_is_parked :
    (scriptedLoop firstSweep).sweep.progress = .complete ∧
      answered ((scriptedLoop (firstSweep ++ appearance)).step handed
        (.command 1 (.query .any))).2.replies = [] ∧
      ((scriptedLoop (firstSweep ++ appearance)).step handed
        (.command 1 (.query .any))).1.parked = [1] :=
  ⟨by decide +kernel, by decide +kernel, by decide +kernel⟩

end EventLoop
end ServiceDiscovery
