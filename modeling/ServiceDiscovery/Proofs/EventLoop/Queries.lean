import ServiceDiscovery.Proofs.EventLoop.Run

/-!
# The discipline of queries

Whatever an engine reports, in whatever world, the event loop keeps its promises to those who ask
for servers (`EventLoop.query_discipline`).

* Queries are parked only while the sweep is under way (`EventLoop.ParkedWhileBrowsing`).  This is
  an invariant: a query is parked only by a step that leaves the sweep started, no step makes a
  started sweep idle again, and every step ends by emptying the park of a complete sweep.
* The queries that were asked are those that were answered, followed by those that are parked, in
  the order in which they came (`EventLoop.asked_eq`).  So no query is answered twice, or answered
  and parked, or lost.  The order is kept because an immediate answer is only given when nothing is
  parked, which is what the invariant says.
* An answer is empty because the sweep could not start (`EventLoop.Declined`), or it shows all that
  a complete sweep has found.  Both cannot happen in one step, so all answers of a step agree
  (`EventLoop.step_replies`).
-/

namespace ServiceDiscovery
namespace EventLoop

variable {σ ω : Type}

/-! ### Asked and answered -/

/-- The tickets of the queries among some inputs, in order. -/
def asked (inputs : List (Input ω)) : List Nat :=
  inputs.filterMap fun
    | .command ticket (.query _) => some ticket
    | _ => none

/-- The tickets of the queries that some replies answer, in order. -/
def answered (replies : List (Nat × Reply)) : List Nat :=
  replies.filterMap fun
    | (ticket, .urls _) => some ticket
    | _ => none

theorem asked_append (a b : List (Input ω)) : asked (a ++ b) = asked a ++ asked b :=
  List.filterMap_append

theorem answered_append (a b : List (Nat × Reply)) :
    answered (a ++ b) = answered a ++ answered b :=
  List.filterMap_append

/-- What the parked queries are told answers them, in order. -/
theorem answered_map_urls (tickets : List Nat) (urls : Urls) :
    answered (tickets.map fun ticket => (ticket, .urls urls)) = tickets := by
  unfold answered
  rw [List.filterMap_map]
  exact List.filterMap_some

/-! ### Parked only while browsing -/

/-- Queries are parked only while the sweep is under way. -/
def ParkedWhileBrowsing (l : EventLoop σ) : Prop :=
  l.parked ≠ [] → l.sweep.progress = .browsing

/-- Where a query is parked, the sweep has started. -/
theorem ParkedWhileBrowsing.started {l : EventLoop σ} (h : l.ParkedWhileBrowsing)
    (hp : l.parked ≠ []) : l.sweep.started = true :=
  Sweep.started_of_browsing (h hp)

/-- A sweep that is not under way leaves nobody parked. -/
theorem ParkedWhileBrowsing.parked_eq_nil {l : EventLoop σ} (h : l.ParkedWhileBrowsing)
    (hp : l.sweep.progress ≠ .browsing) : l.parked = [] := by
  by_contra hne
  exact hp (h hne)

/-- Emptying the park of a complete sweep is all it takes, once parked queries are known to have a
sweep that started. -/
theorem answerParked_parkedWhileBrowsing {l : EventLoop σ}
    (h : l.parked ≠ [] → l.sweep.started = true) : l.answerParked.1.ParkedWhileBrowsing := by
  unfold answerParked
  split
  · exact fun hp => absurd rfl hp
  · next hc => exact fun hp => Sweep.progress_eq_browsing (h hp) hc

variable [Engine σ] {world : ω → σ → σ}

omit [Engine σ] in
theorem ParkedWhileBrowsing.ofEngine (e : σ) : (ofEngine e).ParkedWhileBrowsing :=
  fun hp => absurd rfl hp

/-- A command parks a query only under a sweep that has started. -/
theorem started_of_parked_obey (ticket : Nat) (command : Command) {l : EventLoop σ}
    (h : l.parked ≠ [] → l.sweep.started = true) :
    (l.obey ticket command).1.parked ≠ [] → (l.obey ticket command).1.sweep.started = true := by
  cases command with
  | status => exact h
  | info => exact h
  | publish advertisement => exact h
  | query scope =>
    change (l.query ticket scope).1.parked ≠ [] → (l.query ticket scope).1.sweep.started = true
    rcases query_cases ticket scope l with
      ⟨-, -, hq⟩ | ⟨-, -, refusal, engine, -, hq⟩ | ⟨-, -, engine, -, hq⟩ | ⟨hp, hq⟩ | ⟨-, hq⟩ <;>
      rw [hq]
    · exact h
    · exact h
    · -- the query is parked behind the others, and the sweep starts with it
      exact fun _ => rfl
    · -- the query is parked because the sweep is under way
      exact fun _ => Sweep.started_of_browsing hp
    · exact h

/-- **Invariant preservation.** Every input preserves `ParkedWhileBrowsing`. -/
theorem ParkedWhileBrowsing.step {l : EventLoop σ} (h : l.ParkedWhileBrowsing) (input : Input ω) :
    (l.step world input).1.ParkedWhileBrowsing := by
  cases input with
  | command ticket command =>
    -- after the command everybody is answered if the sweep is complete
    exact answerParked_parkedWhileBrowsing (started_of_parked_obey ticket command h.started)
  | poll =>
    cases he : (Engine.next l.engine).event with
    | none => rw [step_poll_none world he]; exact h
    | some event =>
      rw [step_poll_some world he, receive_fst]
      -- an event does not park anybody, and then everybody may be answered
      refine answerParked_parkedWhileBrowsing ?_
      rw [parked_handle, started_handle]
      exact h.started
  | outside happening => exact h

/-- Queries are parked only while the sweep is under way, after every run. -/
theorem parkedWhileBrowsing_after (world : ω → σ → σ) (e : σ) (inputs : List (Input ω)) :
    ((EventLoop.ofEngine e).after world inputs).1.ParkedWhileBrowsing :=
  after_invariant world (.ofEngine e) (fun input _ h => h.step input) inputs

/-! ### First come, first answered -/

omit [Engine σ] in
/-- What leaves the park is answered. -/
theorem parked_eq_answered_append (l : EventLoop σ) :
    l.parked = answered l.answerParked.2.replies ++ l.answerParked.1.parked := by
  unfold answerParked
  split
  · rw [answered_map_urls, List.append_nil]
  · rfl

/-- A command answers its query at once, when nobody is parked, or parks it behind the others. -/
theorem parked_append_asked_obey (ticket : Nat) (command : Command) {l : EventLoop σ}
    (h : l.ParkedWhileBrowsing) :
    l.parked ++ asked [(.command ticket command : Input ω)] =
      answered (l.obey ticket command).2.replies ++ (l.obey ticket command).1.parked := by
  cases command with
  | status => exact List.append_nil _
  | info => exact List.append_nil _
  | publish advertisement => exact List.append_nil _
  | query scope =>
    change l.parked ++ [ticket] =
      answered (l.query ticket scope).2.replies ++ (l.query ticket scope).1.parked
    rcases query_cases ticket scope l with
      ⟨hp, -, hq⟩ | ⟨hp, -, refusal, engine, -, hq⟩ | ⟨-, -, engine, -, hq⟩ | ⟨-, hq⟩ | ⟨hp, hq⟩ <;>
      rw [hq]
    · -- answered at once, and overtaking nobody, as nobody is parked before the sweep starts
      rw [h.parked_eq_nil (by simp [hp])]
      rfl
    · rw [h.parked_eq_nil (by simp [hp])]
      rfl
    · rfl
    · rfl
    · -- answered at once, and overtaking nobody, as nobody is parked once the sweep is complete
      rw [h.parked_eq_nil (by simp [hp])]
      rfl

/-- One input moves queries from the park to the answers, and its own query behind them. -/
theorem parked_append_asked_step {l : EventLoop σ} (h : l.ParkedWhileBrowsing) (input : Input ω) :
    l.parked ++ asked [input] =
      answered (l.step world input).2.replies ++ (l.step world input).1.parked := by
  cases input with
  | command ticket command =>
    -- first the command is obeyed, then the park is emptied if the sweep is complete
    rw [parked_append_asked_obey ticket command h, parked_eq_answered_append, ← List.append_assoc,
      ← answered_append]
    rfl
  | poll =>
    change l.parked ++ [] = _
    rw [List.append_nil]
    cases he : (Engine.next l.engine).event with
    | none => rw [step_poll_none world he]; rfl
    | some event =>
      rw [step_poll_some world he, Effects.replies_append, List.nil_append, receive_fst,
        replies_receive, ← parked_eq_answered_append, parked_handle]
  | outside happening => exact List.append_nil _

/-- The queries that were asked are those that were answered, followed by those that are parked. -/
theorem asked_eq (e : σ) (inputs : List (Input ω)) :
    asked inputs =
      answered ((ofEngine e).after world inputs).2.replies ++
        ((ofEngine e).after world inputs).1.parked := by
  -- from the end: each step answers, or parks, or leaves parked
  induction inputs using List.reverseRecOn with
  | nil => rfl
  | append_singleton inputs input ih =>
    rw [after_concat, asked_append, ih, List.append_assoc,
      parked_append_asked_step (parkedWhileBrowsing_after world e inputs) input,
      Effects.replies_append, answered_append, List.append_assoc]

/-! ### What answers say -/

/-- A query is declined: it finds the sweep not started, and the engine has failed or refuses to
browse. -/
def Declined (ticket : Nat) (input : Input ω) (l : EventLoop σ) : Prop :=
  ∃ scope, input = .command ticket (.query scope) ∧ l.sweep.progress = .idle ∧
    (Engine.failed l.engine = true ∨
      ∃ refusal, (Engine.browse serverType scope l.engine).1 = .error refusal)

/-- Declining a query leaves the sweep as it was. -/
theorem Declined.sweep_step (world : ω → σ → σ) {ticket : Nat} {input : Input ω} {l : EventLoop σ}
    (h : Declined ticket input l) : (l.step world input).1.sweep = l.sweep := by
  obtain ⟨scope, rfl, hp, hd⟩ := h
  change (l.serve ticket (.query scope)).1.sweep = l.sweep
  rw [serve_fst, sweep_answerParked]
  change (l.query ticket scope).1.sweep = l.sweep
  rcases query_cases ticket scope l with
    ⟨-, -, hq⟩ | ⟨-, -, refusal, engine, -, hq⟩ | ⟨-, hf, engine, hb, hq⟩ | ⟨hp', -⟩ | ⟨hp', -⟩
  · rw [hq]
  · rw [hq]
  · -- the engine browses, so neither reason to decline is there
    rcases hd with hd | ⟨refusal, hd⟩
    · rw [hf] at hd; exact absurd hd (by simp)
    · rw [hb] at hd; exact absurd hd (by simp)
  · rw [hp] at hp'; exact absurd hp' (by simp)
  · rw [hp] at hp'; exact absurd hp' (by simp)

omit [Engine σ] in
/-- Whoever leaves the park is told all that the complete sweep has found. -/
theorem urls_of_mem_answerParked {l : EventLoop σ} {ticket : Nat} {urls : Urls}
    (h : (ticket, .urls urls) ∈ l.answerParked.2.replies) :
    urls = l.sweep.urls ∧ l.sweep.progress = .complete := by
  unfold answerParked at h
  -- nobody is answered unless the sweep is complete
  split at h
  · next hc =>
    obtain ⟨_, -, ht⟩ := List.mem_map.mp h
    simp only [Prod.mk.injEq, Reply.urls.injEq] at ht
    exact ⟨ht.2.symm, hc⟩
  · exact absurd h List.not_mem_nil

/-- Whoever is answered at once is declined, or told all that the complete sweep has found. -/
theorem urls_of_mem_query {l : EventLoop σ} {ticket ticket' : Nat} {scope : IpScope} {urls : Urls}
    (h : (ticket', .urls urls) ∈ (l.query ticket scope).2.replies) :
    (urls = ∅ ∧ Declined ticket' (.command ticket (.query scope) : Input ω) l) ∨
      (urls = (l.query ticket scope).1.sweep.urls ∧
        (l.query ticket scope).1.sweep.progress = .complete) := by
  -- one case for each way of a query
  rcases query_cases ticket scope l with
    ⟨hp, hf, hq⟩ | ⟨hp, -, refusal, engine, hb, hq⟩ | ⟨-, -, engine, -, hq⟩ | ⟨-, hq⟩ | ⟨hp, hq⟩ <;>
    rw [hq] at h
  · -- the engine has failed: declined
    simp only [List.mem_singleton, Prod.mk.injEq, Reply.urls.injEq] at h
    exact .inl ⟨h.2, scope, by rw [h.1], hp, .inl hf⟩
  · -- the engine refuses: declined
    simp only [List.mem_singleton, Prod.mk.injEq, Reply.urls.injEq] at h
    exact .inl ⟨h.2, scope, by rw [h.1], hp, .inr ⟨refusal, by rw [hb]⟩⟩
  · -- the query waits, so nobody is answered
    exact absurd h List.not_mem_nil
  · exact absurd h List.not_mem_nil
  · -- the sweep is complete: told what is listed
    simp only [List.mem_singleton, Prod.mk.injEq, Reply.urls.injEq] at h
    rw [hq]
    exact .inr ⟨h.2, hp⟩

/-- **What a step answers.** A query is declined, or told all that the sweep has found by the end of
the step, the sweep being complete then. -/
theorem step_replies {l : EventLoop σ} {input : Input ω} {ticket : Nat} {urls : Urls}
    (h : (ticket, .urls urls) ∈ (l.step world input).2.replies) :
    (urls = ∅ ∧ Declined ticket input l) ∨
      (urls = (l.step world input).1.sweep.urls ∧
        (l.step world input).1.sweep.progress = .complete) := by
  cases input with
  | command ticket' command =>
    change (ticket, .urls urls) ∈ (l.serve ticket' command).2.replies at h
    change _ ∨ (urls = (l.serve ticket' command).1.sweep.urls ∧
      (l.serve ticket' command).1.sweep.progress = .complete)
    rw [serve_fst, sweep_answerParked]
    rw [replies_serve] at h
    -- the answer is to the command itself, or to a query that has waited
    rcases List.mem_append.mp h with h | h
    · cases command with
      | status => simp [obey] at h
      | info => simp [obey] at h
      | publish advertisement => simp [obey] at h
      | query scope => exact urls_of_mem_query h
    · exact .inr (urls_of_mem_answerParked h)
  | poll =>
    -- an event declines nobody
    refine .inr ?_
    cases he : (Engine.next l.engine).event with
    | none => rw [step_poll_none world he] at h; exact absurd h List.not_mem_nil
    | some event =>
      rw [step_poll_some world he, Effects.replies_append, List.nil_append, replies_receive] at h
      rw [step_poll_some world he, receive_fst, sweep_answerParked]
      exact urls_of_mem_answerParked h
  | outside happening => exact absurd h List.not_mem_nil

/-- All queries that are answered in one step get the same answer: one that is declined finds the
sweep not started, and leaves it so. -/
theorem step_replies_agree {l : EventLoop σ} {input : Input ω} {t t' : Nat} {urls urls' : Urls}
    (h : (t, .urls urls) ∈ (l.step world input).2.replies)
    (h' : (t', .urls urls') ∈ (l.step world input).2.replies) : urls = urls' := by
  -- one that is declined leaves the sweep idle, so nobody else finds it complete
  have h_apart : ∀ ticket, Declined ticket input l →
      (l.step world input).1.sweep.progress ≠ .complete := by
    intro ticket hd hc
    have hs := hd.sweep_step world
    obtain ⟨_, -, hp, -⟩ := hd
    rw [hs, hp] at hc
    exact absurd hc (by simp)
  rcases step_replies h with ⟨rfl, hd⟩ | ⟨rfl, hc⟩
  · rcases step_replies h' with ⟨rfl, -⟩ | ⟨-, hc⟩
    · rfl
    · exact absurd hc (h_apart t hd)
  · rcases step_replies h' with ⟨-, hd⟩ | ⟨rfl, -⟩
    · exact absurd hc (h_apart t' hd)
    · rfl

/-- **The discipline of queries.** Whatever the engine and the world do: after every run, queries
are parked only while the sweep is under way, and the queries that were asked are those that were
answered and those that are parked, each of them once and in the order in which they came.  In every
step that follows, an answer is empty because the query was declined, or it shows what a sweep has
found that is surveyed and has no resolution outstanding; and all answers of the step agree. -/
theorem query_discipline (world : ω → σ → σ) (e : σ) (inputs : List (Input ω)) :
    let l := ((ofEngine e).after world inputs).1
    let shown := ((ofEngine e).after world inputs).2
    (l.parked ≠ [] → l.sweep.progress = .browsing) ∧
    asked inputs = answered shown.replies ++ l.parked ∧
    ∀ input : Input ω,
      (∀ ticket urls, (ticket, .urls urls) ∈ (l.step world input).2.replies →
        (urls = ∅ ∧ Declined ticket input l) ∨
        (urls = (l.step world input).1.sweep.urls ∧
          (l.step world input).1.sweep.started = true ∧
          (l.step world input).1.sweep.surveyed = true ∧
          (l.step world input).1.sweep.outstanding = ∅)) ∧
      ∀ ticket ticket' urls urls', (ticket, .urls urls) ∈ (l.step world input).2.replies →
        (ticket', .urls urls') ∈ (l.step world input).2.replies → urls = urls' := by
  intro l shown
  refine ⟨parkedWhileBrowsing_after world e inputs, asked_eq e inputs, fun input => ⟨?_, ?_⟩⟩
  · intro ticket urls h
    rcases step_replies h with hd | ⟨hu, hc⟩
    · exact .inl hd
    · exact .inr ⟨hu, (Sweep.progress_eq_complete_iff _).mp hc⟩
  · intro ticket ticket' urls urls' h h'
    exact step_replies_agree h h'

end EventLoop
end ServiceDiscovery
