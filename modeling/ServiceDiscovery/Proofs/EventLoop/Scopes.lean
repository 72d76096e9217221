import ServiceDiscovery.Proofs.EventLoop.Pinned
import ServiceDiscovery.Proofs.EventLoop.Translation

/-!
# Only one scope counts

The scope of a query counts if the query starts the sweep.  To speak of what a loop asks its engine
for, the engine is put behind a record of all requests and their answers (`Recorded`), which changes
nothing about the loop (`Recorded.translates`).

A step asks the engine to browse at most once, and only where the sweep has not started; the sweep
has started from then on exactly if the engine accepts (`EventLoop.browses_step`).  So whatever was
browsed for before the sweep started was refused, and nothing is browsed for after that
(`EventLoop.BrowsesOnce`).

Queries that find the sweep started do the same whatever their scopes are
(`EventLoop.step_unscoped`), and from there on runs that differ in such scopes only are the same
(`EventLoop.after_of_unscoped`).
-/

namespace ServiceDiscovery

variable {σ ω : Type}

/-! ### A record of requests -/

/-- A request that an engine was asked, with its answer if it has one. -/
inductive Request
  | publish (ad : Advertisement) (answer : Except Refusal Unit)
  | browse (type : String) (scope : IpScope) (answer : Except Refusal Unit)
  | resolve (k : Sighting) (q : IpScope) (answer : Except Refusal Nat)
  | release (id : Nat)

namespace Request

/-- The answer to a request to browse. -/
def browse? : Request → Option (Except Refusal Unit)
  | browse _ _ answer => some answer
  | _ => none

/-- The answers to the requests to browse, in order. -/
def browses (requests : List Request) : List (Except Refusal Unit) := requests.filterMap browse?

theorem browses_concat (requests : List Request) (request : Request) :
    browses (requests ++ [request]) = browses requests ++ request.browse?.toList := by
  unfold browses
  rw [List.filterMap_append]
  cases h : request.browse? <;> simp [h]

end Request

/-- An engine, with a record of all that was asked of it. -/
structure Recorded (σ : Type) where
  engine : σ
  /-- What was asked, in order. -/
  requests : List Request

namespace Recorded

/-- The engine at the beginning of the record. -/
def opened (engine : σ) : Recorded σ := { engine, requests := [] }

/-- Writes a request down, and what it makes of the engine. -/
def write (request : Request) (engine : σ) (r : Recorded σ) : Recorded σ :=
  { engine, requests := r.requests ++ [request] }

/-- What happens outside reaches the engine, and is not recorded. -/
def behind (world : ω → σ → σ) (happening : ω) (r : Recorded σ) : Recorded σ :=
  { r with engine := world happening r.engine }

variable [Engine σ]

/-- Requests reach the engine, and are recorded with the answers. -/
instance : Engine (Recorded σ) where
  state r := Engine.state r.engine
  info r := Engine.info r.engine
  publish ad r :=
    let (answer, engine) := Engine.publish ad r.engine
    (answer, r.write (.publish ad answer) engine)
  browse type scope r :=
    let (answer, engine) := Engine.browse type scope r.engine
    (answer, r.write (.browse type scope answer) engine)
  resolve k q r :=
    let (answer, engine) := Engine.resolve k q r.engine
    (answer, r.write (.resolve k q answer) engine)
  release id r := r.write (.release id) (Engine.release id r.engine)
  next r :=
    let turn := Engine.next r.engine
    { event := turn.event, notices := turn.notices, engine := { r with engine := turn.engine } }
  backlog r := Engine.backlog r.engine
  close r := { r with engine := Engine.close r.engine }

/-- The record changes nothing. -/
theorem translates : Engine.Translates (engine : Recorded σ → σ) where
  state _ := rfl
  info _ := rfl
  publish _ _ := rfl
  browse _ _ _ := rfl
  resolve _ _ _ := rfl
  release _ _ := rfl
  next _ := rfl

/-- The answers to what was browsed for, in order. -/
def browses (r : Recorded σ) : List (Except Refusal Unit) := Request.browses r.requests

omit [Engine σ] in
theorem browses_write (request : Request) (engine : σ) (r : Recorded σ) :
    (r.write request engine).browses = r.browses ++ request.browse?.toList :=
  Request.browses_concat r.requests request

theorem browses_browse {type : String} {scope : IpScope} {answer : Except Refusal Unit}
    {r r' : Recorded σ} (h : Engine.browse type scope r = (answer, r')) :
    r'.browses = r.browses ++ [answer] := by
  obtain ⟨rfl, rfl⟩ := Prod.mk.inj h
  exact browses_write _ _ r

end Recorded

namespace EventLoop

variable [Engine σ] {world : ω → σ → σ}

/-- The loop over an engine behind a record is the loop over the engine. -/
theorem after_recorded (world : ω → σ → σ) (inputs : List (Input ω))
    (l : EventLoop (Recorded σ)) :
    (l.map Recorded.engine).after world inputs =
      ((l.after (Recorded.behind world) inputs).1.map Recorded.engine,
        (l.after (Recorded.behind world) inputs).2) :=
  after_map Recorded.translates (fun _ _ => rfl) inputs l

/-- The loop over an engine behind a record after some inputs, with all that was shown. -/
def recorded (world : ω → σ → σ) (e : σ) (inputs : List (Input ω)) :
    EventLoop (Recorded σ) × Effects :=
  (ofEngine (Recorded.opened e)).after (Recorded.behind world) inputs

/-! ### What is browsed for -/

section Browses

variable {l : EventLoop (Recorded σ)}

/-- Taking in an event, a loop resolves and releases. -/
theorem browses_handle (event : Event) (l : EventLoop (Recorded σ)) :
    (l.handle event).1.engine.browses = l.engine.browses := by
  -- neither a release nor a resolution is a browse
  have h_release : ∀ (r : Recorded σ) id, r.browses = l.engine.browses →
      (Engine.release id r).browses = l.engine.browses := fun r id h =>
    (Recorded.browses_write (.release id) _ r).trans ((List.append_nil _).trans h)
  have h_resolve : ∀ (r : Recorded σ) (k : Sighting), r.browses = l.engine.browses →
      (Engine.resolve k k.protocol r).2.browses = l.engine.browses := fun r k h =>
    (Recorded.browses_write (.resolve k k.protocol _) _ r).trans ((List.append_nil _).trans h)
  rcases handle_cases event l with ⟨-, h_engine⟩ | ⟨-, -, h_engine⟩ | ⟨-, h_engine⟩ <;>
    rw [h_engine]
  · exact Sweep.giveUp_induction h_release rfl
  · exact Sweep.handle_induction h_release h_resolve rfl event

/-- **What a step browses for.** A step does not browse, and the sweep is started as before; or the
sweep had not started, the engine is asked once, and the sweep has started if it accepts. -/
theorem browses_step (world : ω → σ → σ) (input : Input ω) (l : EventLoop (Recorded σ)) :
    let l' := (l.step (Recorded.behind world) input).1
    (l'.engine.browses = l.engine.browses ∧ l'.sweep.started = l.sweep.started) ∨
      l.sweep.started = false ∧ ∃ answer, l'.engine.browses = l.engine.browses ++ [answer] ∧
        (l'.sweep.started = true ↔ answer = .ok ()) := by
  intro l'
  cases input with
  | command ticket command =>
    have h_sweep : l'.sweep = (l.obey ticket command).1.sweep := sweep_answerParked _
    have h_engine : l'.engine = (l.obey ticket command).1.engine := engine_answerParked _
    rw [h_sweep, h_engine]
    -- of the four commands only a query asks the engine to browse
    cases command with
    | status => exact .inl ⟨rfl, rfl⟩
    | info => exact .inl ⟨rfl, rfl⟩
    | publish ad =>
      have h_browses := Recorded.browses_write (.publish ad (Engine.publish ad l.engine.engine).1)
        (Engine.publish ad l.engine.engine).2 l.engine
      exact .inl ⟨h_browses.trans (List.append_nil _), rfl⟩
    | query scope =>
      have h_idle : l.sweep.progress = .idle → l.sweep.started = false :=
        (Sweep.progress_eq_idle_iff _).mp
      obtain ⟨-, -, hq⟩ | ⟨hp, -, refusal, r, hb, hq⟩ | ⟨hp, -, r, hb, hq⟩ | ⟨-, hq⟩ | ⟨-, hq⟩ :=
        query_cases ticket scope l <;> rw [obey, hq]
      · -- the engine has failed, so it is not asked
        exact .inl ⟨rfl, rfl⟩
      · -- the engine refuses, and the sweep does not start
        refine .inr ⟨h_idle hp, .error refusal, Recorded.browses_browse hb, ?_⟩
        exact ⟨fun h => absurd ((h_idle hp).symm.trans h) Bool.false_ne_true,
          fun h => absurd h (by simp)⟩
      · -- the engine accepts, and the sweep starts
        exact .inr ⟨h_idle hp, .ok (), Recorded.browses_browse hb, fun _ => rfl, fun _ => rfl⟩
      · -- the sweep has started: the query waits, or it is answered
        exact .inl ⟨rfl, rfl⟩
      · exact .inl ⟨rfl, rfl⟩
  | poll =>
    refine .inl ?_
    cases he : (Engine.next l.engine).event with
    -- polling brings at most an event, and no event makes the engine browse
    | none =>
      have h_step : l' = { l with engine := (Engine.next l.engine).engine } :=
        congrArg Prod.fst (step_poll_none _ he)
      rw [h_step]
      exact ⟨rfl, rfl⟩
    | some event =>
      have h_step : l' =
          (({ l with engine := (Engine.next l.engine).engine } : EventLoop _).receive event).1 := by
        simp only [l', step_poll_some _ he]
      rw [h_step, receive_fst, sweep_answerParked, engine_answerParked, started_handle,
        browses_handle]
      exact ⟨rfl, rfl⟩
  | outside happening => exact .inl ⟨rfl, rfl⟩

/-- Whatever was browsed for was refused; but if the sweep has started, the last was accepted. -/
structure BrowsesOnce (l : EventLoop (Recorded σ)) : Prop where
  refused : l.sweep.started = false → .ok () ∉ l.engine.browses
  accepted : l.sweep.started = true →
    ∃ earlier, l.engine.browses = earlier ++ [.ok ()] ∧ .ok () ∉ earlier

namespace BrowsesOnce

/-- **Invariant preservation.** Every input preserves it. -/
theorem step (h : l.BrowsesOnce) (input : Input ω) :
    (l.step (Recorded.behind world) input).1.BrowsesOnce := by
  obtain ⟨h_browses, h_started⟩ | ⟨h_idle, answer, h_browses, h_started⟩ :=
    browses_step world input l
  · -- nothing was asked, so the answers and the flag are as they were
    refine ⟨fun hs => ?_, fun hs => ?_⟩
    · rw [h_browses]
      exact h.refused (h_started.symm.trans hs)
    · rw [h_browses]
      exact h.accepted (h_started.symm.trans hs)
  · -- the engine was asked, and the flag says what it answered
    refine ⟨fun hs h_mem => ?_, fun hs => ⟨_, h_started.mp hs ▸ h_browses, h.refused h_idle⟩⟩
    rw [h_browses] at h_mem
    rcases List.mem_append.mp h_mem with h_mem | h_mem
    · exact h.refused h_idle h_mem
    · -- a second acceptance would have set the flag
      rw [h_started.mpr (List.mem_singleton.mp h_mem).symm] at hs
      cases hs

theorem after (world : ω → σ → σ) (e : σ) (inputs : List (Input ω)) :
    (recorded world e inputs).1.BrowsesOnce :=
  after_invariant _ ⟨fun _ => List.not_mem_nil, fun h => absurd h Bool.false_ne_true⟩
    (fun input _ h => h.step input) inputs

omit [Engine σ] in
/-- Nothing is browsed for after that. -/
theorem last (h : l.BrowsesOnce) {earlier rest : List (Except Refusal Unit)}
    (h_split : l.engine.browses = earlier ++ .ok () :: rest) : rest = [] := by
  -- before the start every answer is a refusal
  cases hs : l.sweep.started with
  | false =>
    refine absurd ?_ (h.refused hs)
    rw [h_split]
    exact List.mem_append_right _ (.head _)
  | true =>
    -- after it one answer is an acceptance, and the ones before it are refusals
    obtain ⟨refused, h_browses, h_none⟩ := h.accepted hs
    rcases concat_eq_append_cons.mp (h_browses.symm.trans h_split) with
      ⟨-, -, h_nil⟩ | ⟨later, -, h_refused⟩
    · exact h_nil
    · refine absurd ?_ h_none
      rw [h_refused]
      exact List.mem_append_right _ (.head _)

omit [Engine σ] in
theorem started_iff (h : l.BrowsesOnce) :
    l.sweep.started = true ↔ .ok () ∈ l.engine.browses := by
  refine ⟨fun hs => ?_, fun h_mem => ?_⟩
  · obtain ⟨earlier, h_browses, -⟩ := h.accepted hs
    rw [h_browses]
    exact List.mem_append_right _ (.head _)
  · by_contra hs
    exact h.refused (Bool.eq_false_iff.mpr hs) h_mem

end BrowsesOnce

end Browses

/-! ### Scopes that do not count -/

/-- The input, without the scope of a query. -/
def Input.unscoped : Input ω → Input ω
  | .command ticket (.query _) => .command ticket (.query .any)
  | input => input

variable {l : EventLoop σ}

/-- Where the sweep has started, the scope of a query does not matter. -/
theorem step_unscoped (h : l.sweep.started = true) (input : Input ω) :
    l.step world input.unscoped = l.step world input := by
  match input with
  | .command ticket (.query scope) =>
    -- once the sweep has started a query reads its progress only
    have h_query : l.query ticket .any = l.query ticket scope := by
      unfold query
      split
      · next h_idle => rw [(Sweep.progress_eq_idle_iff _).mp h_idle] at h; cases h
      · rfl
      · rfl
    show l.serve ticket (.query .any) = l.serve ticket (.query scope)
    unfold serve
    rw [show l.obey ticket (.query .any) = l.obey ticket (.query scope) from h_query]
  | .command _ .status | .command _ .info | .command _ (.publish _) | .poll | .outside _ => rfl

/-- **Later scopes are irrelevant.** Once the sweep has started, runs that differ in the scopes of
queries only are the same. -/
theorem after_of_unscoped {before : List (Input ω)}
    (h_started : (l.after world before).1.sweep.started = true) {later later' : List (Input ω)}
    (h_alike : later.map Input.unscoped = later'.map Input.unscoped) :
    l.after world (before ++ later) = l.after world (before ++ later') := by
  -- from the end: the two courses agree up to the last input
  induction later using List.reverseRecOn generalizing later' with
  | nil => rw [List.map_eq_nil_iff.mp h_alike.symm]
  | append_singleton later input ih =>
    rw [List.map_append] at h_alike
    obtain ⟨later', last, rfl, h_later, h_last⟩ := List.map_eq_append_iff.mp h_alike.symm
    obtain ⟨input', rfl, h_input⟩ := List.map_eq_singleton_iff.mp h_last
    -- a sweep that has started stays so
    have h_kept : (l.after world (before ++ later)).1.sweep.started = true := by
      rw [after_append_fst]
      refine after_invariant (P := fun l => l.sweep.started = true) world h_started ?_ later
      exact fun input l h => by rw [started_step, h, Bool.true_or]
    rw [← List.append_assoc, ← List.append_assoc, after_concat, after_concat, ← ih h_later.symm,
      ← step_unscoped h_kept input, ← step_unscoped h_kept input', h_input]

/-- **Only one scope counts.** An engine is put behind a record, which changes nothing about the
loop over it, whatever the loop goes through.

In every run the engine accepts to browse at most once, and is not asked to browse after that.  A
step that asks it to finds the sweep not started.

Runs that go on in the same way once the engine has accepted to browse, except for the scopes of
queries, agree at every step: in what was requested of the engine, in what is listed and in all that
was shown. -/
theorem only_one_scope_counts (world : ω → σ → σ) (e : σ) :
    (∀ inputs, (recorded world e inputs).1.map Recorded.engine =
        ((ofEngine e).after world inputs).1 ∧
      (recorded world e inputs).2 = ((ofEngine e).after world inputs).2) ∧
    (∀ inputs earlier rest,
      (recorded world e inputs).1.engine.browses = earlier ++ .ok () :: rest → rest = []) ∧
    (∀ inputs input, (recorded world e (inputs ++ [input])).1.engine.browses ≠
        (recorded world e inputs).1.engine.browses →
      (recorded world e inputs).1.sweep.started = false) ∧
    ∀ before, .ok () ∈ (recorded world e before).1.engine.browses →
      ∀ later later' : List (Input ω), later.map Input.unscoped = later'.map Input.unscoped →
        ∀ n, recorded world e (before ++ later.take n) =
          recorded world e (before ++ later'.take n) := by
  refine ⟨fun inputs => ?_, fun inputs earlier rest h_split => ?_, fun inputs input h_browses => ?_,
    fun before h_accepted later later' h_alike n => ?_⟩
  · have h_after := after_recorded world inputs (ofEngine (Recorded.opened e))
    exact ⟨(congrArg Prod.fst h_after).symm, (congrArg Prod.snd h_after).symm⟩
  · exact (BrowsesOnce.after world e inputs).last h_split
  · -- a step that asks the engine to browse finds the sweep idle
    obtain ⟨h_same, -⟩ | ⟨h_idle, -⟩ := browses_step world input (recorded world e inputs).1
    · refine absurd ?_ h_browses
      unfold recorded
      rw [after_concat]
      exact h_same
    · exact h_idle
  · refine after_of_unscoped ((BrowsesOnce.after world e before).started_iff.mpr h_accepted) ?_
    rw [List.map_take, List.map_take, h_alike]

/-- An engine that reports what it is handed. -/
def scriptedSeat : Seat := { segment := .quiet, member := .scripted }

/-- A server appears after the first sweep, and somebody asks for servers. -/
def laterQuery (scope : IpScope) : List (Input Event) :=
  appearance ++ [.command 1 (.query scope)]

/-- The later query for IPv4 might as well be one for IPv6. -/
theorem only_one_scope_counts_attic :
    .ok () ∈ (recorded handed scriptedSeat firstSweep).1.engine.browses ∧
      recorded handed scriptedSeat (firstSweep ++ laterQuery .v4) =
        recorded handed scriptedSeat (firstSweep ++ laterQuery .v6) := by
  have h_accepted : .ok () ∈ (recorded handed scriptedSeat firstSweep).1.engine.browses := by
    decide +kernel
  have h_same := (only_one_scope_counts handed scriptedSeat).2.2.2 firstSweep h_accepted
    (laterQuery .v4) (laterQuery .v6) rfl 3
  have h_take (scope : IpScope) : (laterQuery scope).take 3 = laterQuery scope := rfl
  rw [h_take, h_take] at h_same
  exact ⟨h_accepted, h_same⟩

end EventLoop

end ServiceDiscovery
