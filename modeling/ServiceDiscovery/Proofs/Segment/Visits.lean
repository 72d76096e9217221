import ServiceDiscovery.Proofs.Segment.Tracking
import ServiceDiscovery.Segment.Neighbourhood

/-!
# Agents at a segment

Of an agent only its event loop matters here (`Agent.loop?`), which one without a running loop is
going to have.  What an agent is asked for is what its loop is asked for, also where it is what
starts the loop (`Agent.register_spec`, `Agent.ask_none`).

In a neighbourhood one agent acts at a time: its own loop changes, and the others find themselves at
a segment that may have changed (`Neighbourhood.Turned`).
-/

namespace ServiceDiscovery

/-! ### Loops of agents -/

/-- The loop, with its engine at this segment. -/
def EventLoop.reseat (segment : Segment) (l : EventLoop Seat) : EventLoop Seat :=
  { l with engine := { l.engine with segment } }

namespace Agent

variable {σ : Type}

/-- The event loop of an agent; that of an engine that nobody runs has nothing to go on yet. -/
def loop? : Agent σ → Option (EventLoop σ)
  | unavailable => none
  | resting engine => some (.ofEngine engine)
  | running loop => some loop

/-- Polls the event loop, if it runs. -/
def poll [Engine σ] : Agent σ → Agent σ × Effects
  | running loop => (running loop.poll.2.1, loop.poll.2.2)
  | agent => (agent, {})

variable {a : Agent Seat} {l : EventLoop Seat} {host : Host} {posted : Array Nat}
  {watch? : Option Watch} {port : String}

/-- An unusable port is noted, and nothing is registered. -/
theorem register_fault {fault : Text.PortFault} (h_port : Text.parsePort port = .error fault)
    (tag : String) (scope : IpScope) (a : Agent Seat) :
    a.register tag port scope = (a, [.badPort port fault]) := by
  unfold register
  rw [h_port]

/-- **Registering.** With a usable port the loop of the agent posts the server, and nothing is
noted. -/
theorem register_spec (h_loop : a.loop? = some l) (h : Attends host posted watch? l.engine l.sweep)
    {number : UInt16} (h_port : Text.parsePort port = .ok number) (tag : String) (scope : IpScope) :
    ∃ a' l', a.register tag port scope = (a', []) ∧ a'.loop? = some l' ∧
      l'.engine.segment =
        (l.engine.segment.post host (.ofServer host.name tag number scope)).1 ∧
      l'.engine.member.queue = l.engine.member.queue ++ [.established] ∧
      l'.engine.member.nextResolution = l.engine.member.nextResolution ∧
      l'.sweep = l.sweep ∧
      Attends host (posted.push l.engine.segment.nextId) watch? l'.engine l'.sweep := by
  have h_name : (Engine.info l.engine).hostName = host.name := h.hostName
  cases a with
  | unavailable => exact absurd h_loop (by simp [loop?])
  -- nobody runs the loop yet: the registration starts it
  | resting engine =>
    obtain rfl := Option.some.inj h_loop
    obtain ⟨seat', h_publish, h_segment, h_queue, h_next, h_attends⟩ :=
      h.publish (.ofServer host.name tag number scope)
    refine ⟨.running (.ofEngine seat'), .ofEngine seat', ?_, rfl, h_segment, h_queue, h_next, rfl,
      h_attends⟩
    change (Engine.info engine).hostName = host.name at h_name
    change Engine.publish _ engine = _ at h_publish
    have h_failed : Engine.failed engine = false := h.not_failed
    simp only [register, h_port, h_failed, h_name, h_publish, Bool.false_eq_true, if_false]
    rfl
  | running loop =>
    -- the loop is running already: it takes the registration as a command
    obtain rfl := Option.some.inj h_loop
    obtain ⟨l', effects, h_serve, h_segment, h_queue, h_next, h_sweep, h_attends, h_notices⟩ :=
      h.serve_publish 0 (.ofServer host.name tag number scope)
    refine ⟨.running l', l', ?_, rfl, h_segment, h_queue, h_next, h_sweep, h_attends⟩
    simp only [register, h_port, h_name, h_serve, h_notices]

/-- **Asking first.** The first query starts the loop, if need be, and makes it watch its
segment. -/
theorem ask_none (h_loop : a.loop? = some l) (h : Attends host posted none l.engine l.sweep)
    (ticket : Nat) (scope : IpScope) :
    ∃ l' effects, a.ask ticket scope = (.running l', effects) ∧
      l'.engine.segment = l.engine.segment ∧
      l'.engine.member.queue = l.engine.member.queue ++
        (Watch.start serverType scope l.engine.segment).2 ++ [.cacheExhausted, .allForNow] ∧
      l'.sweep = { l.sweep with started := true } ∧
      Attends host posted (some (Watch.start serverType scope l.engine.segment).1) l'.engine
        l'.sweep := by
  obtain ⟨l', effects, h_serve, h_rest⟩ := h.serve_query_none ticket scope
  refine ⟨l', effects, ?_, h_rest⟩
  cases a with
  | unavailable => exact absurd h_loop (by simp [loop?])
  | resting engine =>
    obtain rfl := Option.some.inj h_loop
    -- the first question sets the loop going
    have h_failed : Engine.failed engine = false := h.not_failed
    simp only [ask, h_failed, h_serve, Bool.false_eq_true, if_false]
  | running loop =>
    obtain rfl := Option.some.inj h_loop
    simp only [ask, h_serve]

/-- Asking again changes neither the watch of an agent nor what it has found. -/
theorem ask_some {watch : Watch} (h_loop : a.loop? = some l)
    (h : Attends host posted (some watch) l.engine l.sweep) (ticket : Nat) (scope : IpScope) :
    ∃ l' effects, a.ask ticket scope = (.running l', effects) ∧ l'.engine = l.engine ∧
      l'.sweep = l.sweep := by
  cases a with
  | unavailable => exact absurd h_loop (by simp [loop?])
  | resting engine =>
    -- a loop that nobody runs has not asked yet
    obtain rfl := Option.some.inj h_loop
    exact absurd (h.started rfl) (by simp [EventLoop.ofEngine, Sweep.fresh])
  | running loop =>
    obtain rfl := Option.some.inj h_loop
    obtain ⟨h_engine, h_sweep⟩ := h.serve_query_some ticket scope
    exact ⟨_, _, rfl, h_engine, h_sweep⟩

/-- Only a loop that runs is polled. -/
theorem poll_spec (h_loop : a.loop? = some l) :
    ∃ l', a.poll.1.loop? = some l' ∧ (l' = l ∨ l' = l.poll.2.1) := by
  cases a with
  | unavailable => exact absurd h_loop (by simp [loop?])
  | resting engine => exact ⟨l, h_loop, .inl rfl⟩
  | running loop =>
    obtain rfl := Option.some.inj h_loop
    exact ⟨_, rfl, .inr rfl⟩

end Agent

namespace Neighbourhood

variable {n : Neighbourhood} {name other : String} {a a' : Agent Seat} {l : EventLoop Seat}

/-- The event loop of the agent of a name, at the segment as it is. -/
def loop? (name : String) (n : Neighbourhood) : Option (EventLoop Seat) :=
  (n.agent? name).bind fun a => (seated n.segment a).loop?

theorem loop?_seated (segment : Segment) (a : Agent Seat) :
    (seated segment a).loop? = a.loop?.map (·.reseat segment) := by
  cases a <;> rfl

theorem left_of_loop? (segment : Segment) (h : a.loop? = some l) :
    left segment a = l.engine.segment := by
  -- an agent that has no engine has no loop either
  cases a with
  | unavailable => exact absurd h (by simp [Agent.loop?])
  | resting engine =>
    obtain rfl := Option.some.inj h
    rfl
  | running loop =>
    obtain rfl := Option.some.inj h
    rfl

/-! ### Agents by name -/

theorem lookup_replace (agents : List (String × Agent Seat)) :
    (agents.map fun (other, b) => (other, if other = name then a else b)).lookup other =
      if other = name then (agents.lookup name).map fun _ => a else agents.lookup other := by
  induction agents with
  | nil => simp
  | cons entry agents ih =>
    obtain ⟨x, b⟩ := entry
    rw [List.map_cons, List.lookup_cons, ih, List.lookup_cons, List.lookup_cons]
    by_cases h_other : other = name
    · -- only at `name` does the entry itself matter
      subst h_other
      by_cases h_x : other = x
      · subst h_x
        simp
      · simp [beq_eq_false_iff_ne.mpr h_x]
    · by_cases h_x : other = x
      · subst h_x
        simp [h_other]
      · simp [beq_eq_false_iff_ne.mpr h_x, h_other]

theorem lookup_concat {β : Type} {entries : List (String × β)} (h_free : entries.lookup name = none)
    (b : β) : (entries ++ [(name, b)]).lookup other =
      if other = name then some b else entries.lookup other := by
  rw [List.lookup_append, List.lookup_cons, List.lookup_nil]
  by_cases h_eq : other = name
  · subst h_eq
    rw [h_free, beq_self_eq_true, if_pos rfl]
    rfl
  · rw [beq_eq_false_iff_ne.mpr h_eq, if_neg h_eq, Option.or_none]

theorem lookup_filter_ne {β : Type} (entries : List (String × β)) :
    (entries.filter (·.1 ≠ name)).lookup other =
      if other = name then none else entries.lookup other := by
  induction entries with
  | nil => simp
  | cons entry entries ih =>
    obtain ⟨x, b⟩ := entry
    rw [List.filter_cons]
    by_cases h_x : x = name
    · -- an entry of `name` is dropped, so `x` is looked up in vain
      subst h_x
      rw [if_neg (by simp), ih, List.lookup_cons]
      by_cases h_other : other = x
      · rw [if_pos h_other, if_pos h_other]
      · simp [beq_eq_false_iff_ne.mpr h_other, h_other]
    · rw [if_pos (by simpa using h_x), List.lookup_cons, ih, List.lookup_cons]
      by_cases h_other : other = name
      · subst h_other
        simp [beq_eq_false_iff_ne.mpr (Ne.symm h_x)]
      · simp [h_other]

/-! ### What a step does to the loops -/

/-- The step has changed the loop of one name, and left the other agents as they are. -/
structure Turned (name : String) (l? : Option (EventLoop Seat)) (n n' : Neighbourhood) : Prop where
  self : n'.loop? name = l?
  others : ∀ other, other ≠ name → n'.agent? other = n.agent? other

/-- The other loops find themselves at the segment as it is now. -/
theorem Turned.loop? {n' : Neighbourhood} {l? : Option (EventLoop Seat)} (h : Turned name l? n n')
    (h_ne : other ≠ name) : n'.loop? other = (n.loop? other).map (·.reseat n'.segment) := by
  unfold Neighbourhood.loop?
  -- the entry is the one it was; only the segment around it has changed
  rw [h.others other h_ne]
  cases n.agent? other with
  | none => rfl
  | some a =>
    rw [Option.bind_some, Option.bind_some, loop?_seated, loop?_seated, Option.map_map]
    rfl

/-- Without an agent of that name nothing happens. -/
theorem visit_of_none {α : Type} {act : Agent Seat → α × Agent Seat}
    (h_agent : n.agent? name = none) :
    n.visit name act = (none, n) := by
  unfold visit
  rw [h_agent]

/-- An agent that acts changes its own loop, and leaves the segment as its loop has it. -/
theorem turned_visit {α : Type} (act : Agent Seat → α × Agent Seat) {result : α}
    (h_agent : n.agent? name = some a) (h_act : act (seated n.segment a) = (result, a'))
    (h_loop : a'.loop? = some l) :
    ∃ n', n.visit name act = (some result, n') ∧ n'.segment = l.engine.segment ∧
      Turned name (some l) n n' ∧ n'.agent? name = some a' := by
  have h_left := left_of_loop? n.segment h_loop
  have h_visit : n.visit name act =
      (some result, { n.replace name a' with segment := l.engine.segment }) := by
    unfold visit
    rw [h_agent]
    dsimp only
    rw [h_act, ← h_left]
  -- the agents are as before, but for the one that acted
  have h_lookup : ∀ other, agent? other { n.replace name a' with segment := l.engine.segment } =
      if other = name then some a' else n.agent? other := by
    intro other
    refine (lookup_replace n.agents).trans ?_
    change (if other = name then (n.agent? name).map fun _ => a' else n.agent? other) = _
    rw [h_agent]
    rfl
  have h_self := (h_lookup name).trans (if_pos rfl)
  refine ⟨_, h_visit, rfl, ⟨?_, ?_⟩, h_self⟩
  · -- at `name`: the agent that acted, on the segment it has left behind
    unfold loop?
    rw [h_self, Option.bind_some, loop?_seated, h_loop]
    rfl
  · intro other h_ne
    exact (h_lookup other).trans (if_neg h_ne)

/-- An agent that comes gets a loop of its own. -/
theorem turned_join (h_free : n.agent? name = none) (a : Agent Seat) :
    Turned name (a.loop?.map (·.reseat n.segment)) n (n.join name a) := by
  have h_lookup : ∀ other, (n.join name a).agent? other =
      if other = name then some a else n.agent? other := fun _ => lookup_concat h_free a
  refine ⟨?_, ?_⟩
  · -- the new agent sits down at the segment as it is
    unfold loop?
    rw [h_lookup, if_pos rfl, Option.bind_some, loop?_seated]
    rfl
  · intro other h_ne
    exact (h_lookup other).trans (if_neg h_ne)

theorem close_of_loop? (h : a.loop? = some l) : a.close = some (Engine.close l.engine) := by
  cases a with
  | unavailable => exact absurd h (by simp [Agent.loop?])
  | resting engine =>
    obtain rfl := Option.some.inj h
    rfl
  | running loop =>
    obtain rfl := Option.some.inj h
    rfl

/-- An agent that is sent away takes its loop and its postings with it. -/
theorem turned_dismiss (h_loop : n.loop? name = some l) {host : Host} {posted : Array Nat}
    {watch? : Option Watch}
    (h_attached : l.engine.member.attachment = .attached host posted watch?) :
    (n.dismiss name).segment =
        posted.foldl (fun segment id => segment.withdraw id) l.engine.segment ∧
      Turned name none n (n.dismiss name) := by
  obtain ⟨a, h_agent, h_seated⟩ := Option.bind_eq_some_iff.mp h_loop
  -- the engine withdraws what it has posted when it is closed
  have h_close : ((seated n.segment a).close.map (·.segment)).getD n.segment =
      posted.foldl (fun segment id => segment.withdraw id) l.engine.segment := by
    rw [close_of_loop? h_seated, Option.map_some, Option.getD_some]
    change l.engine.close.segment = _
    unfold Seat.close
    rw [h_attached]
  have h_dismiss : n.dismiss name =
      { segment := posted.foldl (fun segment id => segment.withdraw id) l.engine.segment
        agents := n.agents.filter (·.1 ≠ name) } := by
    unfold dismiss
    rw [h_agent]
    dsimp only
    rw [h_close]
  rw [h_dismiss]
  refine ⟨rfl, ?_, ?_⟩
  · -- at `name`: nobody is left there
    have h_gone : (n.agents.filter (·.1 ≠ name)).lookup name = none :=
      (lookup_filter_ne n.agents).trans (if_pos rfl)
    unfold loop? agent?
    rw [h_gone]
    rfl
  · intro other h_ne
    exact (lookup_filter_ne n.agents).trans (if_neg h_ne)

/-- A loop is found at the segment as it is. -/
theorem segment_of_loop? (h_loop : n.loop? name = some l) : l.engine.segment = n.segment := by
  obtain ⟨a, -, h_seated⟩ := Option.bind_eq_some_iff.mp h_loop
  rw [loop?_seated] at h_seated
  obtain ⟨l', -, rfl⟩ := Option.map_eq_some_iff.mp h_seated
  rfl

end Neighbourhood

end ServiceDiscovery
