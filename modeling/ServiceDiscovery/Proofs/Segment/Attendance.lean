import Mathlib.Algebra.GroupWithZero.Nat
import ServiceDiscovery.Discovery.Agent
import ServiceDiscovery.Proofs.EventLoop.Run
import ServiceDiscovery.Proofs.Segment.Pursuit

/-!
# Loops at a segment

A loop attends to a segment (`Attends`) if its engine is that of a member for a host, without a
script, and its sweep has started just if the member watches.  Only a few events come up at such a
member (`Event.Plain`), none of its requests is refused, and a resolution ends at once.  So it can
be said what the loop does: requests (`Attends.publish`, `Attends.browse`, `Attends.resolve`),
looking at the segment (`Attends.look`), taking in an event (`Attends.handle`), polls
(`Attends.poll`) and commands (`Attends.serve_publish`, `Attends.serve_query_none`,
`Attends.serve_query_some`) leave a loop that attends.

An event costs as many polls as it takes until all that comes of it is taken in (`Event.cost`): the
end of a resolution is an event of its own.
-/

namespace ServiceDiscovery

/-- An event that comes up at a member of a segment. -/
def Event.Plain : Event → Prop
  | engine _ => False
  | nameTaken => False
  | publishFailed _ => False
  | browseFailed _ => False
  | _ => True

/-- How many polls it takes until an event and what comes of it are taken in. -/
def Event.cost : Event → Nat
  | appeared _ => 2
  | _ => 1

theorem Event.cost_pos (event : Event) : 0 < event.cost := by
  cases event <;> exact Nat.succ_pos _

/-- How many polls some events take. -/
def Event.costs (events : List Event) : Nat := (events.map cost).sum

@[simp] theorem Event.costs_nil : costs [] = 0 := rfl

@[simp] theorem Event.costs_cons (event : Event) (events : List Event) :
    costs (event :: events) = event.cost + costs events := by
  simp [costs]

@[simp] theorem Event.costs_append (xs ys : List Event) :
    costs (xs ++ ys) = costs xs + costs ys := by
  simp [costs]

/-- A running member on a segment, without a script. -/
theorem Seat.shape {s : Seat} {host : Host} {posted : Array Nat} {watch? : Option Watch}
    (h_attachment : s.member.attachment = .attached host posted watch?)
    (h_running : s.member.state = .running) (h_script : s.member.script = {}) :
    ∃ segment hostName requests queue nextResolution, s =
      { segment
        member := { state := .running, hostName
                    attachment := .attached host posted watch?
                    requests, script := {}, queue, nextResolution } } := by
  obtain ⟨segment, ⟨state, hostName, attachment, requests, script, queue, nextResolution⟩⟩ := s
  obtain rfl : state = .running := h_running
  obtain rfl : script = {} := h_script
  obtain rfl : attachment = .attached host posted watch? := h_attachment
  exact ⟨segment, hostName, requests, queue, nextResolution, rfl⟩

/-- The engine is that of a member of a segment, which has posted and watches as it says, and the
sweep has started just if the member watches. -/
structure Attends (host : Host) (posted : Array Nat) (watch? : Option Watch) (seat : Seat)
    (sweep : Sweep) : Prop where
  attachment : seat.member.attachment = .attached host posted watch?
  running : seat.member.state = .running
  script : seat.member.script = {}
  hostName : seat.member.hostName = host.name
  plain : ∀ event ∈ seat.member.queue, event.Plain
  type : ∀ watch, watch? = some watch → watch.serviceType = serverType
  resting : watch? = none → sweep = .fresh ∧ ∀ event ∈ seat.member.queue, event.Quiet
  started : watch?.isSome = true → sweep.started = true
  surveyed : watch?.isSome = true → sweep.surveyed = true ∨ .allForNow ∈ seat.member.queue

namespace Attends

variable {host : Host} {posted : Array Nat} {watch? : Option Watch} {seat : Seat} {sweep : Sweep}

theorem fresh (host : Host) (segment : Segment) :
    Attends host #[] none { segment, member := .ofHost host } .fresh where
  attachment := rfl
  running := rfl
  script := rfl
  hostName := rfl
  plain := fun _ h => absurd h List.not_mem_nil
  type := fun _ h => absurd h (by simp)
  resting := fun _ => ⟨rfl, fun _ h => absurd h List.not_mem_nil⟩
  started := fun h => absurd h (by simp)
  surveyed := fun h => absurd h (by simp)

theorem not_failed (h : Attends host posted watch? seat sweep) : Engine.failed seat = false := by
  change (seat.member.state == .failure) = false
  rw [h.running]
  rfl

/-- What is not said of the seat: its segment, what was requested, the queue, and the number of the
next resolution. -/
theorem shape (h : Attends host posted watch? seat sweep) :
    ∃ segment requests queue nextResolution, seat =
      { segment
        member := { state := .running, hostName := host.name
                    attachment := .attached host posted watch?
                    requests, script := {}, queue, nextResolution } } := by
  obtain ⟨segment, hostName, requests, queue, nextResolution, rfl⟩ :=
    Seat.shape h.attachment h.running h.script
  obtain rfl : hostName = host.name := h.hostName
  exact ⟨segment, requests, queue, nextResolution, rfl⟩

/-- What the segment is like does not matter. -/
theorem reseat (h : Attends host posted watch? seat sweep) (segment : Segment) :
    Attends host posted watch? { seat with segment } sweep where
  attachment := h.attachment
  running := h.running
  script := h.script
  hostName := h.hostName
  plain := h.plain
  type := h.type
  resting := h.resting
  started := h.started
  surveyed := h.surveyed

/-! ### Requests -/

/-- What a member is told to publish is accepted, and posted. -/
theorem publish (h : Attends host posted watch? seat sweep) (ad : Advertisement) :
    ∃ seat', Engine.publish ad seat = (.ok (), seat') ∧
      seat'.segment = (seat.segment.post host ad).1 ∧
      seat'.member.queue = seat.member.queue ++ [.established] ∧
      seat'.member.nextResolution = seat.member.nextResolution ∧
      Attends host (posted.push seat.segment.nextId) watch? seat' sweep := by
  obtain ⟨segment, requests, queue, nextResolution, rfl⟩ := h.shape
  -- what is true of all events in the queue is true of the one that is added
  have h_queue : ∀ {P : Event → Prop}, (∀ event ∈ queue, P event) → P .established →
      ∀ event ∈ queue ++ [.established], P event := by
    intro P h_all h_last event h_mem
    rcases List.mem_append.mp h_mem with h_mem | h_mem
    · exact h_all event h_mem
    · rw [List.mem_singleton.mp h_mem]
      exact h_last
  refine ⟨_, rfl, rfl, rfl, rfl, rfl, rfl, rfl, rfl, ?_, h.type, ?_, h.started, ?_⟩
  · exact h_queue h.plain trivial
  · exact fun h_none => ⟨(h.resting h_none).1, h_queue (h.resting h_none).2 trivial⟩
  · exact fun h_some => (h.surveyed h_some).imp id (List.mem_append_left _)

/-- A member that does not watch yet accepts to browse, and watches from then on. -/
theorem browse (h : Attends host posted none seat sweep) (scope : IpScope) :
    ∃ seat', Engine.browse serverType scope seat = (.ok (), seat') ∧
      seat'.segment = seat.segment ∧
      seat'.member.queue = seat.member.queue ++ (Watch.start serverType scope seat.segment).2 ++
        [.cacheExhausted, .allForNow] ∧
      Attends host posted (some (Watch.start serverType scope seat.segment).1) seat'
        { sweep with started := true } := by
  obtain ⟨segment, requests, queue, nextResolution, rfl⟩ := h.shape
  refine ⟨_, rfl, rfl, rfl, rfl, rfl, rfl, rfl, ?_, ?_, ?_, fun _ => rfl, fun _ => .inr ?_⟩
  · intro event h_mem
    -- what was queued before, what the watch starts with, and the two events behind it
    rcases List.mem_append.mp h_mem with h_mem | h_mem
    · rcases List.mem_append.mp h_mem with h_mem | h_mem
      · exact h.plain event h_mem
      · obtain ⟨p, -, h_mem⟩ := List.mem_flatMap.mp h_mem
        obtain ⟨k, -, rfl⟩ := List.mem_map.mp h_mem
        trivial
    · rcases List.mem_cons.mp h_mem with rfl | h_mem
      · trivial
      · obtain rfl := List.mem_singleton.mp h_mem
        trivial
  · intro watch h_watch
    rw [← Option.some.inj h_watch]
    rfl
  · exact fun h_none => absurd h_none (by simp)
  · exact List.mem_append_right _ (by simp)

/-! ### Looking at the segment -/

theorem look_of_cons {event : Event} {rest : List Event}
    (h_queue : seat.member.queue = event :: rest) : seat.look.2 = seat := by
  unfold Seat.look
  rw [h_queue]

theorem look_of_none (h : Attends host posted none seat sweep) : seat.look.2 = seat := by
  unfold Seat.look
  rw [h.attachment]
  split
  · next h_eq => exact absurd h_eq (by simp)
  · rfl

/-- A member that has nothing to report looks at its segment. -/
theorem look_of_nil {watch : Watch} (h : Attends host posted (some watch) seat sweep)
    (h_queue : seat.member.queue = []) :
    seat.look.2 = { seat with
      member := { seat.member with
        attachment := .attached host posted (some (watch.readOn seat.segment).1)
        queue := (watch.readOn seat.segment).2 } } := by
  unfold Seat.look
  rw [h_queue, h.attachment]

/-- A member goes on to watch for the same. -/
theorem look (h : Attends host posted watch? seat sweep) :
    seat.look.2.segment = seat.segment ∧
      ∃ watch?', Attends host posted watch?' seat.look.2 sweep ∧
        watch?'.map (·.scope) = watch?.map (·.scope) := by
  cases h_queue : seat.member.queue with
  | cons event queue =>
    rw [look_of_cons h_queue]
    exact ⟨rfl, watch?, h, rfl⟩
  | nil =>
    cases watch? with
    | none =>
      rw [h.look_of_none]
      exact ⟨rfl, none, h, rfl⟩
    | some watch =>
      obtain ⟨h_type, h_scope, h_events⟩ := watch.readOn_frame seat.segment
      rw [h.look_of_nil h_queue]
      generalize watch.readOn seat.segment = read at h_type h_scope h_events ⊢
      refine ⟨rfl, some read.1, ⟨rfl, h.running, h.script, h.hostName, ?_, ?_, ?_, ?_, ?_⟩, ?_⟩
      · -- a watch reports sightings only
        intro event h_mem
        obtain ⟨k, -, rfl | rfl⟩ := h_events event h_mem
        · trivial
        · trivial
      · intro watch' h_watch
        rw [← Option.some.inj h_watch, h_type]
        exact h.type watch rfl
      · exact fun h_none => absurd h_none (by simp)
      · exact fun _ => h.started rfl
      · -- the queue is empty, so nothing more is to come for the survey
        refine fun _ => .inl ((h.surveyed rfl).resolve_right ?_)
        rw [h_queue]
        exact List.not_mem_nil
      · exact congrArg some h_scope

end Attends

/-! ### Taking in an event -/

namespace Sweep

variable {σ : Type} [Engine σ] {s : Sweep} {e e' : σ}

theorem handle_appeared (h_started : s.started = true) {k : Sighting} {id : Nat}
    (h_resolve : Engine.resolve k k.protocol e = (.ok id, e')) :
    s.handle (.appeared k) e = ({ s with outstanding := s.outstanding.insert id k }, e', []) := by
  simp only [handle, observe, h_started, h_resolve, Bool.not_true, Bool.false_eq_true, if_false]

theorem handle_vanished (h_started : s.started = true) (k : Sighting) (e : σ) :
    s.handle (.vanished k) e = ({ s with directory := s.directory.erase k }, e, []) := by
  simp only [handle, observe, h_started, Bool.not_true, Bool.false_eq_true, if_false]

theorem handle_found (id : Nat) (contact : Contact) (s : Sweep) (e : σ) :
    s.handle (.found id contact) e =
      ((s.conclude id (some contact) e).1, (s.conclude id (some contact) e).2, []) :=
  rfl

theorem handle_unresolved (id : Nat) (reason : String) (s : Sweep) (e : σ) :
    s.handle (.unresolved id reason) e = ((s.conclude id none e).1, (s.conclude id none e).2, []) :=
  rfl

/-- An event that is not about a sighting tells at most that all has been reported. -/
theorem handle_quiet (h_started : s.started = true) {event : Event} (h : event.Quiet) (e : σ) :
    ∃ surveyed, s.handle event e = ({ s with surveyed }, e, []) ∧
      (surveyed = true ∨ surveyed = s.surveyed ∧ event ≠ .allForNow) := by
  cases event with
  | established =>
    -- the loop reads `established` for itself, the sweep does not
    have h_same : s.handle .established e = (s, e, []) := by
      simp only [handle, observe, h_started, Bool.not_true, Bool.false_eq_true, if_false]
    exact ⟨s.surveyed, h_same, .inr ⟨rfl, by simp⟩⟩
  | cacheExhausted =>
    refine ⟨true, ?_, .inl rfl⟩
    simp only [handle, observe, h_started, Bool.not_true, Bool.false_eq_true, if_false]
  | allForNow =>
    refine ⟨true, ?_, .inl rfl⟩
    simp only [handle, observe, h_started, Bool.not_true, Bool.false_eq_true, if_false]
  | _ => exact absurd h id

end Sweep

namespace Seat

/-- The seat with this queue. -/
def queued (queue : List Event) (s : Seat) : Seat := { s with member := { s.member with queue } }

/-- The seat like another, with some more events in the queue. -/
structure Grown (s s' : Seat) (events : List Event) : Prop where
  segment : s'.segment = s.segment
  attachment : s'.member.attachment = s.member.attachment
  state : s'.member.state = s.member.state
  script : s'.member.script = s.member.script
  hostName : s'.member.hostName = s.member.hostName
  queue : s'.member.queue = s.member.queue ++ events

theorem Grown.refl (s : Seat) : s.Grown s [] where
  segment := rfl
  attachment := rfl
  state := rfl
  script := rfl
  hostName := rfl
  queue := (List.append_nil _).symm

theorem grown_release (id : Nat) (s : Seat) : s.Grown (Engine.release id s) [] where
  segment := rfl
  attachment := rfl
  state := rfl
  script := rfl
  hostName := rfl
  queue := (List.append_nil _).symm

/-- Ending a resolution does not lead to events. -/
theorem grown_conclude (id : Nat) (contact? : Option Contact) (sweep : Sweep) (s : Seat) :
    s.Grown (sweep.conclude id contact? s).2 [] ∧
      (sweep.conclude id contact? s).2.member.nextResolution = s.member.nextResolution := by
  cases h_out : sweep.outstanding[id]? with
  -- nobody waits for the resolution
  | none =>
    rw [Sweep.conclude_of_none contact? s h_out]
    exact ⟨.refl s, rfl⟩
  | some k =>
    -- the engine is told to let go of it
    rw [Sweep.engine_conclude contact? s h_out]
    exact ⟨s.grown_release id, rfl⟩

end Seat

namespace Attends

variable {host : Host} {posted : Array Nat} {watch? : Option Watch} {seat seat' : Seat}
  {sweep sweep' : Sweep} {event : Event} {rest events : List Event}

/-- What a member is told to resolve ends at once. -/
theorem resolve (h : Attends host posted watch? seat sweep) (k : Sighting) (protocol : IpScope)
    (queue : List Event) :
    ∃ seat', Engine.resolve k protocol (seat.queued queue) =
        (.ok seat.member.nextResolution, seat') ∧
      (seat.queued queue).Grown seat'
        [Seat.resolution seat.segment seat.member.nextResolution k protocol] ∧
      seat'.member.nextResolution = seat.member.nextResolution + 1 := by
  obtain ⟨segment, requests, _, nextResolution, rfl⟩ := h.shape
  exact ⟨_, rfl, ⟨rfl, rfl, rfl, rfl, rfl, rfl⟩, rfl⟩

/-- A loop attends as before when it has taken in the first event, which may have led to others. -/
theorem advance (h : Attends host posted watch? seat sweep)
    (h_queue : seat.member.queue = event :: rest)
    (h_grown : (seat.queued rest).Grown seat' events) (h_plain : ∀ event ∈ events, event.Plain)
    (h_resting : watch? = none → sweep' = .fresh ∧ events = [])
    (h_started : watch?.isSome = true → sweep'.started = true)
    (h_surveyed : watch?.isSome = true →
      sweep'.surveyed = true ∨ sweep'.surveyed = sweep.surveyed ∧ event ≠ .allForNow) :
    Attends host posted watch? seat' sweep' where
  attachment := h_grown.attachment.trans h.attachment
  running := h_grown.state.trans h.running
  script := h_grown.script.trans h.script
  hostName := h_grown.hostName.trans h.hostName
  plain := by
    -- an event of the new queue was behind the first one or has been added
    intro e h_mem
    rw [h_grown.queue] at h_mem
    rcases List.mem_append.mp h_mem with h_mem | h_mem
    · refine h.plain e ?_
      rw [h_queue]
      exact List.mem_cons_of_mem _ h_mem
    · exact h_plain e h_mem
  type := h.type
  resting := by
    intro h_none
    obtain ⟨h_fresh, rfl⟩ := h_resting h_none
    refine ⟨h_fresh, fun e h_mem => (h.resting h_none).2 e ?_⟩
    rw [h_grown.queue, List.append_nil] at h_mem
    rw [h_queue]
    exact List.mem_cons_of_mem _ h_mem
  started := h_started
  surveyed := by
    intro h_some
    -- the end of the survey has been read, or it is still in the queue
    rcases h_surveyed h_some with h_done | ⟨h_same, h_ne⟩
    · exact .inl h_done
    · rw [h_same, h_grown.queue]
      refine (h.surveyed h_some).imp id fun h_mem => ?_
      rw [h_queue] at h_mem
      rcases List.mem_cons.mp h_mem with h_eq | h_mem
      · exact absurd h_eq.symm h_ne
      · exact List.mem_append_left _ h_mem

/-- Before a member watches, it does not matter what comes up. -/
theorem handle_resting (h : Attends host posted none seat sweep)
    (h_queue : seat.member.queue = event :: rest) :
    sweep.handle event (seat.queued rest) = (sweep, seat.queued rest, []) ∧
      Attends host posted none (seat.queued rest) sweep := by
  obtain ⟨rfl, h_quiet⟩ := h.resting rfl
  have h_event := h_quiet event (by rw [h_queue]; exact List.mem_cons_self ..)
  refine ⟨?_, h.advance h_queue (.refl _) (by simp) (fun _ => ⟨rfl, rfl⟩)
    (fun h_some => absurd h_some (by simp)) (fun h_some => absurd h_some (by simp))⟩
  -- a sweep that nobody has started drops what it reads
  cases event with
  | established => rfl
  | cacheExhausted => rfl
  | allForNow => rfl
  | _ => exact absurd h_event id

/-- A member that watches has no more to do than before. -/
theorem handle_watching {watch : Watch} (h : Attends host posted (some watch) seat sweep)
    (h_queue : seat.member.queue = event :: rest) :
    ∃ events, (seat.queued rest).Grown (sweep.handle event (seat.queued rest)).2.1 events ∧
      Event.costs events < event.cost ∧
      Attends host posted (some watch) (sweep.handle event (seat.queued rest)).2.1
        (sweep.handle event (seat.queued rest)).1 := by
  have h_plain : event.Plain := h.plain event (by rw [h_queue]; exact List.mem_cons_self ..)
  have h_started := h.started rfl
  -- what the event does to the seat and to the sweep is all that has to be known of it
  have h_advance : ∀ {seat' sweep' events}, (seat.queued rest).Grown seat' events →
      Event.costs events < event.cost → (∀ event ∈ events, event.Plain) → sweep'.started = true →
      (sweep'.surveyed = true ∨ sweep'.surveyed = sweep.surveyed ∧ event ≠ .allForNow) →
      ∃ events, (seat.queued rest).Grown seat' events ∧ Event.costs events < event.cost ∧
        Attends host posted (some watch) seat' sweep' := by
    intro seat' sweep' events h_grown h_cost h_events h_start h_survey
    exact ⟨events, h_grown, h_cost, h.advance h_queue h_grown h_events
      (fun h_none => absurd h_none (by simp)) (fun _ => h_start) (fun _ => h_survey)⟩
  -- the three events that are neither about a service nor about a resolution
  have h_quiet : event.Quiet → ∃ events,
      (seat.queued rest).Grown (sweep.handle event (seat.queued rest)).2.1 events ∧
        Event.costs events < event.cost ∧
        Attends host posted (some watch) (sweep.handle event (seat.queued rest)).2.1
          (sweep.handle event (seat.queued rest)).1 := by
    intro h_quiet
    obtain ⟨surveyed, h_handle, h_surveyed⟩ :=
      Sweep.handle_quiet h_started h_quiet (seat.queued rest)
    rw [h_handle]
    exact h_advance (.refl _) event.cost_pos (by simp) h_started h_surveyed
  cases event with
  | appeared k =>
    -- the end of the resolution is the one event that is added
    obtain ⟨seat', h_resolve, h_grown, -⟩ := h.resolve k k.protocol rest
    rw [Sweep.handle_appeared h_started h_resolve]
    refine h_advance h_grown ?_ ?_ h_started (.inr ⟨rfl, by simp⟩)
    · unfold Seat.resolution
      split <;> exact Nat.lt_succ_self 1
    · intro event h_mem
      obtain rfl := List.mem_singleton.mp h_mem
      unfold Seat.resolution
      split <;> trivial
  | vanished k =>
    -- a service that is gone leads to nothing new
    rw [Sweep.handle_vanished h_started]
    exact h_advance (.refl _) (Event.cost_pos _) (by simp) h_started (.inr ⟨rfl, by simp⟩)
  | found id contact =>
    rw [Sweep.handle_found]
    refine h_advance (Seat.grown_conclude id (some contact) sweep _).1 (Event.cost_pos _)
      (by simp) ?_ (.inr ⟨Sweep.surveyed_conclude .., by simp⟩)
    exact (Sweep.started_conclude ..).trans h_started
  | unresolved id reason =>
    rw [Sweep.handle_unresolved]
    refine h_advance (Seat.grown_conclude id none sweep _).1 (Event.cost_pos _) (by simp)
      ?_ (.inr ⟨Sweep.surveyed_conclude .., by simp⟩)
    exact (Sweep.started_conclude ..).trans h_started
  | established => exact h_quiet trivial
  | cacheExhausted => exact h_quiet trivial
  | allForNow => exact h_quiet trivial
  | _ => exact absurd h_plain id

/-- **Taking in an event** that comes up at a member of a segment. -/
theorem handle (h : Attends host posted watch? seat sweep)
    (h_queue : seat.member.queue = event :: rest) :
    ∃ events, (seat.queued rest).Grown (sweep.handle event (seat.queued rest)).2.1 events ∧
      Event.costs events < event.cost ∧
      Attends host posted watch? (sweep.handle event (seat.queued rest)).2.1
        (sweep.handle event (seat.queued rest)).1 := by
  cases watch? with
  | none =>
    -- before the first question the sweep stays as it is
    obtain ⟨h_handle, h_attends⟩ := h.handle_resting h_queue
    rw [h_handle]
    exact ⟨[], .refl _, event.cost_pos, h_attends⟩
  | some watch => exact h.handle_watching h_queue

end Attends

/-! ### Loops -/

namespace Seat

theorem report_of_nil {s : Seat} (h : s.member.queue = []) : s.report = (none, s) := by
  unfold report
  rw [h]

theorem report_of_cons {s : Seat} {event : Event} {rest : List Event}
    (h : s.member.queue = event :: rest) (h_plain : event.Plain) :
    s.report = (some event, s.queued rest) := by
  unfold report
  rw [h]
  cases event with
  | engine state => exact absurd h_plain id
  | _ => rfl

theorem next_eq (s : Seat) :
    Engine.next s =
      { event := s.look.2.report.1, notices := s.look.1, engine := s.look.2.report.2 } :=
  rfl

end Seat

namespace EventLoop

variable {l : EventLoop Seat} {event : Event} {rest : List Event}

/-- An event that comes up at a member is about browsing or about a resolution, or about nothing. -/
theorem handle_plain (h : event.Plain) (l : EventLoop Seat) :
    (l.handle event).1 =
      { l with
        sweep := (l.sweep.handle event l.engine).1
        engine := (l.sweep.handle event l.engine).2.1 } := by
  cases event with
  | established =>
    -- `established` is for the loop, and the sweep leaves it alone
    have h_same : (l.sweep.handle .established l.engine) = (l.sweep, l.engine, []) := by
      change l.sweep.observe .established l.engine = _
      unfold Sweep.observe
      split <;> rfl
    rw [h_same]
    rfl
  | engine state => exact absurd h id
  | nameTaken => exact absurd h id
  | publishFailed reason => exact absurd h id
  | _ => rfl

/-- Where nothing is to be reported, polling only looks at the segment. -/
theorem poll_of_nil (h_queue : l.engine.look.2.member.queue = []) :
    l.poll.1 = false ∧ l.poll.2.1 = { l with engine := l.engine.look.2 } := by
  unfold poll
  rw [Seat.next_eq, Seat.report_of_nil h_queue]
  exact ⟨rfl, rfl⟩

/-- Otherwise the first event is taken in. -/
theorem poll_of_cons (h_queue : l.engine.look.2.member.queue = event :: rest)
    (h_plain : event.Plain) :
    l.poll.1 = true ∧
      l.poll.2.1.sweep = (l.sweep.handle event (l.engine.look.2.queued rest)).1 ∧
      l.poll.2.1.engine = (l.sweep.handle event (l.engine.look.2.queued rest)).2.1 := by
  have h_poll : l.poll =
      (true, ({ l with engine := l.engine.look.2.queued rest }.receive event).1,
        { notices := l.engine.look.1 } ++
          ({ l with engine := l.engine.look.2.queued rest }.receive event).2) := by
    unfold poll
    rw [Seat.next_eq, Seat.report_of_cons h_queue h_plain]
  rw [h_poll, receive_fst, sweep_answerParked, engine_answerParked, handle_plain h_plain]
  exact ⟨rfl, rfl, rfl⟩

end EventLoop

namespace Attends

variable {host : Host} {posted : Array Nat} {watch? : Option Watch} {l : EventLoop Seat}

/-- A loop goes on to attend when it is polled, and the segment stays as it is. -/
theorem poll (h : Attends host posted watch? l.engine l.sweep) :
    l.poll.2.1.engine.segment = l.engine.segment ∧
      ∃ watch?', Attends host posted watch?' l.poll.2.1.engine l.poll.2.1.sweep ∧
        watch?'.map (·.scope) = watch?.map (·.scope) := by
  obtain ⟨h_segment, watch?', h_look, h_scope⟩ := h.look
  -- with nothing in the queue the loop waits, else it handles the first event
  cases h_queue : l.engine.look.2.member.queue with
  | nil =>
    rw [(EventLoop.poll_of_nil h_queue).2]
    exact ⟨h_segment, watch?', h_look, h_scope⟩
  | cons event rest =>
    have h_plain : event.Plain := h_look.plain event (by rw [h_queue]; exact List.mem_cons_self ..)
    obtain ⟨-, h_sweep, h_engine⟩ := EventLoop.poll_of_cons h_queue h_plain
    obtain ⟨events, h_grown, -, h_attends⟩ := h_look.handle h_queue
    rw [h_sweep, h_engine]
    exact ⟨h_grown.segment.trans h_segment, watch?', h_attends, h_scope⟩

/-- What a loop is told to publish is posted, and nothing is wrong with it. -/
theorem serve_publish (h : Attends host posted watch? l.engine l.sweep) (ticket : Nat)
    (ad : Advertisement) :
    ∃ l' effects, l.serve ticket (.publish ad) = (l', effects) ∧
      l'.engine.segment = (l.engine.segment.post host ad).1 ∧
      l'.engine.member.queue = l.engine.member.queue ++ [.established] ∧
      l'.engine.member.nextResolution = l.engine.member.nextResolution ∧
      l'.sweep = l.sweep ∧
      Attends host (posted.push l.engine.segment.nextId) watch? l'.engine l'.sweep ∧
      effects.notices ++ Agent.publishNotices effects.replies = [] := by
  obtain ⟨seat', h_publish, h_segment, h_queue, h_next, h_attends⟩ := h.publish ad
  -- the command changes the engine only, and is answered at once
  have h_obey : l.obey ticket (.publish ad) =
      ({ l with engine := seat' }, { replies := [(ticket, .publish (.ok ()))] }) := by
    simp only [EventLoop.obey, h_publish]
  have h_serve : l.serve ticket (.publish ad) =
      (({ l with engine := seat' } : EventLoop Seat).answerParked.1,
        { replies := [(ticket, .publish (.ok ()))] } ++
          ({ l with engine := seat' } : EventLoop Seat).answerParked.2) := by
    unfold EventLoop.serve
    rw [h_obey]
  refine ⟨_, _, h_serve, ?_⟩
  refine ⟨?_, ?_, ?_, ?_, ?_, ?_⟩
  · rw [EventLoop.engine_answerParked]
    exact h_segment
  · rw [EventLoop.engine_answerParked]
    exact h_queue
  · rw [EventLoop.engine_answerParked]
    exact h_next
  · rw [EventLoop.sweep_answerParked]
  · rw [EventLoop.engine_answerParked, EventLoop.sweep_answerParked]
    exact h_attends
  · -- the answers to queries that were parked are no notices
    unfold EventLoop.answerParked
    split
    · refine List.append_eq_nil_iff.mpr ⟨rfl, List.flatMap_eq_nil_iff.mpr ?_⟩
      intro reply h_mem
      rcases List.mem_cons.mp h_mem with rfl | h_mem
      · rfl
      · obtain ⟨t, -, rfl⟩ := List.mem_map.mp h_mem
        rfl
    · rfl

/-- The first query makes a loop watch its segment. -/
theorem serve_query_none (h : Attends host posted none l.engine l.sweep) (ticket : Nat)
    (scope : IpScope) :
    ∃ l' effects, l.serve ticket (.query scope) = (l', effects) ∧
      l'.engine.segment = l.engine.segment ∧
      l'.engine.member.queue = l.engine.member.queue ++
        (Watch.start serverType scope l.engine.segment).2 ++ [.cacheExhausted, .allForNow] ∧
      l'.sweep = { l.sweep with started := true } ∧
      Attends host posted (some (Watch.start serverType scope l.engine.segment).1) l'.engine
        l'.sweep := by
  obtain ⟨h_fresh, -⟩ := h.resting rfl
  have h_idle : l.sweep.progress = .idle := by
    rw [h_fresh]
    rfl
  obtain ⟨seat', h_browse, h_segment, h_queue, h_attends⟩ := h.browse scope
  -- the first question starts the sweep, and its own answer has to wait
  have h_obey : l.obey ticket (.query scope) =
      ({ engine := seat', sweep := { l.sweep with started := true }
         parked := l.parked ++ [ticket] }, {}) := by
    simp only [EventLoop.obey, EventLoop.query, Sweep.start, h_idle, h.not_failed, h_browse,
      Bool.false_eq_true, if_false]
  refine ⟨(l.serve ticket (.query scope)).1, (l.serve ticket (.query scope)).2, rfl, ?_⟩
  rw [EventLoop.serve_fst, EventLoop.engine_answerParked, EventLoop.sweep_answerParked, h_obey]
  exact ⟨h_segment, h_queue, rfl, h_attends⟩

/-- Later queries leave what a loop watches for, and what it has found, as it is. -/
theorem serve_query_some {watch : Watch} (h : Attends host posted (some watch) l.engine l.sweep)
    (ticket : Nat) (scope : IpScope) :
    (l.serve ticket (.query scope)).1.engine = l.engine ∧
      (l.serve ticket (.query scope)).1.sweep = l.sweep := by
  rw [EventLoop.serve_fst, EventLoop.engine_answerParked, EventLoop.sweep_answerParked]
  change (l.query ticket scope).1.engine = l.engine ∧ (l.query ticket scope).1.sweep = l.sweep
  -- the first three cases are those of a sweep that has not started
  rcases EventLoop.query_cases ticket scope l with
    ⟨h_idle, -⟩ | ⟨h_idle, -⟩ | ⟨h_idle, -⟩ | ⟨-, h_query⟩ | ⟨-, h_query⟩
  · rw [Sweep.progress_eq_idle_iff, h.started rfl] at h_idle
    exact absurd h_idle (by simp)
  · rw [Sweep.progress_eq_idle_iff, h.started rfl] at h_idle
    exact absurd h_idle (by simp)
  · rw [Sweep.progress_eq_idle_iff, h.started rfl] at h_idle
    exact absurd h_idle (by simp)
  · rw [h_query]
    exact ⟨rfl, rfl⟩
  · rw [h_query]
    exact ⟨rfl, rfl⟩

end Attends

end ServiceDiscovery
