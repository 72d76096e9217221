import ServiceDiscovery.Proofs.Segment.Attendance

/-!
# Loops that keep track of a segment

The loop of a member that watches its segment keeps track of it (`Tracks`): its watch has read a
part of the history, and the sweep is abreast of what is posted after that part.  Commands, polls
and whatever others do on the segment preserve this, provided that at no time two postings had the
same key (`Segment.Unambiguous`), and that the watch is near enough to the end of the history when
it reads.

A loop that is polled and has to wait has read everything, so what it lists is exactly what is
posted (`Tracks.listed_of_waits`).
-/

namespace ServiceDiscovery

open Happening (replay)

/-! ### Keys that were distinct at all times -/

namespace Segment

/-- At no time two postings had the same key. -/
def Unambiguous (s : Segment) : Prop :=
  ∀ past, past <+: s.history.toList → Distinct (replay past)

theorem unambiguous_quiet : quiet.Unambiguous := by
  intro past h_prefix i j p q k hi
  obtain rfl := List.prefix_nil.mp h_prefix
  exact absurd hi (by simp)

variable {s : Segment}

theorem Unambiguous.distinct (h : s.Unambiguous) (h_sound : s.Sound) : Distinct s.postings := by
  rw [← h_sound.postings]
  exact h _ List.prefix_rfl

theorem Unambiguous.concat {s' : Segment} {x : Happening} (h : s.Unambiguous) (h_sound : s'.Sound)
    (h_history : s'.history.toList = s.history.toList ++ [x]) (h_distinct : Distinct s'.postings) :
    s'.Unambiguous := by
  intro past h_prefix
  rw [h_history] at h_prefix
  -- the new entry is the last of the part, or the part is one of the old history
  rcases List.prefix_concat_iff.mp h_prefix with rfl | h_prefix
  · rw [← h_history, h_sound.postings]
    exact h_distinct
  · exact h past h_prefix

theorem Unambiguous.post (h : s.Unambiguous) (h_sound : s.Sound) {host : Host} {ad : Advertisement}
    (h_distinct : Distinct (s.post host ad).1.postings) : (s.post host ad).1.Unambiguous :=
  h.concat (h_sound.post host ad) (history_post host ad s) h_distinct

theorem Unambiguous.withdraw (h : s.Unambiguous) (h_sound : s.Sound) (id : Nat) :
    (s.withdraw id).Unambiguous := by
  cases hp : s.postings[id]? with
  -- nothing is posted under the id, so nothing is withdrawn
  | none =>
    rw [withdraw_of_none hp]
    exact h
  | some p =>
    -- what is left offers fewer keys than before
    refine h.concat (h_sound.withdraw id) (x := .withdrawn p) ?_ ?_
    · rw [history_withdraw hp, Array.toList_push]
    · rw [history_withdraw hp]
      exact (h.distinct h_sound).erase id

end Segment

/-! ### Keeping track -/

/-- The loop knows what was posted after the part of the history that its watch has read. -/
structure Tracks (past : List Happening) (watch : Watch) (seat : Seat) (sweep : Sweep) : Prop where
  knows : watch.Knows past
  read : past <+: seat.segment.history.toList
  abreast : sweep.Abreast (replay past) seat.segment.postings watch.scope seat.member.queue
  numbers : ∀ (id : Nat) (k : Sighting), sweep.outstanding[id]? = some k →
    id < seat.member.nextResolution

/-- A loop that watches its segment keeps track of it. -/
def Tracked (seat : Seat) (sweep : Sweep) : Prop :=
  ∀ host posted watch, Attends host posted (some watch) seat sweep →
    ∃ past, Tracks past watch seat sweep

theorem Attends.tracked_of_none {host : Host} {posted : Array Nat} {seat : Seat} {sweep : Sweep}
    (h : Attends host posted none seat sweep) : Tracked seat sweep := by
  intro host' posted' watch h_attends
  have h_attachment := h.attachment
  rw [h_attends.attachment] at h_attachment
  exact absurd (Attachment.attached.inj h_attachment).2.2 (by simp)

namespace Tracks

variable {past : List Happening} {watch : Watch} {seat seat' : Seat} {sweep : Sweep}
  {event : Event} {rest : List Event} {host : Host} {posted : Array Nat}

theorem tracked (h : Tracks past watch seat sweep)
    (h_attends : Attends host posted (some watch) seat sweep) : Tracked seat sweep := by
  intro host' posted' watch' h_attends'
  have h_attachment := h_attends.attachment
  rw [h_attends'.attachment] at h_attachment
  obtain rfl := Option.some.inj (Attachment.attached.inj h_attachment).2.2
  exact ⟨past, h⟩

/-- What happens on the segment meanwhile does not matter. -/
theorem reseat (h : Tracks past watch seat sweep) {segment : Segment}
    (h_later : seat.segment.Later segment) : Tracks past watch { seat with segment } sweep where
  knows := h.knows
  read := h.read.trans h_later.history
  abreast := h.abreast.later fun p h_known =>
    h_later.old p (h.read.subset (Happening.posted_of_replay h_known).2)
  numbers := h.numbers

/-- What the loop posts itself happens on the segment as well. -/
theorem publish (h : Tracks past watch seat sweep) (h_sound : seat.segment.Sound)
    {ad : Advertisement} (h_segment : seat'.segment = (seat.segment.post host ad).1)
    (h_queue : seat'.member.queue = seat.member.queue ++ [.established])
    (h_next : seat'.member.nextResolution = seat.member.nextResolution) :
    Tracks past watch seat' sweep := by
  have h_seat := h.reseat (h_sound.later_post host ad)
  rw [← h_segment] at h_seat
  refine ⟨h.knows, h_seat.read, ?_, ?_⟩
  · -- `established` behind the queue says nothing of any service
    rw [h_queue]
    refine h_seat.abreast.pad (fun e h_mem => absurd h_mem List.not_mem_nil) ?_
    intro e h_mem
    rw [List.mem_singleton.mp h_mem]
    trivial
  · rw [h_next]
    exact h.numbers

/-- A loop that starts to watch is told of all that is posted. -/
theorem start (h : Attends host posted none seat sweep) (h_sound : seat.segment.Sound)
    (h_distinct : Distinct seat.segment.postings) (scope : IpScope)
    (h_segment : seat'.segment = seat.segment)
    (h_queue : seat'.member.queue = seat.member.queue ++
      (Watch.start serverType scope seat.segment).2 ++ [.cacheExhausted, .allForNow]) :
    Tracks seat.segment.history.toList (Watch.start serverType scope seat.segment).1 seat'
      { sweep with started := true } := by
  obtain ⟨rfl, h_quiet⟩ := h.resting rfl
  -- everything that is posted is known from the start
  have h_read : seat.segment.history.toList <+: seat'.segment.history.toList :=
    ⟨[], by rw [List.append_nil, h_segment]⟩
  refine ⟨Watch.knows_start h_sound serverType scope, h_read, ?_, ?_⟩
  · rw [h_segment, h_sound.postings, h_queue]
    refine Sweep.Abreast.pad (.start h_sound h_distinct rfl rfl) h_quiet ?_
    intro e h_mem
    rcases List.mem_cons.mp h_mem with rfl | h_mem
    · trivial
    · rw [List.mem_singleton.mp h_mem]
      trivial
  · -- the sweep that starts has asked for nothing yet
    intro id k h_out
    exact absurd h_out (by simp [Sweep.fresh])

/-! ### Polling -/

/-- **Looking.** A loop that looks at its segment reads on, and has read everything if nothing comes
up. -/
theorem look (h : Tracks past watch seat sweep)
    (h_attends : Attends host posted (some watch) seat sweep)
    (h_sound : seat.segment.Sound) (h_times : seat.segment.Unambiguous)
    (h_near : watch.unread seat.segment ≤ Watch.window) :
    ∃ past' watch', Attends host posted (some watch') seat.look.2 sweep ∧
      watch'.scope = watch.scope ∧ past <+: past' ∧ Tracks past' watch' seat.look.2 sweep ∧
      (seat.look.2.member.queue = [] → past' = seat.segment.history.toList) := by
  obtain ⟨h_segment, watch?', h_look, h_same⟩ := h_attends.look
  cases h_queue : seat.member.queue with
  | cons event rest =>
    -- there is something to handle before more is read
    rw [Attends.look_of_cons h_queue]
    refine ⟨past, watch, h_attends, rfl, List.prefix_rfl, h, fun h_nil => ?_⟩
    rw [h_queue] at h_nil
    exact absurd h_nil (by simp)
  | nil =>
    have h_abreast := h.abreast
    rw [h_queue] at h_abreast
    -- each entry that is read is accounted for by the events that it leads to
    have h_step : ∀ before x, before ++ [x] <+: seat.segment.history.toList →
        sweep.Abreast (replay before) seat.segment.postings watch.scope [] →
        sweep.Abreast (replay (before ++ [x])) seat.segment.postings watch.scope
          (x.events watch.serviceType watch.scope) := by
      intro before x h_prefix h_before
      rw [h_attends.type watch rfl]
      exact h_before.read (h_sound.inOrder before x h_prefix)
        (h_times before ((List.prefix_append _ _).trans h_prefix)) (h_times _ h_prefix)
    obtain ⟨past', watch', events, h_read, h_on, h_past', h_knows', h_abreast', h_end⟩ :=
      h.knows.readOn (P := fun past queue =>
        sweep.Abreast (replay past) seat.segment.postings watch.scope queue) h_sound h.read h_near
        h_step h_abreast
    have h_eq := h_attends.look_of_nil h_queue
    rw [h_read] at h_eq
    -- the watch that is known to attend is the one that the seat has after the look
    obtain rfl : watch?' = some watch' := by
      have h_attachment := h_look.attachment
      rw [h_eq] at h_attachment
      exact (Attachment.attached.inj h_attachment).2.2.symm
    have h_scope : watch'.scope = watch.scope := Option.some.inj h_same
    refine ⟨past', watch', h_look, h_scope, h_on, ?_, ?_⟩
    · rw [← h_scope] at h_abreast'
      rw [h_eq]
      exact ⟨h_knows', h_past', h_abreast', h.numbers⟩
    · rw [h_eq]
      exact h_end

/-- The loop has taken in an event that was about a resolution. -/
theorem conclude (h : Tracks past watch seat sweep) (id : Nat) (contact? : Option Contact)
    (h_abreast : ∀ e : Seat, (sweep.conclude id contact? e).1.Abreast (replay past)
      seat.segment.postings watch.scope rest) :
    Tracks past watch (sweep.conclude id contact? (seat.queued rest)).2
      (sweep.conclude id contact? (seat.queued rest)).1 := by
  obtain ⟨h_grown, h_next⟩ := Seat.grown_conclude id contact? sweep (seat.queued rest)
  refine ⟨h.knows, ?_, ?_, ?_⟩
  · rw [h_grown.segment]
    exact h.read
  · rw [h_grown.segment, h_grown.queue, List.append_nil]
    exact h_abreast _
  · -- what is still waited for was waited for before, so its number was given out
    intro id' k h_out
    rw [Sweep.getElem?_outstanding_conclude] at h_out
    rw [h_next]
    split at h_out
    · exact absurd h_out (by simp)
    · exact h.numbers id' k h_out

/-- **Taking in an event.** Whatever comes up, a loop that has taken it in keeps track. -/
theorem handle (h : Tracks past watch seat sweep)
    (h_attends : Attends host posted (some watch) seat sweep) (h_sound : seat.segment.Sound)
    (h_times : seat.segment.Unambiguous) (h_queue : seat.member.queue = event :: rest) :
    Tracks past watch (sweep.handle event (seat.queued rest)).2.1
      (sweep.handle event (seat.queued rest)).1 := by
  have h_started := h_attends.started rfl
  have h_plain := h_attends.plain event (by rw [h_queue]; exact List.mem_cons_self ..)
  have h_known := h_times past h.read
  have h_abreast := h.abreast
  rw [h_queue] at h_abreast
  have h_quiet : event.Quiet → Tracks past watch (sweep.handle event (seat.queued rest)).2.1
      (sweep.handle event (seat.queued rest)).1 := by
    intro h_quiet
    obtain ⟨surveyed, h_handle, -⟩ := Sweep.handle_quiet h_started h_quiet (seat.queued rest)
    rw [h_handle]
    exact ⟨h.knows, h.read, h_abreast.skip h_quiet rfl rfl, h.numbers⟩
  -- one case for each event: it is in the queue no longer, and the sweep has taken it in
  cases event with
  | appeared k =>
    obtain ⟨seat', h_resolve, h_grown, h_next⟩ := h_attends.resolve k k.protocol rest
    rw [Sweep.handle_appeared h_started h_resolve]
    -- the resolution ends at once, and its end comes up behind what is in the queue
    refine ⟨h.knows, ?_, ?_, ?_⟩
    · rw [h_grown.segment]
      exact h.read
    · rw [h_grown.segment, h_grown.queue]
      exact h_abreast.resolve h_sound (h_times.distinct h_sound) h.numbers
    · intro id k' h_out
      rw [Std.ExtTreeMap.getElem?_insert] at h_out
      change id < seat'.member.nextResolution
      rw [h_next]
      split at h_out
      · next h_eq =>
        rw [← Std.LawfulEqOrd.eq_of_compare h_eq]
        omega
      · have h_lt := h.numbers id k' h_out
        omega
  | vanished k =>
    rw [Sweep.handle_vanished h_started]
    exact ⟨h.knows, h.read, h_abreast.vanish, h.numbers⟩
  | found id contact =>
    rw [Sweep.handle_found]
    exact h.conclude id (some contact) fun e => h_abreast.found h_known e
  | unresolved id reason =>
    rw [Sweep.handle_unresolved]
    exact h.conclude id none fun e => h_abreast.unresolved h_known e
  | established => exact h_quiet trivial
  | cacheExhausted => exact h_quiet trivial
  | allForNow => exact h_quiet trivial
  | _ => exact absurd h_plain id

variable {l : EventLoop Seat}

/-- **Polling.** A loop that is polled goes on to keep track, and has read everything if it has to
wait. -/
theorem poll (h : Tracks past watch l.engine l.sweep)
    (h_attends : Attends host posted (some watch) l.engine l.sweep)
    (h_sound : l.engine.segment.Sound) (h_times : l.engine.segment.Unambiguous)
    (h_near : watch.unread l.engine.segment ≤ Watch.window) :
    ∃ past' watch', Attends host posted (some watch') l.poll.2.1.engine l.poll.2.1.sweep ∧
      watch'.scope = watch.scope ∧ past <+: past' ∧
      Tracks past' watch' l.poll.2.1.engine l.poll.2.1.sweep ∧
      (l.poll.1 = false → l.poll.2.1.sweep = l.sweep ∧ l.poll.2.1.engine.member.queue = [] ∧
        past' = l.engine.segment.history.toList) := by
  obtain ⟨past', watch', h_look, h_scope, h_on, h_tracks, h_end⟩ :=
    h.look h_attends h_sound h_times h_near
  have h_segment := h_attends.look.1
  cases h_queue : l.engine.look.2.member.queue with
  | nil =>
    -- nothing was read, so the loop waits
    obtain ⟨-, h_poll⟩ := EventLoop.poll_of_nil h_queue
    rw [h_poll]
    exact ⟨past', watch', h_look, h_scope, h_on, h_tracks,
      fun _ => ⟨rfl, h_queue, h_end h_queue⟩⟩
  | cons event rest =>
    -- the first event of the queue is handled
    have h_plain := h_look.plain event (by rw [h_queue]; exact List.mem_cons_self ..)
    obtain ⟨h_some, h_sweep, h_engine⟩ := EventLoop.poll_of_cons h_queue h_plain
    obtain ⟨-, -, -, h_attends'⟩ := h_look.handle h_queue
    rw [h_sweep, h_engine]
    rw [← h_segment] at h_sound h_times
    refine ⟨past', watch', h_attends', h_scope, h_on,
      h_tracks.handle h_look h_sound h_times h_queue, ?_⟩
    intro h_none
    rw [h_some] at h_none
    exact absurd h_none (by simp)

/-- **What is listed.** A loop that has to wait lists exactly what is posted, and all that it was
going to resolve is resolved. -/
theorem listed_of_waits (h : Tracks past watch l.engine l.sweep)
    (h_attends : Attends host posted (some watch) l.engine l.sweep)
    (h_sound : l.engine.segment.Sound) (h_times : l.engine.segment.Unambiguous)
    (h_near : watch.unread l.engine.segment ≤ Watch.window) (h_waits : l.poll.1 = false) :
    l.sweep.progress = .complete ∧ ∀ k v, l.sweep.directory.get? k = some v ↔
      ∃ p, SeenAs l.engine.segment.postings watch.scope k p ∧
        Sweep.listing? k (p.contact k.protocol) = some v := by
  obtain ⟨past', watch', h_attends', h_scope, -, h_tracks, h_end⟩ :=
    h.poll h_attends h_sound h_times h_near
  obtain ⟨h_sweep, h_queue, rfl⟩ := h_end h_waits
  -- all has been read, so what is known is what is posted
  have h_segment := h_attends.poll.1
  have h_abreast := h_tracks.abreast
  rw [h_sweep, h_queue, h_segment, h_sound.postings, h_scope] at h_abreast
  refine ⟨?_, fun k v => h_abreast.caught_up⟩
  rw [Sweep.progress_eq_complete_iff]
  refine ⟨h_attends.started rfl, ?_, ?_⟩
  · -- the end of the survey has been read, since the queue is empty
    have h_surveyed := h_attends'.surveyed rfl
    rw [h_sweep, h_queue] at h_surveyed
    exact h_surveyed.resolve_right List.not_mem_nil
  · -- and nothing is waited for, since its end would still be in the queue
    refine Std.ExtTreeMap.ext_getElem? fun id => ?_
    rw [h_abreast.outstanding_eq_none, Std.ExtTreeMap.getElem?_empty]

end Tracks

end ServiceDiscovery
