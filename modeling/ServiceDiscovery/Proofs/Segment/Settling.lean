import ServiceDiscovery.Proofs.Segment.Tracking

/-!
# Loops come to wait

A loop that is polled again and again, while its segment stays as it is, comes to wait.  What is
still to be done is the cost of its queue, and of what its watch has not read (`Seat.burden`): an
entry of the history leads to at most two events, and each of these to at most one more.  Every poll
that takes in an event does some of it, and nothing adds to it.

The burden is at most twice the backlog of the seat, so a loop that settles has come to wait, and
keeps track of its segment as before (`Pursues.settle`).
-/

namespace ServiceDiscovery

/-! ### Runs that end -/

/-- **Runs that end.** If every poll that takes in an event makes something smaller, a run that is
long enough ends with a poll for which there is no event. -/
theorem EventLoop.run_waits {σ : Type} [Engine σ] {P : EventLoop σ → Prop}
    (size : EventLoop σ → Nat)
    (h_poll : ∀ l, P l → P l.poll.2.1)
    (h_less : ∀ l, P l → l.poll.1 = true → size l.poll.2.1 < size l) {l : EventLoop σ} (h : P l)
    {limit : Nat} (h_limit : size l < limit) :
    ∃ l', P l' ∧ l'.poll.1 = false ∧ (l.run limit).1 = l'.poll.2.1 := by
  -- every round takes one off the limit and at least one off the size
  induction limit generalizing l with
  | zero => exact absurd h_limit (Nat.not_lt_zero _)
  | succ limit ih =>
    unfold EventLoop.run
    rcases h_eq : l.poll with ⟨more, l', effects⟩
    cases more with
    | false =>
      -- nothing is left to be done: the run ends here
      refine ⟨l, h, ?_, ?_⟩
      · rw [h_eq]
      · rw [h_eq]
    | true =>
      -- something was done, so the size went down and the run goes on
      have h_next := h_poll l h
      have h_size := h_less l h (by rw [h_eq])
      rw [h_eq] at h_next h_size
      exact ih h_next (by dsimp only at h_size; omega)

/-! ### What is left to do -/

theorem Event.costs_le (events : List Event) : costs events ≤ 2 * events.length := by
  induction events with
  | nil => exact Nat.le_refl 0
  | cons event events ih =>
    have h_event : event.cost ≤ 2 := by
      cases event <;> simp [cost]
    rw [costs_cons, List.length_cons]
    omega

theorem Posting.length_sightings_le (p : Posting) (type : String) (scope : IpScope) :
    (p.sightings type scope).length ≤ 2 := by
  unfold sightings
  split
  · rw [List.length_map]
    exact List.length_filter_le _ _
  · exact Nat.zero_le _

namespace Watch

theorem notice_le (h : Happening) (w : Watch) :
    Event.costs (w.notice h).2 ≤ 4 ∧ (w.notice h).1.place = w.place := by
  -- a posting is seen in two families at most, and a sighting costs two at most
  have h_map : ∀ (f : Sighting → Event) (p : Posting),
      Event.costs ((p.sightings w.serviceType w.scope).map f) ≤ 4 := by
    intro f p
    have h_costs := Event.costs_le ((p.sightings w.serviceType w.scope).map f)
    have h_length := p.length_sightings_le w.serviceType w.scope
    rw [List.length_map] at h_costs
    omega
  unfold notice
  split
  · split
    · exact ⟨Nat.zero_le _, rfl⟩
    · exact ⟨h_map _ _, rfl⟩
  · split
    · exact ⟨h_map _ _, rfl⟩
    · exact ⟨Nat.zero_le _, rfl⟩

/-- Every entry that is read makes up for what comes of it. -/
theorem scan_le (ahead : List Happening) (w : Watch) :
    Event.costs (w.scan ahead).2 + 4 * w.place ≤ 4 * (w.scan ahead).1.place ∧
      (w.scan ahead).1.place ≤ w.place + ahead.length := by
  induction ahead generalizing w with
  | nil => exact ⟨Nat.le_of_eq (Nat.zero_add _), Nat.le_refl _⟩
  | cons h ahead ih =>
    have h_notice := notice_le h { w with place := w.place + 1 }
    unfold scan
    split
    · next w' h_eq =>
      -- the entry is read in vain
      rw [h_eq] at h_notice
      have h_rest := ih w'
      simp only [List.length_cons] at h_notice ⊢
      omega
    · next w' events _ h_eq =>
      rw [h_eq] at h_notice
      simp only [List.length_cons] at h_notice ⊢
      omega

theorem readOn_le (s : Segment) (w : Watch) :
    Event.costs (w.readOn s).2 + 4 * (w.readOn s).1.unread s ≤ 4 * w.unread s := by
  have h_scan := scan_le (s.history.extract (w.place + w.missed s)).toList
    { w with place := w.place + w.missed s }
  -- what is missed is skipped without being read
  have h_length : (s.history.extract (w.place + w.missed s)).toList.length =
      s.history.size - (w.place + w.missed s) := by
    rw [Array.length_toList, Array.size_extract]
    omega
  rw [h_length] at h_scan
  unfold readOn unread
  dsimp only at h_scan ⊢
  omega

end Watch

namespace Seat

/-- How many entries of the history the watch has not read, if there is one. -/
def unread (s : Seat) : Nat :=
  match s.member.attachment with
  | .attached _ _ (some watch) => watch.unread s.segment
  | _ => 0

/-- What is still to be done: for each event in the queue, and for each entry that is not read. -/
def burden (s : Seat) : Nat := Event.costs s.member.queue + 4 * s.unread

theorem Grown.unread {s s' : Seat} {events : List Event} (h : s.Grown s' events) :
    s'.unread = s.unread := by
  unfold Seat.unread
  rw [h.attachment, h.segment]

theorem backlog_eq (s : Seat) : Engine.backlog s = s.member.queue.length + 2 * s.unread := by
  change s.backlog = _
  unfold backlog unread
  rcases s.member.attachment with _ | ⟨host, posted, _ | watch⟩ <;> rfl

/-- It is at most twice what the engine says. -/
theorem burden_le (s : Seat) : s.burden ≤ 2 * Engine.backlog s := by
  have h_queue := Event.costs_le s.member.queue
  rw [backlog_eq]
  unfold burden
  omega

end Seat

namespace Attends

variable {host : Host} {posted : Array Nat} {watch? : Option Watch} {seat : Seat} {sweep : Sweep}
  {l : EventLoop Seat}

theorem burden_look (h : Attends host posted watch? seat sweep) :
    seat.look.2.burden ≤ seat.burden := by
  cases h_queue : seat.member.queue with
  -- something is queued already, so nothing is read
  | cons event rest =>
    rw [look_of_cons h_queue]
  | nil =>
    cases watch? with
    | none =>
      rw [h.look_of_none]
    | some watch =>
      -- reading takes off four for an entry, and what it queues costs no more than that
      have h_read := watch.readOn_le seat.segment
      have h_unread : seat.unread = watch.unread seat.segment := by
        unfold Seat.unread
        rw [h.attachment]
      rw [h.look_of_nil h_queue]
      generalize watch.readOn seat.segment = read at h_read ⊢
      unfold Seat.burden
      rw [h_unread]
      change Event.costs read.2 + 4 * read.1.unread seat.segment ≤ _
      omega

/-- **Every event that is taken in** makes what is left to do less. -/
theorem burden_poll (h : Attends host posted watch? l.engine l.sweep) (h_more : l.poll.1 = true) :
    l.poll.2.1.engine.burden < l.engine.burden := by
  have h_burden := h.burden_look
  obtain ⟨-, watch?', h_look, -⟩ := h.look
  cases h_queue : l.engine.look.2.member.queue with
  | nil =>
    -- an empty queue after the look means that the loop waits
    rw [(EventLoop.poll_of_nil h_queue).1] at h_more
    exact absurd h_more (by simp)
  | cons event rest =>
    have h_plain : event.Plain := h_look.plain event (by rw [h_queue]; exact List.mem_cons_self ..)
    obtain ⟨-, -, h_engine⟩ := EventLoop.poll_of_cons h_queue h_plain
    -- what the event leads to costs less than the event did
    obtain ⟨events, h_grown, h_cost, -⟩ := h_look.handle h_queue
    rw [h_engine]
    refine lt_of_lt_of_le ?_ h_burden
    unfold Seat.burden
    rw [h_grown.queue, h_grown.unread, h_queue, Event.costs_append, Event.costs_cons]
    change Event.costs rest + _ + 4 * l.engine.look.2.unread < _
    omega

end Attends

/-! ### Loops that settle -/

/-- The loop looks for servers on a scope and keeps track of the segment, and its watch is near
enough to go on. -/
structure Pursues (segment : Segment) (host : Host) (posted : Array Nat) (scope : IpScope)
    (l : EventLoop Seat) : Prop where
  segment_eq : l.engine.segment = segment
  tracks : ∃ past watch, Attends host posted (some watch) l.engine l.sweep ∧
    Tracks past watch l.engine l.sweep ∧ watch.scope = scope ∧ watch.unread segment ≤ Watch.window

namespace Pursues

variable {segment : Segment} {host : Host} {posted : Array Nat} {scope : IpScope}
  {l : EventLoop Seat}

theorem burden_poll (h : Pursues segment host posted scope l) (h_more : l.poll.1 = true) :
    l.poll.2.1.engine.burden < l.engine.burden := by
  obtain ⟨-, past, watch, h_attends, -⟩ := h
  exact h_attends.burden_poll h_more

/-- A poll leaves a loop that goes on, and with nothing left to do if it has to wait. -/
theorem poll (h : Pursues segment host posted scope l) (h_sound : segment.Sound)
    (h_times : segment.Unambiguous) :
    Pursues segment host posted scope l.poll.2.1 ∧
      (l.poll.1 = false → l.poll.2.1.engine.burden = 0) := by
  obtain ⟨rfl, past, watch, h_attends, h_tracks, h_scope, h_near⟩ := h
  have h_segment := h_attends.poll.1
  obtain ⟨past', watch', h_attends', h_scope', h_on, h_tracks', h_end⟩ :=
    h_tracks.poll h_attends h_sound h_times h_near
  -- reading never falls behind
  have h_unread : watch'.unread l.engine.segment ≤ watch.unread l.engine.segment := by
    have h_length := h_on.length_le
    unfold Watch.unread
    rw [h_tracks.knows.place, h_tracks'.knows.place]
    omega
  refine ⟨⟨h_segment, past', watch', h_attends', h_tracks', h_scope'.trans h_scope,
    h_unread.trans h_near⟩, fun h_waits => ?_⟩
  obtain ⟨-, h_queue, rfl⟩ := h_end h_waits
  -- nothing is unread once the loop waits
  have h_read : watch'.unread l.engine.segment = 0 := by
    unfold Watch.unread
    rw [h_tracks'.knows.place, Array.length_toList, Nat.sub_self]
  unfold Seat.burden Seat.unread
  rw [h_queue, h_attends'.attachment, h_segment]
  dsimp only
  rw [h_read]
  rfl

/-- **Settling.** A loop that settles goes on from there, but has to wait. -/
theorem settle (h : Pursues segment host posted scope l) (h_sound : segment.Sound)
    (h_times : segment.Unambiguous) :
    Pursues segment host posted scope l.settle.1 ∧ l.settle.1.poll.1 = false := by
  have h_limit : l.engine.burden < 2 * Engine.backlog l.engine + 1 :=
    Nat.lt_succ_of_le l.engine.burden_le
  obtain ⟨l', h', h_waits, h_settle⟩ := EventLoop.run_waits (fun l => l.engine.burden)
    (fun l h => (h.poll h_sound h_times).1) (fun l h => h.burden_poll) h h_limit
  obtain ⟨h_pursues, h_done⟩ := h'.poll h_sound h_times
  change l.settle.1 = _ at h_settle
  rw [h_settle]
  refine ⟨h_pursues, Bool.eq_false_iff.mpr fun h_more => ?_⟩
  -- where nothing is left to do, no event is taken in
  have h_less := h_pursues.burden_poll h_more
  rw [h_done h_waits] at h_less
  exact Nat.not_lt_zero _ h_less

end Pursues

end ServiceDiscovery
