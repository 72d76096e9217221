import ServiceDiscovery.Proofs.EventLoop.Pinning
import ServiceDiscovery.Proofs.Segment.Accounting
import ServiceDiscovery.Proofs.Segment.Convergence

/-!
# Browsing with losses

A member that browses shares one queue among what its watch tells and the ends of resolutions and
publications, and it hears of its segment what reaches it, with gaps and repetitions.  What it says
about browsing is right nevertheless.  It says first what was shown when it began, then that this
was all, then news, and its watch accounts for all of it (`Seat.Tells`).

Whatever befalls a member (`Seat.Incident`), it reads, or begins to browse, or does neither, and
then reports from the front of its queue (`Seat.Joined.undergo_cases`).  Each preserves
`Seat.Tells`, so the course of a member does (`Seat.Tells.course`), and nothing is misreported
(`Seat.never_misreports`).
-/

namespace ServiceDiscovery

/-! ### A member and what befalls it -/

/-- An event that is about browsing. -/
def Event.isBrowsing : Event → Bool
  | appeared _ => true
  | vanished _ => true
  | cacheExhausted => true
  | allForNow => true
  | browseFailed _ => true
  | _ => false

/-- Whatever is told of happenings is about browsing. -/
theorem Happening.filter_isBrowsing (news : List Happening) (type : String) (scope : IpScope) :
    (news.flatMap (·.events type scope)).filter Event.isBrowsing =
      news.flatMap (·.events type scope) := by
  refine List.filter_eq_self.mpr fun event h_mem => ?_
  obtain ⟨x, -, hx⟩ := List.mem_flatMap.mp h_mem
  cases x <;> obtain ⟨k, -, rfl⟩ := List.mem_map.mp hx <;> rfl

namespace Seat

/-- The watch that the member keeps. -/
def watch? (s : Seat) : Option Watch :=
  match s.member.attachment with
  | .scripted => none
  | .attached _ _ watch? => watch?

/-- A happening reaches the member, which takes it in if it watches. -/
def hear (x : Happening) (s : Seat) : Seat :=
  match s.member.attachment with
  | .attached host posted (some watch) =>
    { s with
      member := { s.member with
        attachment := .attached host posted (some (watch.notice x).1)
        queue := s.member.queue ++ (watch.notice x).2 } }
  | _ => s

/-- What befalls a member: others post and withdraw, an entry of the history reaches it, and
requests are made of it. -/
inductive Incident
  | post (host : Host) (ad : Advertisement)
  | withdraw (id : Nat)
  /-- The entry at this place in the history, be it old or new. -/
  | hear (place : Nat)
  | publish (ad : Advertisement)
  | browse (type : String) (scope : IpScope)
  | resolve (k : Sighting) (q : IpScope)
  | release (id : Nat)
  | next

/-- What the member reports, and how it goes on. -/
def undergo (s : Seat) : Incident → List Event × Seat
  | .post host ad => ([], { s with segment := (s.segment.post host ad).1 })
  | .withdraw id => ([], { s with segment := s.segment.withdraw id })
  | .hear place =>
    match s.segment.history[place]? with
    | some x => ([], s.hear x)
    | none => ([], s)
  | .publish ad => ([], (s.publish ad).2)
  | .browse type scope => ([], (s.browse type scope).2)
  | .resolve k q => ([], (s.resolve k q).2)
  | .release id => ([], s.release id)
  | .next => ((Engine.next s).event.toList, (Engine.next s).engine)

/-- What the member reports in the course of some incidents, and how it goes on after them. -/
def course (s : Seat) : List Incident → List Event × Seat
  | [] => ([], s)
  | x :: xs => ((s.undergo x).1 ++ ((s.undergo x).2.course xs).1, ((s.undergo x).2.course xs).2)

/-- The member is that of a host on its segment, and does as it is told. -/
structure Joined (s : Seat) : Prop where
  attached : s.Attached
  running : s.member.state = .running
  script : s.member.script = {}
  plain : ∀ event ∈ s.member.queue, event.Plain
  sound : s.segment.Sound

/-- The member keeps its watch, and of what it has to say about browsing it has said what is
reported. -/
structure Keeps (s : Seat) (reported : List Event) (s' : Seat) : Prop where
  joined : s'.Joined
  history : s.segment.history.toList <+: s'.segment.history.toList
  watch? : s'.watch? = s.watch?
  browsing : (reported ++ s'.member.queue).filter Event.isBrowsing =
    s.member.queue.filter Event.isBrowsing

/-- The member reads, and will report what comes up. -/
structure Takes (s : Seat) (w w' : Watch) (events : List Event) (s' : Seat) : Prop where
  joined : s'.Joined
  segment : s'.segment = s.segment
  before : s.watch? = some w
  after : s'.watch? = some w'
  reads : w.Reads s.segment.history.toList w' events
  queue : s'.member.queue = s.member.queue ++ events

variable {s s' : Seat}

/-- A member for a host, on a segment on which nothing has happened. -/
def joining (host : Host) : Seat := { segment := .quiet, member := .ofHost host }

theorem joined_joining (host : Host) : (joining host).Joined where
  attached := ⟨host, #[], none, rfl⟩
  running := rfl
  script := rfl
  plain _ h := absurd h List.not_mem_nil
  sound := Segment.sound_quiet

namespace Joined

/-- What is not said of a member that has joined. -/
theorem shape (h : s.Joined) :
    ∃ segment host posted watch? hostName requests queue nextResolution, s =
      { segment
        member := { state := .running, hostName
                    attachment := .attached host posted watch?
                    requests, script := {}, queue, nextResolution } } := by
  obtain ⟨host, posted, watch?, h_attachment⟩ := h.attached
  obtain ⟨segment, hostName, requests, queue, nextResolution, h_eq⟩ :=
    Seat.shape h_attachment h.running h.script
  exact ⟨segment, host, posted, watch?, hostName, requests, queue, nextResolution, h_eq⟩

theorem keeps_refl (h : s.Joined) : s.Keeps [] s := ⟨h, List.prefix_rfl, rfl, rfl⟩

/-- The segment goes on. -/
theorem keeps_segment (h : s.Joined) {segment : Segment} (h_sound : segment.Sound)
    (h_history : s.segment.history.toList <+: segment.history.toList) :
    s.Keeps [] { s with segment } where
  joined := ⟨h.attached, h.running, h.script, h.plain, h_sound⟩
  history := h_history
  watch? := rfl
  browsing := rfl

/-- An event comes up that is not about browsing. -/
theorem keeps_publish (h : s.Joined) (ad : Advertisement) : s.Keeps [] (s.publish ad).2 := by
  obtain ⟨segment, host, posted, watch?, hostName, requests, queue, nextResolution, rfl⟩ := h.shape
  refine ⟨⟨⟨host, _, watch?, rfl⟩, rfl, rfl, ?_, h.sound.post host ad⟩,
    (h.sound.later_post host ad).history, rfl, ?_⟩
  · intro event h_mem
    rcases List.mem_append.mp h_mem with h_mem | h_mem
    · exact h.plain event h_mem
    · rw [List.mem_singleton.mp h_mem]
      trivial
  · -- `established` says nothing about browsing
    change (queue ++ [Event.established]).filter Event.isBrowsing = _
    simp [Event.isBrowsing]

theorem keeps_resolve (h : s.Joined) (k : Sighting) (q : IpScope) :
    s.Keeps [] (s.resolve k q).2 := by
  obtain ⟨segment, host, posted, watch?, hostName, requests, queue, nextResolution, rfl⟩ := h.shape
  -- a resolution ends in an event that says nothing about browsing
  have h_end : (resolution segment nextResolution k q).Plain ∧
      (resolution segment nextResolution k q).isBrowsing = false := by
    unfold resolution
    split <;> exact ⟨trivial, rfl⟩
  refine ⟨⟨⟨host, posted, watch?, rfl⟩, rfl, rfl, ?_, h.sound⟩, List.prefix_rfl, rfl, ?_⟩
  · intro event h_mem
    rcases List.mem_append.mp h_mem with h_mem | h_mem
    · exact h.plain event h_mem
    · rw [List.mem_singleton.mp h_mem]
      exact h_end.1
  · change (queue ++ [resolution segment nextResolution k q]).filter Event.isBrowsing = _
    simp [h_end.2]

theorem keeps_release (h : s.Joined) (id : Nat) : s.Keeps [] (s.release id) :=
  ⟨⟨h.attached, h.running, h.script, h.plain, h.sound⟩, List.prefix_rfl, rfl, rfl⟩

/-- Who browses already is refused. -/
theorem keeps_browse (h : s.Joined) {w : Watch} (h_watch : s.watch? = some w) (type : String)
    (scope : IpScope) : s.Keeps [] (s.browse type scope).2 := by
  obtain ⟨segment, host, posted, watch?, hostName, requests, queue, nextResolution, rfl⟩ := h.shape
  obtain rfl : watch? = some w := h_watch
  exact ⟨⟨⟨host, posted, some w, rfl⟩, rfl, rfl, h.plain, h.sound⟩, List.prefix_rfl, rfl, rfl⟩

/-- **Reporting** takes from the queue, and from its front. -/
theorem keeps_report (h : s.Joined) : s.Keeps s.report.1.toList s.report.2 := by
  cases h_queue : s.member.queue with
  -- nothing is queued, so nothing is reported
  | nil =>
    rw [report_of_nil h_queue]
    exact h.keeps_refl
  | cons event rest =>
    rw [report_of_cons h_queue (h.plain event (h_queue ▸ List.mem_cons_self ..))]
    refine ⟨⟨h.attached, h.running, h.script, fun event' h_mem => ?_, h.sound⟩,
      List.prefix_rfl, rfl, ?_⟩
    · -- what is left in the queue was in it
      exact h.plain event' (h_queue ▸ List.mem_cons_of_mem event h_mem)
    · -- what is reported is the first of the queue
      rw [h_queue]
      rfl

/-- The member takes in what its watch has read. -/
theorem takes_of_reads (h : s.Joined) {host : Host} {posted : Array Nat} {w w' : Watch}
    {events : List Event} (h_attachment : s.member.attachment = .attached host posted (some w))
    (h_reads : w.Reads s.segment.history.toList w' events)
    (h_events : ∀ event ∈ events, ∃ k : Sighting,
      w.scope.Pins k.protocol ∧ (event = .appeared k ∨ event = .vanished k)) :
    s.Takes w w' events { s with
      member := { s.member with
        attachment := .attached host posted (some w')
        queue := s.member.queue ++ events } } where
  joined := by
    refine ⟨⟨host, posted, some w', rfl⟩, h.running, h.script, fun event h_mem => ?_, h.sound⟩
    -- what was queued is plain, and what is new tells of a sighting
    rcases List.mem_append.mp h_mem with h_mem | h_mem
    · exact h.plain event h_mem
    · obtain ⟨k, -, rfl | rfl⟩ := h_events event h_mem <;> trivial
  segment := rfl
  before := by rw [watch?, h_attachment]
  after := rfl
  reads := h_reads
  queue := rfl

/-- An entry that reaches the member is taken in, if it watches. -/
theorem hear_cases (h : s.Joined) {x : Happening} (hx : x ∈ s.segment.history.toList) :
    s.hear x = s ∨ ∃ w w' events, s.Takes w w' events (s.hear x) := by
  unfold hear
  split
  · next host posted w h_attachment =>
    exact .inr ⟨w, _, _, h.takes_of_reads h_attachment (w.reads_notice h.sound.inOrder hx)
      (w.notice_frame x).2.2⟩
  · -- a member that does not watch does not hear anything
    exact .inl rfl

/-- A member that looks at its segment reads on, if it watches and has nothing else to report. -/
theorem look_cases (h : s.Joined) :
    s.look.2 = s ∨ ∃ w w' events, s.Takes w w' events s.look.2 := by
  unfold look
  split
  · next host posted w h_queue h_attachment =>
    have h_takes := h.takes_of_reads h_attachment (w.reads_readOn h.sound.inOrder)
      (w.readOn_frame s.segment).2.2
    rw [h_queue, List.nil_append] at h_takes
    exact .inr ⟨w, _, _, h_takes⟩
  · -- with something in the queue, or without a watch, nothing is read
    exact .inl rfl

end Joined

/-! ### What a member has told -/

/-- What a member has told of browsing since it began to watch, and what it still has to: what was
shown then, all of it, then that this was all; and then some news, so that its watch accounts for
what was told. -/
structure Tells (type : String) (scope : IpScope) (opening : List Posting) (delivered : List Event)
    (s : Seat) (w : Watch) (news : List Happening) : Prop where
  watch : s.watch? = some w
  watchesFor : w.serviceType = type ∧ w.scope = scope
  browsing : (delivered ++ s.member.queue).filter Event.isBrowsing =
    (opening.map Happening.posted).flatMap (·.events type scope) ++
      [.cacheExhausted, .allForNow] ++ news.flatMap (·.events type scope)
  accounts : w.Accounts s.segment.history.toList (opening.map Happening.posted ++ news)

namespace Tells

variable {type : String} {scope : IpScope} {opening : List Posting} {delivered : List Event}
  {w : Watch} {news : List Happening}

theorem keeps (h : s.Tells type scope opening delivered w news) {reported : List Event}
    (h_keeps : s.Keeps reported s') :
    s'.Tells type scope opening (delivered ++ reported) w news where
  watch := h_keeps.watch?.trans h.watch
  watchesFor := h.watchesFor
  -- what is reported moves from the queue to what has been delivered
  browsing := calc
    (delivered ++ reported ++ s'.member.queue).filter Event.isBrowsing
    _ = delivered.filter Event.isBrowsing ++
          (reported ++ s'.member.queue).filter Event.isBrowsing := by
        rw [List.append_assoc, List.filter_append]
    _ = (delivered ++ s.member.queue).filter Event.isBrowsing := by
        rw [h_keeps.browsing, List.filter_append]
    _ = _ := h.browsing
  accounts := h.accounts.later h_keeps.history h_keeps.joined.sound.inOrder

theorem takes (h : s.Tells type scope opening delivered w news) {w₁ w' : Watch}
    {events : List Event} (h_takes : s.Takes w₁ w' events s') :
    ∃ news', s'.Tells type scope opening delivered w' (news ++ news') := by
  obtain rfl : w₁ = w := Option.some.inj (h_takes.before.symm.trans h.watch)
  obtain ⟨rfl, rfl⟩ := h.watchesFor
  obtain ⟨news', h_news, h_events⟩ := h_takes.reads.accounts _ h.accounts
  -- all that comes up is about browsing, and it comes up behind everything else
  have h_browsing : (delivered ++ s'.member.queue).filter Event.isBrowsing =
      (delivered ++ s.member.queue).filter Event.isBrowsing ++
        news'.flatMap (·.events w₁.serviceType w₁.scope) := by
    rw [h_takes.queue, ← List.append_assoc, List.filter_append, h_events,
      Happening.filter_isBrowsing]
  refine ⟨news', h_takes.after, ⟨h_takes.reads.serviceType, h_takes.reads.scope⟩, ?_, ?_⟩
  · rw [h_browsing, h.browsing, List.flatMap_append, List.append_assoc]
  · rw [h_takes.segment, ← List.append_assoc]
    exact h_news

end Tells

/-- A member that does not watch accepts to browse, and watches from then on. -/
theorem Joined.browse (h : s.Joined) (h_idle : s.watch? = none) (type : String)
    (scope : IpScope) : ∃ s', s.browse type scope = (.ok (), s') ∧ s'.Joined ∧
      s'.segment = s.segment ∧ s'.watch? = some (Watch.start type scope s.segment).1 ∧
      s'.member.queue = s.member.queue ++ (Watch.start type scope s.segment).2 ++
        [.cacheExhausted, .allForNow] := by
  obtain ⟨segment, host, posted, watch?, hostName, requests, queue, nextResolution, rfl⟩ := h.shape
  obtain rfl : watch? = none := h_idle
  refine ⟨_, rfl, ⟨⟨host, posted, _, rfl⟩, rfl, rfl, ?_, h.sound⟩, rfl, rfl, rfl⟩
  intro event h_mem
  -- what was queued, what the watch tells of at its start, and the two events behind it
  rcases List.mem_append.mp h_mem with h_mem | h_last
  · rcases List.mem_append.mp h_mem with h_mem | h_mem
    · exact h.plain event h_mem
    · obtain ⟨p, -, h_mem⟩ := List.mem_flatMap.mp h_mem
      obtain ⟨k, -, rfl⟩ := List.mem_map.mp h_mem
      trivial
  · simp only [List.mem_cons, List.not_mem_nil, or_false] at h_last
    rcases h_last with rfl | rfl <;> trivial

/-- **Beginning.** A member that has nothing to say about browsing yet tells what is shown. -/
theorem Joined.begins (h : s.Joined) (h_idle : s.watch? = none)
    (h_quiet : s.member.queue.filter Event.isBrowsing = []) (type : String) (scope : IpScope) :
    (s.browse type scope).1 = .ok () ∧ (s.browse type scope).2.Joined ∧
      (s.browse type scope).2.Tells type scope (s.segment.shown type scope) []
        (Watch.start type scope s.segment).1 [] := by
  obtain ⟨s', h_browse, h_joined, h_segment, h_watch, h_queue⟩ := h.browse h_idle type scope
  have h_accounts := Watch.accounts_start h.sound type scope
  have h_said := Happening.filter_isBrowsing
    ((s.segment.shown type scope).map .posted) type scope
  rw [h_browse]
  refine ⟨rfl, h_joined, h_watch, ⟨rfl, rfl⟩, ?_, ?_⟩
  · -- the sightings in the queue are those of the opening
    rw [List.nil_append, h_queue, List.filter_append, List.filter_append, h_quiet,
      Watch.start_events, h_said, List.nil_append, List.flatMap_nil, List.append_nil]
    rfl
  · -- and they account for what the watch has seen
    rw [List.append_nil, h_segment]
    exact h_accounts

/-- **One incident.** A member reads, or begins to browse, or does neither, and then reports. -/
theorem Joined.undergo_cases (h : s.Joined) (x : Incident) :
    ∃ s₁, s₁.Keeps (s.undergo x).1 (s.undergo x).2 ∧
      (s₁ = s ∨ (∃ w w' events, s.Takes w w' events s₁) ∨
        s.watch? = none ∧ s₁.watch? ≠ none) := by
  -- a member may read before it does anything else; `s₁` is what it is then
  cases x with
  | post host ad =>
    have h_later := h.sound.later_post host ad
    exact ⟨s, h.keeps_segment (h.sound.post host ad) h_later.history, .inl rfl⟩
  | withdraw id =>
    have h_later := Segment.later_withdraw id s.segment
    exact ⟨s, h.keeps_segment (h.sound.withdraw id) h_later.history, .inl rfl⟩
  | hear place =>
    unfold undergo
    dsimp only
    split
    · next x hx =>
      -- the entry is there, be it an old one
      rcases h.hear_cases (Array.mem_toList_iff.mpr (Array.mem_of_getElem? hx)) with h_same | h_takes
      · rw [h_same]
        exact ⟨s, h.keeps_refl, .inl rfl⟩
      · obtain ⟨w, w', events, h_takes⟩ := h_takes
        exact ⟨s.hear x, h_takes.joined.keeps_refl, .inr (.inl ⟨w, w', events, h_takes⟩)⟩
    · -- no entry stands at that place
      exact ⟨s, h.keeps_refl, .inl rfl⟩
  | publish ad => exact ⟨s, h.keeps_publish ad, .inl rfl⟩
  | browse type scope =>
    cases h_watch : s.watch? with
    | none =>
      obtain ⟨s', h_browse, h_joined, -, h_begun, -⟩ := h.browse h_watch type scope
      refine ⟨s', ?_, .inr (.inr ⟨rfl, by simp [h_begun]⟩)⟩
      change s'.Keeps [] (s.browse type scope).2
      rw [h_browse]
      -- the watch that begins is the first one
      exact h_joined.keeps_refl
    -- a second browse is refused
    | some w => exact ⟨s, h.keeps_browse h_watch type scope, .inl rfl⟩
  | resolve k q => exact ⟨s, h.keeps_resolve k q, .inl rfl⟩
  | release id => exact ⟨s, h.keeps_release id, .inl rfl⟩
  | next =>
    -- the member reads first when its queue is empty
    rcases h.look_cases with h_same | ⟨w, w', events, h_takes⟩
    · refine ⟨s, ?_, .inl rfl⟩
      change s.Keeps s.look.2.report.1.toList s.look.2.report.2
      rw [h_same]
      exact h.keeps_report
    · exact ⟨s.look.2, h_takes.joined.keeps_report, .inr (.inl ⟨w, w', events, h_takes⟩)⟩

/-- A member that does not watch has nothing to say about browsing. -/
def Resting (s : Seat) : Prop := s.watch? = none → s.member.queue.filter Event.isBrowsing = []

/-- Whatever befalls a member before it browses. -/
theorem Joined.course (h : s.Joined) (h_resting : s.Resting) (xs : List Incident) :
    (s.course xs).2.Joined ∧ (s.course xs).2.Resting := by
  induction xs generalizing s with
  | nil => exact ⟨h, h_resting⟩
  | cons x xs ih =>
    obtain ⟨s₁, h_keeps, h_before⟩ := h.undergo_cases x
    refine ih h_keeps.joined fun h_idle => ?_
    rw [h_keeps.watch?] at h_idle
    -- who does not watch afterwards did not read, nor begin to browse
    obtain rfl : s₁ = s := by
      rcases h_before with h_same | ⟨w, w', events, h_takes⟩ | ⟨-, h_begun⟩
      · exact h_same
      · exact absurd (h_takes.after.symm.trans h_idle) (by simp)
      · exact absurd h_idle h_begun
    have h_quiet := h_keeps.browsing.trans (h_resting h_idle)
    rw [List.filter_append, List.append_eq_nil_iff] at h_quiet
    exact h_quiet.2

/-- **Invariant preservation.** Whatever befalls a member that browses. -/
theorem Tells.undergo {type : String} {scope : IpScope} {opening : List Posting}
    {delivered : List Event} {w : Watch} {news : List Happening}
    (h : s.Tells type scope opening delivered w news) (h_joined : s.Joined) (x : Incident) :
    (s.undergo x).2.Joined ∧ ∃ w' news', (s.undergo x).2.Tells type scope opening
      (delivered ++ (s.undergo x).1) w' news' := by
  obtain ⟨s₁, h_keeps, h_before⟩ := h_joined.undergo_cases x
  refine ⟨h_keeps.joined, ?_⟩
  rcases h_before with rfl | ⟨w₁, w', events, h_takes⟩ | ⟨h_idle, -⟩
  · -- nothing is read before
    exact ⟨w, news, h.keeps h_keeps⟩
  · -- what is read is added to the news
    obtain ⟨news', h_tells⟩ := h.takes h_takes
    exact ⟨w', _, h_tells.keeps h_keeps⟩
  · -- a member that watches does not start to
    exact absurd (h.watch.symm.trans h_idle) (by simp)

theorem Tells.course {type : String} {scope : IpScope} {opening : List Posting}
    {delivered : List Event} {w : Watch} {news : List Happening}
    (h : s.Tells type scope opening delivered w news) (h_joined : s.Joined) (xs : List Incident) :
    ∃ w' news', (s.course xs).2.Tells type scope opening (delivered ++ (s.course xs).1) w'
      news' := by
  -- on the incidents, each of which may add to the news
  induction xs generalizing s delivered w news with
  | nil => exact ⟨w, news, by rw [Seat.course, List.append_nil]; exact h⟩
  | cons x xs ih =>
    obtain ⟨h_joined', w', news', h'⟩ := h.undergo h_joined x
    obtain ⟨w'', news'', h''⟩ := ih h' h_joined'
    rw [List.append_assoc] at h''
    exact ⟨w'', news'', h''⟩

/-- **Nothing is misreported.** A member joins a quiet segment, and anything befalls it: others post
and withdraw, it publishes and resolves.  If it does not browse yet, it is not refused, whatever it
browses for.  Anything befalls it then: entries of the history reach it, in any order and however
many are lost, those from before as well, and it reads on by itself.  What it reports about browsing
from then on, with what it still has in its queue, is what was shown when it began, then that this
was all, then some news; in all that was told of a posting, it is posted and withdrawn in turn,
beginning with posted, and it is posted last just if it is among what the member takes for seen, and
shows itself to those who watch as the member does. -/
theorem never_misreports (host : Host) (before : List Incident) (type : String) (scope : IpScope)
    (h_idle : ((joining host).course before).2.watch? = none) (after : List Incident) :
    let s := ((joining host).course before).2
    (s.browse type scope).1 = .ok () ∧
      ∃ w news, ((s.browse type scope).2.course after).2.Tells type scope
        (s.segment.shown type scope) ((s.browse type scope).2.course after).1 w news := by
  -- a member that has just joined has nothing queued
  have h_quiet : (joining host).Resting := fun _ => rfl
  obtain ⟨h_joined, h_resting⟩ := (joined_joining host).course h_quiet before
  obtain ⟨h_accepted, h_browses, h_tells⟩ :=
    h_joined.begins h_idle (h_resting h_idle) type scope
  exact ⟨h_accepted, h_tells.course h_browses after⟩

/-- A server is posted, and then withdrawn and posted again while a member browses. -/
def atticComes : List Incident := [.post Chronicle.attic (.ofServer "attic" "7f0c" 55132 .any)]

/-- The member hears of the first posting once more and misses that it is withdrawn. -/
def atticReturns : List Incident :=
  [.hear 0, .next, .withdraw 1, .post Chronicle.attic (.ofServer "attic" "7f0c" 55132 .any),
    .hear 2, .next, .next, .next, .next, .next]

theorem attic_is_never_misreported :
    let s := ((joining Chronicle.bench).course atticComes).2
    s.watch? = none ∧ (s.browse serverType .any).1 = .ok () ∧
      ∃ w news, ((s.browse serverType .any).2.course atticReturns).2.Tells serverType .any
        (s.segment.shown serverType .any) ((s.browse serverType .any).2.course atticReturns).1 w
        news :=
  ⟨rfl, never_misreports Chronicle.bench atticComes serverType .any rfl atticReturns⟩

end Seat

end ServiceDiscovery
