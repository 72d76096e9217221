import ServiceDiscovery.Proofs.Responder.Appearances
import ServiceDiscovery.Proofs.Segment.Attendance

/-!
# Pinned to a family

Every URL that a loop answers under a family leads to an address of this family, and the scope for
which the sweep was started reaches it (`EventLoop.pinned`), whether the engine is a responder or a
member of a segment.

A member sees postings on single families of the scope on which it watches (`Seat.Watches`,
`Seat.reports_within_scope`).  It looks an address up as it is asked to resolve, and reports it
later, under the number that it gave; no number is given twice, so it is for what was asked
(`Sweep.Served`).
-/

namespace ServiceDiscovery

namespace Seat

/-- The segment becomes another. -/
def reseat (segment : Segment) (s : Seat) : Seat := { s with segment }

/-- The member is on a segment, and does not follow a script. -/
def Attached (s : Seat) : Prop :=
  ∃ host posted watch?, s.member.attachment = .attached host posted watch?

/-- The scope on which the member watches its segment. -/
def watched? (s : Seat) : Option IpScope :=
  match s.member.attachment with
  | .scripted => none
  | .attached _ _ watch? => watch?.map (·.scope)

/-- An event that is no contact, and no server but one that appeared on the scope on which the
member watches. -/
def Sees (s : Seat) (event : Event) : Prop :=
  (∀ id c, event ≠ .found id c) ∧
    ∀ k, event = .appeared k → ∃ scope, s.watched? = some scope ∧ scope.Pins k.protocol

/-- What a member on a segment has to report: contacts for numbers that were given, and servers on
the scope on which it watches. -/
structure SeesWithin (s : Seat) : Prop where
  attached : s.Attached
  queue : ∀ event ∈ s.member.queue,
    (∃ id c, event = .found id c ∧ id < s.member.nextResolution) ∨ s.Sees event

/-- The member goes on to watch as it did, and what comes into its queue is what it sees. -/
structure Watches (s s' : Seat) : Prop where
  attached : s'.Attached
  scope : ∀ scope, s.watched? = some scope → s'.watched? = some scope
  next : s.member.nextResolution ≤ s'.member.nextResolution
  queue : ∀ event ∈ s'.member.queue, event ∈ s.member.queue ∨ s'.Sees event

variable {s s' s'' : Seat}

theorem Sees.mono {event : Event} (h : s.Sees event)
    (h_scope : ∀ scope, s.watched? = some scope → s'.watched? = some scope) : s'.Sees event := by
  refine ⟨h.1, fun k hk => ?_⟩
  obtain ⟨scope, hs, h_pins⟩ := h.2 k hk
  exact ⟨scope, h_scope scope hs, h_pins⟩

/-- An event that is neither a contact nor the appearance of a server. -/
theorem sees_of_ne {event : Event} (h_found : ∀ id c, event ≠ .found id c)
    (h_appeared : ∀ k, event ≠ .appeared k) : s.Sees event :=
  ⟨h_found, fun k hk => absurd hk (h_appeared k)⟩

namespace Watches

theorem trans (h : s.Watches s') (h' : s'.Watches s'') : s.Watches s'' where
  attached := h'.attached
  scope scope hs := h'.scope scope (h.scope scope hs)
  next := Nat.le_trans h.next h'.next
  queue event h_mem := by
    rcases h'.queue event h_mem with h_mem | h_new
    · exact (h.queue event h_mem).imp_right fun h_sees => h_sees.mono h'.scope
    · exact .inr h_new

theorem seesWithin (h : s.Watches s') (hs : s.SeesWithin) : s'.SeesWithin where
  attached := h.attached
  queue event h_mem := by
    rcases h.queue event h_mem with h_old | h_new
    · obtain ⟨id, c, rfl, h_lt⟩ | h_sees := hs.queue event h_old
      · exact .inl ⟨id, c, rfl, Nat.lt_of_lt_of_le h_lt h.next⟩
      · exact .inr (h_sees.mono h.scope)
    · exact .inr h_new

/-- Some events come up, and the member watches as it did. -/
theorem of_append (events : List Event) (h_attached : s'.Attached)
    (h_watched : s'.watched? = s.watched?)
    (h_next : s'.member.nextResolution = s.member.nextResolution)
    (h_queue : s'.member.queue = s.member.queue ++ events)
    (h_sees : ∀ event ∈ events, s'.Sees event) : s.Watches s' where
  attached := h_attached
  scope scope hs := h_watched.trans hs
  next := Nat.le_of_eq h_next.symm
  queue event h_mem := by
    rw [h_queue] at h_mem
    -- an event in the new queue was in the old one or is new
    exact (List.mem_append.mp h_mem).imp_right (h_sees event)

theorem of_eq (h_attached : s'.Attached) (h_watched : s'.watched? = s.watched?)
    (h_next : s'.member.nextResolution = s.member.nextResolution)
    (h_queue : s'.member.queue = s.member.queue) : s.Watches s' :=
  of_append [] h_attached h_watched h_next (by rw [h_queue, List.append_nil])
    fun _ h => absurd h List.not_mem_nil

theorem refl (h : s.Attached) : s.Watches s := of_eq h rfl rfl rfl

end Watches

/-- What a watch reports, it sees. -/
theorem sees_of_watch {watch : Watch} (hs : s.watched? = some watch.scope) {event : Event}
    (h : ∃ k : Sighting, watch.scope.Pins k.protocol ∧
      (event = .appeared k ∨ event = .vanished k)) : s.Sees event := by
  obtain ⟨k, h_pins, rfl | rfl⟩ := h
  · refine ⟨by simp, fun k' h_eq => ⟨watch.scope, hs, ?_⟩⟩
    exact Event.appeared.inj h_eq ▸ h_pins
  · exact sees_of_ne (by simp) (by simp)

/-! ### Requests -/

theorem watches_publish (h : s.Attached) (ad : Advertisement) : s.Watches (s.publish ad).2 := by
  obtain ⟨host, posted, watch?, h_attachment⟩ := h
  unfold publish
  dsimp only
  split
  · -- a member that does not run refuses
    exact .refl ⟨host, posted, watch?, h_attachment⟩
  · rw [h_attachment]
    -- it announces that it is established, which is not about a sighting
    refine .of_append [.established] ⟨host, _, watch?, rfl⟩ ?_ rfl rfl ?_
    · rw [watched?, watched?, h_attachment]
      rfl
    · intro event h_mem
      rw [List.mem_singleton.mp h_mem]
      exact sees_of_ne (by simp) (by simp)

/-- A member that begins to watch tells who is there, on the scope on which it watches. -/
theorem watches_browse (h : s.Attached) (type : String) (scope : IpScope) :
    s.Watches (s.browse type scope).2 := by
  have h' := h
  obtain ⟨host, posted, watch?, h_attachment⟩ := h
  unfold browse
  dsimp only
  split
  · exact .refl h'
  · split
    · exact .of_eq ⟨host, posted, watch?, h_attachment⟩ rfl rfl rfl
    · rw [h_attachment]
      cases watch? with
      | some watch =>
        refine .of_eq ⟨host, posted, some watch, rfl⟩ ?_ rfl rfl
        rw [watched?, watched?, h_attachment]
      | none =>
        -- no scope is to be kept, as nothing was watched
        have h_idle : s.watched? = none := by
          rw [watched?, h_attachment]
          rfl
        refine ⟨⟨host, posted, _, rfl⟩, fun scope' hs => absurd (h_idle.symm.trans hs) (by simp),
          Nat.le_refl _, fun event h_mem => ?_⟩
        dsimp only at h_mem
        rcases List.mem_append.mp h_mem with h_mem | h_last
        · -- whoever is there already appears at once
          refine (List.mem_append.mp h_mem).imp_right fun h_new => ?_
          obtain ⟨p, -, h_event⟩ := List.mem_flatMap.mp h_new
          obtain ⟨k, hk, rfl⟩ := List.mem_map.mp h_event
          exact sees_of_watch rfl ⟨k, Posting.pins_of_mem_sightings hk, .inl rfl⟩
        · refine .inr ?_
          simp only [List.mem_cons, List.not_mem_nil, or_false] at h_last
          rcases h_last with rfl | rfl <;> exact sees_of_ne (by simp) (by simp)

theorem watched?_browse (h : s.Attached) {type : String} {scope : IpScope}
    (h_browse : s.browse type scope = (.ok (), s')) : s'.watched? = some scope := by
  obtain ⟨host, posted, watch?, h_attachment⟩ := h
  unfold browse at h_browse
  dsimp only at h_browse
  rw [h_attachment] at h_browse
  split at h_browse
  · -- a member that does not run, or is told to refuse, does not browse
    exact absurd h_browse (by simp)
  · split at h_browse
    · exact absurd h_browse (by simp)
    · cases watch? with
      -- it watches already, so it refuses
      | some watch => exact absurd h_browse (by simp)
      | none =>
        -- it starts to watch with the scope that it is given
        obtain ⟨-, rfl⟩ := Prod.mk.inj h_browse
        rfl

/-- A resolution is refused, or it gets the next number and ends at once. -/
theorem resolve_cases (h : s.Attached) (k : Sighting) (q : IpScope) :
    (∃ refusal, s.resolve k q = (.error refusal, s)) ∨
      ∃ s', s.resolve k q = (.ok s.member.nextResolution, s') ∧
        s'.member.attachment = s.member.attachment ∧
        s'.member.nextResolution = s.member.nextResolution + 1 ∧
        s'.member.queue =
          s.member.queue ++ [resolution s.segment s.member.nextResolution k q] := by
  obtain ⟨host, posted, watch?, h_attachment⟩ := h
  unfold resolve
  dsimp only
  split
  · -- it is not running
    exact .inl ⟨_, rfl⟩
  · split
    · -- it is told to refuse
      exact .inl ⟨_, rfl⟩
    · rw [h_attachment]
      -- the number is used up, and the end of the resolution is queued
      exact .inr ⟨_, rfl, rfl, rfl, rfl⟩

/-- An address of a host is in what was asked for. -/
theorem includes_address (host : Host) (q : IpScope) :
    q.includes (host.address q).scope = true := by
  cases q <;> rfl

/-- **Resolutions.** A contact that is found has an address in what was asked for. -/
theorem resolution_eq_found {segment : Segment} {id id' : Nat} {k : Sighting} {q : IpScope}
    {c : Contact} (h : resolution segment id k q = .found id' c) :
    id' = id ∧ q.includes c.address.scope = true := by
  unfold resolution at h
  split at h
  · obtain ⟨rfl, rfl⟩ := Event.found.inj h
    exact ⟨rfl, includes_address _ q⟩
  · exact absurd h (by simp)

theorem resolution_ne_appeared (segment : Segment) (id : Nat) (k k' : Sighting) (q : IpScope) :
    resolution segment id k q ≠ .appeared k' := by
  unfold resolution
  split <;> simp

theorem watched?_of_attachment (h : s'.member.attachment = s.member.attachment) :
    s'.watched? = s.watched? := by
  unfold watched?
  rw [h]

theorem SeesWithin.resolve (h : s.SeesWithin) (k : Sighting) (q : IpScope) :
    (s.resolve k q).2.SeesWithin := by
  obtain ⟨refusal, hr⟩ | ⟨s', hr, h_attachment, h_next, h_queue⟩ := resolve_cases h.attached k q
  · -- a refusal leaves everything as it was
    rw [hr]
    exact h
  · rw [hr]
    have h_watched := watched?_of_attachment h_attachment
    refine ⟨?_, fun event h_mem => ?_⟩
    · -- the member is attached as before
      obtain ⟨host, posted, watch?, h_before⟩ := h.attached
      exact ⟨host, posted, watch?, h_attachment.trans h_before⟩
    · show _ ∨ s'.Sees event
      rw [show (Except.ok s.member.nextResolution, s').2 = s' from rfl] at h_mem ⊢
      rw [h_queue] at h_mem
      rcases List.mem_append.mp h_mem with h_old | h_new
      · -- an old event is still right, as the numbers go up
        rw [h_next]
        obtain ⟨id, c, rfl, h_lt⟩ | h_sees := h.queue event h_old
        · exact .inl ⟨id, c, rfl, Nat.lt_succ_of_lt h_lt⟩
        · exact .inr (h_sees.mono fun scope hs => h_watched.trans hs)
      · -- what ends the resolution is a contact for its number, or no contact at all
        obtain rfl := List.mem_singleton.mp h_new
        by_cases h_found : ∃ id c, resolution s.segment s.member.nextResolution k q = .found id c
        · obtain ⟨id, c, h_eq⟩ := h_found
          refine .inl ⟨id, c, h_eq, ?_⟩
          rw [h_next, (resolution_eq_found h_eq).1]
          exact Nat.lt_succ_self _
        · exact .inr (sees_of_ne (fun id c h_eq => h_found ⟨id, c, h_eq⟩)
            (resolution_ne_appeared _ _ k · q))

theorem watched?_resolve (h : s.Attached) (k : Sighting) (q : IpScope) :
    (s.resolve k q).2.watched? = s.watched? := by
  obtain ⟨refusal, hr⟩ | ⟨s', hr, h_attachment, -⟩ := resolve_cases h k q
  · rw [hr]
  · rw [hr]
    exact watched?_of_attachment h_attachment

theorem watches_release (h : s.Attached) (id : Nat) : s.Watches (s.release id) :=
  .of_eq h rfl rfl rfl

theorem watches_reseat (h : s.Attached) (segment : Segment) : s.Watches (s.reseat segment) :=
  .of_eq h rfl rfl rfl

/-- A member that has nothing to report reads on, and sees what its watch reports. -/
theorem watches_look (h : s.Attached) : s.Watches s.look.2 := by
  unfold look
  split
  · next host posted watch h_queue h_attachment =>
    -- what is read is right for the scope that is watched
    obtain ⟨-, h_scope, h_events⟩ := watch.readOn_frame s.segment
    have h_before : s.watched? = some watch.scope := by
      rw [watched?, h_attachment]
      rfl
    refine .of_append _ ⟨host, posted, _, rfl⟩ ?_ rfl (by rw [h_queue, List.nil_append])
      fun event h_mem => sees_of_watch ?_ (h_events event h_mem)
    · exact (congrArg some h_scope).trans h_before.symm
    · exact congrArg some h_scope
  · exact .refl h

theorem watches_report (h : s.Attached) : s.Watches s.report.2 := by
  unfold report
  split
  · -- nothing is queued, so nothing is reported
    exact .refl h
  · next event rest h_queue =>
    -- what is left was in the queue before
    have h_rest : ∀ e ∈ rest, e ∈ s.member.queue := fun e h_mem =>
      h_queue ▸ List.mem_cons_of_mem event h_mem
    dsimp only
    split
    · exact ⟨h, fun _ hs => hs, Nat.le_refl _, fun e h_mem => .inl (h_rest e h_mem)⟩
    · exact ⟨h, fun _ hs => hs, Nat.le_refl _, fun e h_mem => .inl (h_rest e h_mem)⟩

/-- What is reported is first in the queue. -/
theorem mem_queue_of_report {event : Event} (h : s.report.1 = some event) :
    event ∈ s.member.queue := by
  unfold report at h
  split at h
  · exact absurd h (by simp)
  · next first rest h_queue =>
    -- what is reported was the first of the queue
    rw [h_queue]
    dsimp only at h
    split at h <;> exact Option.some.inj h ▸ List.mem_cons_self ..

theorem watches_next (h : s.Attached) : s.Watches (Engine.next s).engine :=
  (watches_look h).trans (watches_report (watches_look h).attached)

/-! ### What a loop can rely on -/

theorem maintained_seesWithin : EventLoop.Maintained reseat SeesWithin where
  publish ad _ h := (watches_publish h.attached ad).seesWithin h
  browse scope _ h := (watches_browse h.attached serverType scope).seesWithin h
  resolve k q _ h := h.resolve k q
  release id _ h := (watches_release h.attached id).seesWithin h
  next h := (watches_next h.attached).seesWithin h
  world segment _ h := (watches_reseat h.attached segment).seesWithin h

/-- Only a member on a segment watches it. -/
theorem attached_of_watched? {scope : IpScope} (h : s.watched? = some scope) : s.Attached := by
  unfold watched? at h
  split at h
  · exact absurd h (by simp)
  · next host posted watch? h_attachment => exact ⟨host, posted, watch?, h_attachment⟩

theorem maintained_watched? (scope : IpScope) :
    EventLoop.Maintained reseat (watched? · = some scope) where
  publish ad _ h := (watches_publish (attached_of_watched? h) ad).scope scope h
  browse scope' _ h := (watches_browse (attached_of_watched? h) serverType scope').scope scope h
  resolve k q _ h := (watched?_resolve (attached_of_watched? h) k q).trans h
  release id _ h := (watches_release (attached_of_watched? h) id).scope scope h
  next h := (watches_next (attached_of_watched? h)).scope scope h
  world segment _ h := (watches_reseat (attached_of_watched? h) segment).scope scope h

/-- An event that is reported is one that the member had to report, or that it sees. -/
theorem mem_of_next (h : s.Attached) {event : Event} (h_event : (Engine.next s).event = some event) :
    event ∈ s.member.queue ∨ (Engine.next s).engine.Sees event := by
  have h_look := watches_look h
  have h_mem : event ∈ s.look.2.member.queue := mem_queue_of_report h_event
  exact (h_look.queue event h_mem).imp_right fun h_sees =>
    h_sees.mono (watches_report h_look.attached).scope

/-- A member reports servers on the scope on which it watches. -/
theorem reports_within_scope : EventLoop.Scoped reseat watched? SeesWithin where
  sound := maintained_seesWithin
  scope := maintained_watched?
  begins h h_browse := watched?_browse h.attached h_browse
  appeared {s k} h h_event := by
    have h_next := watches_next h.attached
    rcases mem_of_next h.attached h_event with h_queue | h_sees
    · -- it was in the queue, and no contact is queued for an `appeared`
      obtain ⟨_, _, h_eq, -⟩ | h_sees := h.queue _ h_queue
      · exact absurd h_eq (by simp)
      · exact (h_sees.mono h_next.scope).2 k rfl
    · exact h_sees.2 k rfl

/-! ### Requests before a loop runs -/

/-- What a member is asked for at its seat before a loop runs over it, and what becomes of its
segment. -/
inductive Request
  | publish (ad : Advertisement)
  | browse (type : String) (scope : IpScope)
  | resolve (k : Sighting) (q : IpScope)
  | release (id : Nat)
  | next
  | reseat (segment : Segment)

def comply (s : Seat) : Request → Seat
  | .publish ad => (s.publish ad).2
  | .browse type scope => (s.browse type scope).2
  | .resolve k q => (s.resolve k q).2
  | .release id => s.release id
  | .next => (Engine.next s).engine
  | .reseat segment => s.reseat segment

/-- A member for a host that was asked for anything before. -/
def after (host : Host) (segment : Segment) (prior : List Request) : Seat :=
  prior.foldl comply { segment, member := .ofHost host }

theorem seesWithin_comply {s : Seat} (h : s.SeesWithin) (request : Request) :
    (s.comply request).SeesWithin := by
  -- one case for each of the requests
  cases request with
  | publish ad => exact (watches_publish h.attached ad).seesWithin h
  | browse type scope => exact (watches_browse h.attached type scope).seesWithin h
  | resolve k q => exact h.resolve k q
  | release id => exact (watches_release h.attached id).seesWithin h
  | next => exact (watches_next h.attached).seesWithin h
  | reseat segment => exact (watches_reseat h.attached segment).seesWithin h

theorem seesWithin_after (host : Host) (segment : Segment) (prior : List Request) :
    (after host segment prior).SeesWithin := by
  induction prior using List.reverseRecOn with
  | nil => exact ⟨⟨host, #[], none, rfl⟩, fun _ h => absurd h List.not_mem_nil⟩
  | append_singleton prior request ih =>
    unfold after at ih ⊢
    rw [List.foldl_append]
    exact seesWithin_comply ih request

end Seat

namespace Sweep

/-- What a sweep asked for is what the contacts suit that its member has to report. -/
structure Served (s : Sweep) (seat : Seat) : Prop where
  seesWithin : seat.SeesWithin
  outstanding : ∀ (id : Nat) k, s.outstanding[id]? = some k → id < seat.member.nextResolution
  found : ∀ (id : Nat) c k, .found id c ∈ seat.member.queue → s.outstanding[id]? = some k →
    k.protocol.includes c.address.scope = true

namespace Served

variable {s s' : Sweep} {seat seat' : Seat}

/-- A sweep that asked for no more, while its member goes on to watch. -/
theorem watches (h : s.Served seat) (h_watches : seat.Watches seat')
    (h_less : ∀ (id : Nat) k, s'.outstanding[id]? = some k → s.outstanding[id]? = some k) :
    s'.Served seat' where
  seesWithin := h_watches.seesWithin h.seesWithin
  outstanding id k ho := Nat.lt_of_lt_of_le (h.outstanding id k (h_less id k ho)) h_watches.next
  found id c k h_mem ho := by
    -- an event that was queued already is right as before
    rcases h_watches.queue _ h_mem with h_old | h_sees
    · exact h.found id c k h_old (h_less id k ho)
    · -- what is new is not a contact
      exact absurd rfl (h_sees.1 id c)

theorem giveUp (h : s.Served seat) : (s.giveUp seat).1.Served (s.giveUp seat).2 := by
  -- each release leaves the seat in order
  have h_released : s.Served (s.giveUp seat).2 :=
    giveUp_induction (P := s.Served)
      (fun _ id h => h.watches (Seat.watches_release h.seesWithin.attached id) fun _ _ ho => ho) h
  refine h_released.watches (.refl h_released.seesWithin.attached) fun id k ho => ?_
  unfold Sweep.giveUp at ho
  split at ho
  · -- nothing is outstanding once it has given up
    exact absurd ho (by simp)
  · exact ho

theorem conclude (h : s.Served seat) (id : Nat) (contact? : Option Contact) :
    (s.conclude id contact? seat).1.Served (s.conclude id contact? seat).2 := by
  -- the release leaves the seat in order
  have h_released : s.Served (s.conclude id contact? seat).2 :=
    conclude_induction (P := s.Served)
      (fun _ id h => h.watches (Seat.watches_release h.seesWithin.attached id) fun _ _ ho => ho) h id
      contact?
  refine h_released.watches (.refl h_released.seesWithin.attached) fun id' k ho => ?_
  rw [getElem?_outstanding_conclude] at ho
  split at ho
  · -- the resolution that has ended is outstanding no longer
    exact absurd ho (by simp)
  · exact ho

/-- **Who appears is resolved** on the family on which it appeared, under a number that is new. -/
theorem resolve (h : s.Served seat) (k : Sighting) {id : Nat}
    (hr : Engine.resolve k k.protocol seat = (.ok id, seat')) :
    ({ s with outstanding := s.outstanding.insert id k } : Sweep).Served seat' := by
  have h_resolved := h.seesWithin.resolve k k.protocol
  obtain ⟨refusal, hr'⟩ | ⟨seat'', hr', -, h_next, h_queue⟩ :=
    Seat.resolve_cases h.seesWithin.attached k k.protocol
  · exact absurd (hr.symm.trans hr') (by simp)
  · obtain ⟨h_id, rfl⟩ := Prod.mk.inj (hr.symm.trans hr')
    obtain rfl := Except.ok.inj h_id
    rw [hr'] at h_resolved
    refine ⟨h_resolved, fun id k' ho => ?_, fun id c k' h_mem ho => ?_⟩
    · rw [h_next]
      rw [Std.ExtTreeMap.getElem?_insert] at ho
      split at ho
      · next h_eq => exact Std.LawfulEqOrd.eq_of_compare h_eq ▸ Nat.lt_succ_self _
      · exact Nat.lt_succ_of_lt (h.outstanding id k' ho)
    · rw [h_queue] at h_mem
      rw [Std.ExtTreeMap.getElem?_insert] at ho
      rcases List.mem_append.mp h_mem with h_old | h_new
      · -- the number of a contact that waits was given before
        obtain ⟨_, _, h_eq, h_lt⟩ | h_sees := h.seesWithin.queue _ h_old
        · obtain ⟨rfl, rfl⟩ := Event.found.inj h_eq
          split at ho
          · next h_same =>
            exact absurd (Std.LawfulEqOrd.eq_of_compare h_same) (Nat.ne_of_gt h_lt)
          · exact h.found id c k' h_old ho
        · exact absurd rfl (h_sees.1 id c)
      · -- a contact that comes up now is for the number that is given now
        obtain ⟨rfl, h_includes⟩ := Seat.resolution_eq_found (List.mem_singleton.mp h_new).symm
        rw [if_pos Std.ReflCmp.compare_self] at ho
        exact Option.some.inj ho ▸ h_includes

theorem handle (h : s.Served seat) (event : Event) :
    (s.handle event seat).1.Served (s.handle event seat).2.1 := by
  have h_observe : (s.observe event seat).1.Served (s.observe event seat).2.1 := by
    -- nothing becomes outstanding, and the seat is not asked
    have h_stays : ∀ s' : Sweep, s'.outstanding = s.outstanding → s'.Served seat := fun s' h_same =>
      h.watches (.refl h.seesWithin.attached) fun id k ho => h_same ▸ ho
    unfold observe
    split
    · -- a sweep that has not started ignores the event
      exact h
    · cases event with
      | appeared k =>
        have h_resolved := h.seesWithin.resolve k k.protocol
        rcases hr : Engine.resolve k k.protocol seat with ⟨refusal | id, seat'⟩
        · -- a refusal leaves the seat as it was
          simp only [hr]
          obtain ⟨_, hr'⟩ | ⟨_, hr', -⟩ := Seat.resolve_cases h.seesWithin.attached k k.protocol
          · obtain ⟨-, rfl⟩ := Prod.mk.inj (hr.symm.trans hr')
            exact h
          · exact absurd (hr.symm.trans hr') (by simp)
        · -- what is accepted joins what is outstanding
          simp only [hr]
          exact h.resolve k hr
      | browseFailed reason => exact h.giveUp
      | _ => exact h_stays _ rfl
  -- two events end a resolution, the others are observed
  cases event with
  | found id c => exact h.conclude id (some c)
  | unresolved id reason => exact h.conclude id none
  | _ => exact h_observe

end Served
end Sweep

namespace EventLoop

/-- **Invariant preservation.** Every input leaves a sweep served by its member. -/
theorem served_step (input : Input Segment) (l : EventLoop Seat) (h : l.sweep.Served l.engine) :
    (l.step Seat.reseat input).1.sweep.Served (l.step Seat.reseat input).1.engine := by
  -- inputs that leave what is outstanding, while the member goes on to watch
  have h_keep : ∀ {s s' : Sweep} {seat seat' : Seat}, s.Served seat →
      (seat.Attached → seat.Watches seat') → s'.outstanding = s.outstanding → s'.Served seat' :=
    fun h h_watches h_same => h.watches (h_watches h.seesWithin.attached) fun _ _ ho => h_same ▸ ho
  refine step_invariant (P := fun l => l.sweep.Served l.engine) ?_ ?_ ?_ ?_ ?_ h input
  · exact fun h hs he => by rw [hs, he]; exact h
  · -- of the commands only publishing and browsing ask the member
    intro l ticket command h
    obtain ⟨hs, he⟩ | ⟨ad, hs, he⟩ | ⟨scope, hs, he⟩ | ⟨scope, engine, hb, hs, he⟩ :=
      obey_cases ticket command l <;> rw [hs, he]
    · exact h
    · exact h_keep h (Seat.watches_publish · ad) rfl
    · exact h_keep h (Seat.watches_browse · serverType scope) rfl
    · have h_browse := fun ha : l.engine.Attached => Seat.watches_browse ha serverType scope
      rw [show l.engine.browse serverType scope = (.ok (), engine) from hb] at h_browse
      exact h_keep h h_browse rfl
  · exact fun h => h_keep h Seat.watches_next rfl
  · -- what the event makes of the sweep: nothing, giving up, or what it does by itself
    intro l event h
    obtain ⟨hs, he⟩ | ⟨-, hs, he⟩ | ⟨hs, he⟩ := handle_cases event l <;> rw [hs, he]
    · exact h
    · exact h.giveUp
    · exact h.handle event
  · exact fun segment h => h_keep h (Seat.watches_reseat · segment) rfl

theorem seat_findsWithin {seat : Seat} (h : seat.SeesWithin) : FindsWithin Seat.reseat seat := by
  intro inputs id c k h_event ho
  have h_served : ((ofEngine seat).after Seat.reseat inputs).1.sweep.Served
      ((ofEngine seat).after Seat.reseat inputs).1.engine :=
    after_invariant Seat.reseat (P := fun l => l.sweep.Served l.engine)
      ⟨h, fun id k ho => absurd ho (by simp [ofEngine, Sweep.fresh]),
        fun id c k _ ho => absurd ho (by simp [ofEngine, Sweep.fresh])⟩ served_step inputs
  -- a contact is reported from the queue only, since nobody sees a contact
  rcases Seat.mem_of_next h_served.seesWithin.attached h_event with h_queue | h_sees
  · exact h_served.found id c k h_queue ho
  · exact absurd rfl (h_sees.1 id c)

/-- **Protocol pinning.** A loop runs over a responder, or over a member for a host on a segment,
that was asked for anything before.  Commands come in any order; packets arrive and the system
changes, and the segment becomes any other.  If a URL is answered under a version, then some query
started the sweep, for some scope; the version is a single family that this scope reaches; and the
URL leads to an address of this family, in whatever way it is read. -/
theorem pinned :
    (∀ (os : OperatingSystem) (settings : Settings) (opened : Opened)
      (prior : List Responder.Input) (inputs : List (Input Responder.Happening)),
      AnswersPinned Responder.undergo
        (ofEngine ((Responder.Dealings.ofResponder (.on os settings opened)).after prior).responder)
        inputs) ∧
    ∀ (host : Host) (segment : Segment) (prior : List Seat.Request) (inputs : List (Input Segment)),
      AnswersPinned Seat.reseat (ofEngine (Seat.after host segment prior)) inputs := by
  -- both engines are set up so that their reports stay within the scope
  refine ⟨fun os settings opened prior inputs => ?_, fun host segment prior inputs => ?_⟩
  · exact Responder.reports_within_scope.answersPinned
      (Responder.seesWithin_after os settings opened prior)
      (Responder.findsWithin_after os settings opened prior) inputs
  · have h_sees := Seat.seesWithin_after host segment prior
    exact Seat.reports_within_scope.answersPinned h_sees (seat_findsWithin h_sees) inputs

end EventLoop
end ServiceDiscovery
