import ServiceDiscovery.Proofs.Multicast.Spellings
import ServiceDiscovery.Proofs.Responder.Fates
import ServiceDiscovery.Proofs.Responder.Learning

/-!
# Resolutions that expire

A resolution that is pending waits for a contact that is not known yet.  What is known changes with
each response, with each query that lets peers age, and once as browsing begins; what is pending
changes with requests, with responses and as time goes on.  These are different operations, so that
each of them leaves no contact known that is waited for is an invariant of all of them
(`Responder.Seeks`).

The same is said of a resolution whose time is up, until that is reported: nothing is taken in while
something is to be reported.  So whoever is told that a resolution has timed out is told so while
its contact is not known (`Responder.expires_unknown`).
-/

namespace ServiceDiscovery

open Dns (Packet Message)

/-- Aging makes nobody known. -/
theorem PeerTable.contact?_age {t : PeerTable} {k : Sighting} {q : IpScope}
    (h : t.contact? k q = none) (tolerated : UInt8) : (t.age tolerated).1.contact? k q = none := by
  have h_services : (t.age tolerated).1.services = t.services ∧
      (t.age tolerated).1.addresses = t.addresses := by
    unfold age
    split <;> exact ⟨rfl, rfl⟩
  unfold contact? at h ⊢
  rw [h_services.1, h_services.2]
  cases h_peer' : (t.age tolerated).1.peers[k]? with
  | none => rfl
  | some peer' =>
    -- an entry that is left has its name from before
    obtain ⟨peer, h_peer, h_name⟩ := name_age h_peer'
    rw [h_peer] at h
    simp only [Option.bind_eq_bind, Option.bind_some, h_name] at h ⊢
    exact h

namespace Responder

variable {asked asked' : Nat → Sighting → IpScope → Prop} {r r' : Responder}

/-! ### What is not known -/

/-- While browsing, it is not known how to reach an instance on a family. -/
def Misses (k : Sighting) (q : IpScope) (r : Responder) : Prop :=
  ∃ t, r.table? = some t ∧ t.contact? k q = none

/-- What a responder seeks, or has just given up to seek, is not known.  Resolutions are pending for
what was asked. -/
structure Seeks (asked : Nat → Sighting → IpScope → Prop) (r : Responder) : Prop where
  pending : ∀ p ∈ r.resolving, asked p.id p.sighting p.protocol ∧ r.Misses p.sighting p.protocol
  expired : ∀ id text, .unresolved id text ∈ r.events →
    text = "timed out" ∧ ∃ k q, asked id k q ∧ r.Misses k q

theorem misses_of_table (ht : r'.table? = r.table?) (k : Sighting) (q : IpScope)
    (h : r.Misses k q) : r'.Misses k q := by
  unfold Misses
  rwa [ht]

namespace Seeks

/-- Where no resolution expires, and nobody becomes known. -/
theorem of_append (h : r.Seeks asked) (events : List Event)
    (h_none : ∀ id text, .unresolved id text ∉ events) (he : r'.events = r.events ++ events)
    (hr : ∀ p ∈ r'.resolving, p ∈ r.resolving) (hm : ∀ k q, r.Misses k q → r'.Misses k q) :
    r'.Seeks asked where
  pending p hp := (h.pending p (hr p hp)).imp_right (hm _ _)
  expired id text h_event := by
    rw [he] at h_event
    -- an event that a resolution is over was queued before
    obtain ⟨h_text, k, q, h_asked, h_misses⟩ :=
      h.expired id text ((List.mem_append.mp h_event).resolve_right (h_none id text))
    exact ⟨h_text, k, q, h_asked, hm k q h_misses⟩

theorem of_eq (h : r.Seeks asked) (he : r'.events = r.events) (hr : r'.resolving = r.resolving)
    (ht : r'.table? = r.table?) : r'.Seeks asked :=
  h.of_append [] (fun _ _ => List.not_mem_nil) (by rw [he, List.append_nil]) (hr ▸ fun _ h => h)
    (misses_of_table ht)

theorem mono (h : r.Seeks asked) (h_asked : ∀ id k q, asked id k q → asked' id k q) :
    r.Seeks asked' where
  pending p hp := (h.pending p hp).imp_left (h_asked _ _ _)
  expired id text h_event := by
    obtain ⟨h_text, k, q, h_id, h_misses⟩ := h.expired id text h_event
    exact ⟨h_text, k, q, h_asked id k q h_id, h_misses⟩

/-! ### Times that come -/

theorem announceDue (h : r.Seeks asked) (now : Nat) : (r.announceDue now).Seeks asked := by
  refine announceDue_induction (fun r' announcements h => h.of_eq rfl rfl rfl)
    (fun r' place h => ?_) now h
  obtain h_eq | ⟨service, -, h_eq | h_eq⟩ := announce_cases place r' <;> rw [h_eq]
  · exact h
  · exact h.of_eq rfl rfl rfl
  · exact h.of_append [.established] (by simp) rfl (fun _ hp => hp) (misses_of_table rfl)

/-- What a table reports ends no resolution. -/
theorem unresolved_not_mem_reports {t t' : PeerTable} {events : List Event}
    (h : t.Reports t' events) (id : Nat) (text : String) : .unresolved id text ∉ events := by
  intro h_mem
  obtain ⟨k, h_eq | h_eq⟩ := h.about _ h_mem <;> exact absurd h_eq (by simp)

theorem queryDue (h : r.Seeks asked) (now : Nat) : (r.queryDue now).Seeks asked := by
  obtain h_eq | ⟨b, hb, -, h_eq⟩ := queryDue_cases now r <;> rw [h_eq]
  · exact h
  · refine h.of_append _ (unresolved_not_mem_reports (PeerTable.reports_age _ _)) rfl
      (fun _ hp => hp) fun k q ⟨t, ht, h_none⟩ => ?_
    obtain rfl := Option.some.inj ((table?_of_browsing hb).symm.trans ht)
    exact ⟨_, rfl, PeerTable.contact?_age h_none r.settings.tolerated⟩

theorem settleDue (h : r.Seeks asked) (now : Nat) : (r.settleDue now).Seeks asked := by
  obtain h_eq | ⟨b, hb, h_eq⟩ := settleDue_cases now r <;> rw [h_eq]
  · exact h
  · exact h.of_append [.cacheExhausted, .allForNow] (by simp) rfl (fun _ hp => hp)
      (misses_of_table (table?_of_browsing hb).symm)

/-- What expires was pending, so its contact is not known. -/
theorem expireDue (h : r.Seeks asked) (now : Nat) : (r.expireDue now).Seeks asked where
  pending p hp := h.pending p (List.mem_filter.mp hp).1
  expired id text h_event := by
    obtain h_old | h_new := List.mem_append.mp h_event
    · exact h.expired id text h_old
    · -- a resolution that is over was pending until now, so its contact is still missing
      obtain ⟨p, hp, h_eq⟩ := List.mem_map.mp h_new
      obtain ⟨rfl, rfl⟩ := Event.unresolved.inj h_eq
      obtain ⟨h_asked, h_misses⟩ := h.pending p (List.mem_filter.mp hp).1
      exact ⟨rfl, p.sighting, p.protocol, h_asked, h_misses⟩

/-! ### Packets -/

theorem flushSome (h : r.Seeks asked) (count : Nat) : (r.flushSome count).2.Seeks asked := by
  obtain h_eq | ⟨t, -, h_eq⟩ := flushSome_cases count r <;> rw [h_eq]
  · exact h
  · exact h.of_eq rfl rfl rfl

theorem noteClaims (h : r.Seeks asked) (m : Message) : (r.noteClaims m).Seeks asked := by
  refine h.of_append _ (fun id text h_mem => ?_) rfl (fun _ hp => hp) (misses_of_table rfl)
  obtain ⟨_, -, h_eq⟩ := List.mem_map.mp h_mem
  exact absurd h_eq (by simp)

/-- What is still pending when known contacts have been found is not known.  Nothing is to be
reported before. -/
theorem takeIn (h : r.Seeks asked) (m : Message) (source : SocketAddress) (he : r.events = []) :
    (r.takeIn m source).Seeks asked := by
  have h_claims := h.noteClaims m
  obtain h_eq | ⟨b, hb, -, h_eq⟩ := takeIn_cases m source r <;> rw [h_eq]
  · exact h_claims
  · refine ⟨fun p hp => ?_, fun id text h_event => ?_⟩
    · -- what is still pending is what the table has no contact for
      obtain ⟨hp, h_none⟩ := List.mem_filter.mp hp
      exact ⟨(h_claims.pending p hp).1, _, rfl, Option.isNone_iff_eq_none.mp h_none⟩
    · -- claims, what the table reports and contacts that are found end no resolution in vain
      exfalso
      obtain h_event | h_found := List.mem_append.mp h_event
      · obtain h_event | h_reports := List.mem_append.mp h_event
        · obtain h_event | h_claim := List.mem_append.mp h_event
          · rw [he] at h_event
            exact absurd h_event List.not_mem_nil
          · obtain ⟨_, -, h_eq⟩ := List.mem_map.mp h_claim
            exact absurd h_eq (by simp)
        · exact unresolved_not_mem_reports (PeerTable.reports_takeIn _ _ _) id text h_reports
      · obtain ⟨p, -, h_found⟩ := List.mem_filterMap.mp h_found
        obtain ⟨contact, -, h_eq⟩ := Option.map_eq_some_iff.mp h_found
        exact absurd h_eq (by simp)

theorem receive (h : r.Seeks asked) (octets : Packet) (source : SocketAddress)
    (he : r.events = []) : (r.receive octets source).Seeks asked := by
  obtain h_eq | ⟨m, -, -, ⟨-, h_eq⟩ | ⟨-, h_eq⟩⟩ := receive_cases octets source r <;> rw [h_eq]
  · exact h
  · exact h.takeIn m source he
  · exact h.of_eq rfl rfl rfl

end Seeks

/-- What a responder seeks is not known, whatever it does by itself. -/
theorem upheld_seeks (asked : Nat → Sighting → IpScope → Prop) : Upheld (Seeks asked) where
  announceDue now _ h := h.announceDue now
  queryDue now _ _ h := h.queryDue now
  settleDue now _ h := h.settleDue now
  expireDue now _ h := h.expireDue now
  flushSome count _ h := h.flushSome count
  receive octets source _ he h := h.receive octets source he
  attach ha h := by
    obtain ⟨t, -, rfl⟩ | ⟨t, -, rfl⟩ := attach_cases ha
    · exact h
    · exact h.of_append [.engine .running] (by simp) rfl (fun _ hp => hp) (misses_of_table rfl)
  fail h := h.of_append [.engine .failure] (by simp) rfl (fun _ hp => hp) (misses_of_table rfl)
  machine _ _ h := h.of_eq rfl rfl rfl

/-! ### Requests -/

namespace Seeks

theorem publish (h : r.Seeks asked) (ad : Advertisement) : (r.publish ad).2.Seeks asked := by
  obtain ⟨refusal, h_eq⟩ | ⟨host, service, -, -, -, h_eq⟩ := publish_cases ad r <;> rw [h_eq]
  · exact h
  · exact h.of_eq rfl rfl rfl

/-- Before browsing begins, nothing is sought. -/
theorem browse (h : r.Seeks asked) (type : String) (scope : IpScope) :
    (r.browse type scope).2.Seeks asked := by
  obtain ⟨refusal, h_eq⟩ | ⟨b, -, h_free, -, h_eq⟩ := browse_cases type scope r <;> rw [h_eq]
  · exact h
  · -- there was no table before, so nothing was missing
    have h_nothing : ∀ k q, ¬ r.Misses k q := by
      rintro k q ⟨t, ht, -⟩
      rw [table?, h_free] at ht
      exact absurd ht (by simp)
    exact h.of_append [] (fun _ _ => List.not_mem_nil) (List.append_nil _).symm (fun _ hp => hp)
      fun k q h_misses => absurd h_misses (h_nothing k q)

/-- A resolution is pending from its beginning only if its contact is not known. -/
theorem resolve (h : r.Seeks asked) (k : Sighting) (q : IpScope)
    (h_asked : ∀ id, (r.resolve k q).1 = .ok id → asked id k q) : (r.resolve k q).2.Seeks asked := by
  obtain ⟨_, h_eq⟩ | ⟨_, h_eq⟩ | ⟨b, -, hb, ⟨c, -, h_eq⟩ | ⟨packet, h_none, -, h_eq⟩⟩ :=
    resolve_cases k q r <;> rw [h_eq] at h_asked ⊢
  · exact h
  · exact h.of_eq rfl rfl rfl
  · -- the contact is found at once
    exact h.of_append [.found r.nextResolution c] (by simp) rfl (fun _ hp => hp)
      (misses_of_table rfl)
  · refine ⟨fun p hp => ?_, fun id text h_event => h.expired id text h_event⟩
    obtain h_old | h_new := List.mem_append.mp hp
    · exact h.pending p h_old
    · -- the new resolution was accepted, and the table has no contact for it
      rw [List.mem_singleton.mp h_new]
      exact ⟨h_asked _ rfl, b.table, table?_of_browsing hb, h_none⟩

/-- What is released is not sought any more. -/
theorem release (h : r.Seeks asked) (id : Nat) : (r.release id).Seeks asked where
  pending p hp := h.pending p (List.mem_filter.mp hp).1
  expired id' text h_event := h.expired id' text (List.mem_filter.mp h_event).1

/-- What is reported is not to be reported any more. -/
theorem rest {event : Event} {events : List Event} (h : r.Seeks asked)
    (he : r.events = event :: events) : ({ r with events } : Responder).Seeks asked where
  pending := h.pending
  expired id text h_event := h.expired id text (he ▸ List.mem_cons_of_mem event h_event)

end Seeks

/-! ### Runs -/

/-- In some inputs, a resolution of an instance on a family was accepted under a number. -/
def Asked (start : Responder) (inputs : List Input) (id : Nat) (k : Sighting) (q : IpScope) : Prop :=
  ∃ before later, inputs = before ++ .resolve k q :: later ∧
    (((Dealings.ofResponder start).after before).responder.resolve k q).1 = .ok id

theorem Asked.append {start : Responder} {inputs : List Input} {id : Nat} {k : Sighting}
    {q : IpScope} (h : Asked start inputs id k q) (more : List Input) :
    Asked start (inputs ++ more) id k q := by
  obtain ⟨before, later, rfl, h_ok⟩ := h
  exact ⟨before, later ++ more, by simp, h_ok⟩

theorem seeks_after (os : OperatingSystem) (settings : Settings) (opened : Opened)
    (inputs : List Input) :
    let start := Responder.on os settings opened
    ((Dealings.ofResponder start).after inputs).responder.Seeks (Asked start inputs) := by
  intro start
  induction inputs using List.reverseRecOn with
  -- a new responder has no resolution
  | nil => exact ⟨fun _ hp => absurd hp List.not_mem_nil, fun _ _ h => absurd h List.not_mem_nil⟩
  | append_singleton inputs input ih =>
    have h := ih.mono fun id k q h => h.append [input]
    rw [Dealings.after_concat]
    unfold Dealings.advance
    generalize h_before : ((Dealings.ofResponder start).after inputs).responder = r at h
    show (r.step input).1.Seeks _
    cases input with
    | publish ad => exact h.publish ad
    | browse type scope => exact h.browse type scope
    | resolve k q =>
      -- the resolution that is begun with this input was asked for with this input
      rw [(step_resolve k q r).1]
      exact h.resolve k q fun id h_ok => ⟨inputs, [], rfl, h_before ▸ h_ok⟩
    | release id => exact h.release id
    | poll =>
      obtain ⟨r', h', h_step | ⟨event, events, he, h_step⟩⟩ := step_poll ((upheld_seeks _).turn h)
      · rw [h_step]
        exact h'
      · -- what is left in line was in line before the report
        rw [h_step]
        exact h'.rest he
    | outside happening => exact (upheld_seeks _).undergo happening h

/-- **No resolution times out while its contact is known.** A responder is set up on sockets, and
then asked for anything in any order, while packets arrive, the clock goes on and the system refuses
what it likes.

At any point, also of a turn that is just going on, the contact that a pending resolution was asked
for is not known.  When a resolution times out its contact is not known either, and that is so for
as long as the event waits to be reported, and still when it is reported.  No resolution ends in
vain but by timing out. -/
theorem expires_unknown (os : OperatingSystem) (settings : Settings) (opened : Opened)
    (inputs : List Input) :
    let start := Responder.on os settings opened
    let r := ((Dealings.ofResponder start).after inputs).responder
    (∀ r', r.Moves r' →
      (∀ p ∈ r'.resolving, Asked start inputs p.id p.sighting p.protocol ∧
        r'.Misses p.sighting p.protocol) ∧
      ∀ id text, .unresolved id text ∈ r'.events →
        text = "timed out" ∧ ∃ k q, Asked start inputs id k q ∧ r'.Misses k q) ∧
    ∀ id text, r.turn.event = some (.unresolved id text) →
      text = "timed out" ∧ ∃ k q, Asked start inputs id k q ∧ r.turn.engine.Misses k q := by
  intro start r
  have h : r.Seeks (Asked start inputs) := seeks_after os settings opened inputs
  refine ⟨fun r' h_moves => ?_, fun id text h_event => ?_⟩
  · -- the invariant holds at every point of the next turn
    have h' := h_moves.keep (upheld_seeks (Asked start inputs)).move h
    exact ⟨h'.pending, h'.expired⟩
  · obtain ⟨r', h', ⟨h_none, -⟩ | ⟨event, events, he, h_some, h_engine⟩⟩ :=
      (upheld_seeks (Asked start inputs)).turn h
    · exact absurd (h_event.symm.trans h_none) (by simp)
    · -- what is reported was the first event in line
      obtain rfl := Option.some.inj (h_some.symm.trans h_event)
      rw [h_engine]
      exact h'.expired id text (he ▸ List.mem_cons_self ..)

end Responder
end ServiceDiscovery
