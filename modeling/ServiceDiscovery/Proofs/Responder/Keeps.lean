import ServiceDiscovery.Proofs.Responder.Waking

/-!
# What a responder keeps

A responder is asked for things that it can only report later: that a resolution has ended, that
what was heard is all there is, that it has failed.  Until then it keeps a debt, first as a time at
which it will act, then as an event in its queue.  Nothing that a responder does may lose a debt on
the way from one to the other.

`Responder.Keeps r r'` says that `r'` still has all debts of `r`: events stay queued, a resolution
that had not ended is still there or its end is queued, a time to settle is still set or the end of
settling is queued, and whoever fails queues that.  It is a preorder, and everything a responder
does by itself or on request is one of its steps; the exceptions are releasing a resolution, which
forgives that one debt (`Responder.Owes.release`), and reporting the first event, which pays it
(`Responder.Owes.rest`).  So a turn keeps every debt but the one it reports
(`Responder.reports_turn`).

What is asked for becomes a debt when it is accepted (`Responder.browse_ok`,
`Responder.resolve_ok`).  As long as it is one, its event is queued or the responder wakes up in
time for it (`Responder.Owes.wakes`, `Responder.Settles.wakes`).
-/

namespace ServiceDiscovery
namespace Responder

open Dns (Packet Message)

/-- All debts of one responder are debts of another. -/
structure Keeps (r r' : Responder) : Prop where
  /-- What is to be reported stays so. -/
  events : ∀ event ∈ r.events, event ∈ r'.events
  /-- A resolution that has not ended is still there, or its end is to be reported. -/
  resolving : ∀ p ∈ r.resolving,
    p ∈ r'.resolving ∨ ∃ event ∈ r'.events, event.resolution? = some p.id
  /-- What settles still does, or that it has settled is to be reported. -/
  settling : (∃ b, r.browsing = some b ∧ b.settlesAt.isSome) →
    (∃ b, r'.browsing = some b ∧ b.settlesAt.isSome) ∨ .cacheExhausted ∈ r'.events
  /-- A new failure is to be reported. -/
  failing : r'.state = .failure → r.state = .failure ∨ .engine .failure ∈ r'.events

variable {r r' r'' : Responder}

namespace Keeps

theorem refl (r : Responder) : r.Keeps r where
  events _ h := h
  resolving _ h := .inl h
  settling h := .inl h
  failing h := .inl h

theorem trans (h : r.Keeps r') (h' : r'.Keeps r'') : r.Keeps r'' where
  events event he := h'.events event (h.events event he)
  resolving p hp := by
    rcases h.resolving p hp with hp | ⟨event, he, hid⟩
    · exact h'.resolving p hp
    · -- once its end is queued, it stays queued
      exact .inr ⟨event, h'.events event he, hid⟩
  settling hb := by
    rcases h.settling hb with hb | he
    · exact h'.settling hb
    · exact .inr (h'.events _ he)
  failing hs := by
    rcases h'.failing hs with hs | he
    · rcases h.failing hs with hs | he
      · exact .inl hs
      · exact .inr (h'.events _ he)
    · exact .inr he

/-- Reporting more later, and nothing else, loses nothing. -/
theorem of_append (events : List Event) (he : r'.events = r.events ++ events)
    (hr : r'.resolving = r.resolving) (hb : r'.browsing = r.browsing) (hs : r'.state = r.state) :
    r.Keeps r' where
  events event h := by rw [he]; exact List.mem_append_left _ h
  resolving p hp := .inl (hr ▸ hp)
  settling h := .inl (hb ▸ h)
  failing h := .inl (hs ▸ h)

/-- What changes no debt loses none. -/
theorem of_eq (he : r'.events = r.events) (hr : r'.resolving = r.resolving)
    (hb : r'.browsing = r.browsing) (hs : r'.state = r.state) : r.Keeps r' :=
  of_append [] (by rw [he, List.append_nil]) hr hb hs

/-- Neither does learning more about what is browsed for, as long as it settles at the same time. -/
theorem of_browsing {b b' : Browsing} (events : List Event) (he : r'.events = r.events ++ events)
    (hr : r'.resolving = r.resolving) (hb : r.browsing = some b) (hb' : r'.browsing = some b')
    (h_time : b'.settlesAt = b.settlesAt) (hs : r'.state = r.state) : r.Keeps r' where
  events event h := by rw [he]; exact List.mem_append_left _ h
  resolving p hp := .inl (hr ▸ hp)
  settling h := by
    obtain ⟨b₀, h₀, h_some⟩ := h
    -- there is only one thing that is browsed for
    rw [hb, Option.some.injEq] at h₀
    exact .inl ⟨b', hb', by rw [h_time, h₀]; exact h_some⟩
  failing h := .inl (hs ▸ h)

end Keeps

/-! ### Times that come -/

theorem keeps_announce (place : Nat) (r : Responder) : r.Keeps (r.announce place) := by
  obtain h_eq | ⟨service, -, h_eq | h_eq⟩ := announce_cases place r <;> rw [h_eq]
  · exact .refl r
  · exact .of_eq rfl rfl rfl rfl
  · exact .of_append [.established] rfl rfl rfl rfl

theorem keeps_announceDue (now : Nat) (r : Responder) : r.Keeps (r.announceDue now) := by
  refine announceDue_induction (P := r.Keeps) ?_ ?_ now (.refl r)
  · exact fun _ _ h => h.trans (.of_eq rfl rfl rfl rfl)
  · exact fun r' place h => h.trans (keeps_announce place r')

/-- Asking again does not change when what is heard settles. -/
theorem keeps_queryDue (now : Nat) (r : Responder) : r.Keeps (r.queryDue now) := by
  obtain h_eq | ⟨b, hb, -, h_eq⟩ := queryDue_cases now r <;> rw [h_eq]
  · exact .refl r
  · exact .of_browsing _ rfl rfl hb rfl rfl rfl

/-- Settling turns the time at which it was due into an event. -/
theorem keeps_settleDue (now : Nat) (r : Responder) : r.Keeps (r.settleDue now) := by
  obtain h_eq | ⟨b, -, h_eq⟩ := settleDue_cases now r <;> rw [h_eq]
  · exact .refl r
  · -- the sweep is no longer settling, and its end is queued
    exact {
      events := fun _ h => List.mem_append_left _ h
      resolving := fun _ h => .inl h
      settling := fun _ => .inr (List.mem_append_right _ (List.mem_cons_self ..))
      failing := fun h => .inl h }

/-- A resolution whose time is up turns into the event that it has ended. -/
theorem keeps_expireDue (now : Nat) (r : Responder) : r.Keeps (r.expireDue now) where
  events event h := List.mem_append_left _ h
  resolving p hp := by
    by_cases hd : now < p.deadline
    · exact .inl (List.mem_filter.mpr ⟨hp, decide_eq_true hd⟩)
    · -- not ahead of time is due
      refine .inr ⟨.unresolved p.id "timed out", List.mem_append_right _ ?_, rfl⟩
      have h_due : p ∈ r.resolving.filter (·.deadline ≤ now) :=
        List.mem_filter.mpr ⟨hp, decide_eq_true (Nat.le_of_not_lt hd)⟩
      exact List.mem_map.mpr ⟨p, h_due, rfl⟩
  settling h := .inl h
  failing h := .inl h

/-! ### Packets -/

theorem keeps_flushSome (count : Nat) (r : Responder) : r.Keeps (r.flushSome count).2 := by
  obtain h_eq | ⟨t, -, h_eq⟩ := flushSome_cases count r <;> rw [h_eq]
  · exact .refl r
  · exact .of_eq rfl rfl rfl rfl

theorem keeps_noteClaims (m : Message) (r : Responder) : r.Keeps (r.noteClaims m) :=
  .of_append _ rfl rfl rfl rfl

/-- A resolution for which all is known turns into the event that it has succeeded. -/
theorem keeps_completeKnown (table : PeerTable) (r : Responder) :
    r.Keeps (r.completeKnown table) where
  events event h := List.mem_append_left _ h
  resolving p hp := by
    -- what is completed is found, and everything else is still pending
    cases hc : table.contact? p.sighting p.protocol with
    | none => exact .inl (List.mem_filter.mpr ⟨hp, by simp [hc]⟩)
    | some contact =>
      refine .inr ⟨.found p.id contact, List.mem_append_right _ ?_, rfl⟩
      exact List.mem_filterMap.mpr ⟨p, hp, by simp [hc]⟩
  settling h := .inl h
  failing h := .inl h

theorem keeps_takeIn (m : Message) (source : SocketAddress) (r : Responder) :
    r.Keeps (r.takeIn m source) := by
  refine (keeps_noteClaims m r).trans ?_
  obtain h_eq | ⟨b, hb, -, h_eq⟩ := takeIn_cases m source r <;> rw [h_eq]
  · exact .refl _
  · refine .trans ?_ (keeps_completeKnown _ _)
    exact .of_browsing _ rfl rfl hb rfl rfl rfl

theorem keeps_receive (octets : Packet) (source : SocketAddress) (r : Responder) :
    r.Keeps (r.receive octets source) := by
  obtain h_eq | ⟨m, -, -, ⟨-, h_eq⟩ | ⟨-, h_eq⟩⟩ := receive_cases octets source r <;> rw [h_eq]
  · exact .refl r
  · exact keeps_takeIn m source r
  · exact .of_eq rfl rfl rfl rfl

/-! ### Turns -/

/-- A responder that attaches its sockets is running. -/
theorem keeps_attach (h : r.attach = .ok r') : r.Keeps r' := by
  obtain ⟨t, -, rfl⟩ | ⟨t, -, rfl⟩ := attach_cases h
  · exact .refl _
  · -- whatever the state was, it is running now, which is no failure
    exact {
      events := fun _ h => List.mem_append_left _ h
      resolving := fun _ h => .inl h
      settling := fun h => .inl h
      failing := fun h => absurd h (by simp) }

/-- Failing is reported, and forgives nothing. -/
theorem keeps_fail (r : Responder) : r.Keeps r.fail where
  events _ h := List.mem_append_left _ h
  resolving _ h := .inl h
  settling h := .inl h
  failing _ := .inr (List.mem_append_right _ (List.mem_singleton_self _))

/-- Everything a responder does by itself keeps its debts. -/
theorem respected_keeps : Respected Keeps where
  refl := .refl
  trans := .trans
  announceDue := keeps_announceDue
  queryDue := keeps_queryDue
  settleDue := keeps_settleDue
  expireDue := keeps_expireDue
  flushSome := keeps_flushSome
  receive := keeps_receive
  attach := keeps_attach
  fail := keeps_fail
  machine _ _ := .of_eq rfl rfl rfl rfl

/-- **A turn pays one debt and keeps the others.** -/
theorem reports_turn (r : Responder) : ReportsAlong Keeps r r.turn :=
  respected_keeps.turn r

/-! ### Requests -/

theorem keeps_publish (ad : Advertisement) (r : Responder) : r.Keeps (r.publish ad).2 := by
  obtain ⟨refusal, h_eq⟩ | ⟨host, service, -, -, -, h_eq⟩ := publish_cases ad r <;> rw [h_eq]
  · exact .refl r
  · exact .of_eq rfl rfl rfl rfl

theorem keeps_browse (type : String) (scope : IpScope) (r : Responder) :
    r.Keeps (r.browse type scope).2 := by
  obtain ⟨refusal, h_eq⟩ | ⟨b, -, h_free, -, h_eq⟩ := browse_cases type scope r <;> rw [h_eq]
  · exact .refl r
  · -- nothing was browsed for, so nothing that settles is replaced
    exact {
      events := fun _ h => h
      resolving := fun _ h => .inl h
      settling := fun ⟨b, hb, _⟩ => absurd (h_free.symm.trans hb) (by simp)
      failing := fun h => .inl h }

theorem keeps_resolve (sighting : Sighting) (protocol : IpScope) (r : Responder) :
    r.Keeps (r.resolve sighting protocol).2 := by
  obtain ⟨_, h_eq⟩ | ⟨_, h_eq⟩ | ⟨b, -, -, ⟨c, -, h_eq⟩ | ⟨packet, -, -, h_eq⟩⟩ :=
    resolve_cases sighting protocol r <;> rw [h_eq]
  · exact .refl r
  · exact .of_eq rfl rfl rfl rfl
  · exact .of_append [.found r.nextResolution c] rfl rfl rfl rfl
  · -- the new resolution is behind the others
    exact {
      events := fun _ h => h
      resolving := fun _ h => .inl (List.mem_append_left _ h)
      settling := fun h => .inl h
      failing := fun h => .inl h }

/-! ### Debts -/

/-- The end of a resolution is still to come. -/
def Owes (id : Nat) (r : Responder) : Prop :=
  (∃ p ∈ r.resolving, p.id = id) ∨ ∃ event ∈ r.events, event.resolution? = some id

/-- That what was heard is all there is is still to come. -/
def Settles (r : Responder) : Prop :=
  (∃ b, r.browsing = some b ∧ b.settlesAt.isSome) ∨ .cacheExhausted ∈ r.events

theorem Keeps.owes {id : Nat} (h : r.Keeps r') (h_owes : r.Owes id) : r'.Owes id := by
  rcases h_owes with ⟨p, hp, rfl⟩ | ⟨event, he, hid⟩
  · rcases h.resolving p hp with hp | h_ended
    · exact .inl ⟨p, hp, rfl⟩
    · exact .inr h_ended
  · exact .inr ⟨event, h.events event he, hid⟩

theorem Keeps.settles (h : r.Keeps r') (h_settles : r.Settles) : r'.Settles := by
  rcases h_settles with h_time | he
  · exact h.settling h_time
  · exact .inr (h.events _ he)

/-- What browsing begins with has a time to settle. -/
theorem settlesAt_beginBrowsing {type : String} {scope : IpScope} {b : Browsing}
    (h : r.beginBrowsing type scope = .ok b) :
    b.settlesAt = some (r.machine.now + r.settings.settleAfter) := by
  obtain ⟨name, query, -, -, rfl⟩ := beginBrowsing_ok h
  rfl

/-- Browsing that is accepted will settle, and is not accepted in failure. -/
theorem browse_ok {type : String} {scope : IpScope} (h : r.browse type scope = (.ok (), r')) :
    r'.Settles ∧ r'.state ≠ .failure := by
  obtain ⟨refusal, h_eq⟩ | ⟨b, h_state, -, hb, h_eq⟩ := browse_cases type scope r <;> rw [h_eq] at h
  · exact absurd h (by simp)
  · obtain ⟨-, rfl⟩ := Prod.mk.inj h
    exact ⟨.inl ⟨b, rfl, by rw [settlesAt_beginBrowsing hb]; rfl⟩, h_state⟩

/-- A resolution that is accepted is owed, and is not accepted in failure. -/
theorem resolve_ok {sighting : Sighting} {protocol : IpScope} {id : Nat}
    (h : r.resolve sighting protocol = (.ok id, r')) : r'.Owes id ∧ r'.state ≠ .failure := by
  obtain ⟨_, h_eq⟩ | ⟨_, h_eq⟩ | ⟨b, h_state, -, ⟨c, -, h_eq⟩ | ⟨packet, -, -, h_eq⟩⟩ :=
    resolve_cases sighting protocol r <;> rw [h_eq] at h
  · exact absurd h (by simp)
  · exact absurd h (by simp)
  · -- the contact is known, so the end of the resolution is queued at once
    obtain ⟨h_id, rfl⟩ := Prod.mk.inj h
    rw [← Except.ok.inj h_id]
    exact ⟨.inr ⟨_, List.mem_append_right _ (List.mem_singleton_self _), rfl⟩, h_state⟩
  · obtain ⟨h_id, rfl⟩ := Prod.mk.inj h
    rw [← Except.ok.inj h_id]
    exact ⟨.inl ⟨_, List.mem_append_right _ (List.mem_singleton_self _), rfl⟩, h_state⟩

/-! ### Debts that end -/

/-- Reporting an event pays no debt but the one it is about. -/
theorem Owes.rest {id : Nat} {event : Event} {events : List Event} (h : r.Owes id)
    (he : r.events = event :: events) (h_other : event.resolution? ≠ some id) :
    ({ r with events } : Responder).Owes id := by
  rcases h with hp | ⟨event', he', hid⟩
  · -- the resolution is pending still
    exact .inl hp
  · rw [he] at he'
    rcases List.mem_cons.mp he' with rfl | he'
    · -- the event was for another number
      exact absurd hid h_other
    · exact .inr ⟨event', he', hid⟩

theorem Settles.rest {event : Event} {events : List Event} (h : r.Settles)
    (he : r.events = event :: events) (h_other : event ≠ .cacheExhausted) :
    ({ r with events } : Responder).Settles := by
  rcases h with hb | he'
  · exact .inl hb
  · rw [he] at he'
    exact .inr ((List.mem_cons.mp he').resolve_left h_other.symm)

/-- Releasing a resolution drops only events that end it. -/
theorem mem_events_release {id : Nat} {event : Event} (he : event ∈ r.events)
    (h_other : event.resolution? ≠ some id) : event ∈ (r.release id).events :=
  List.mem_filter.mpr ⟨he, decide_eq_true h_other⟩

/-- Releasing a resolution forgives no other. -/
theorem Owes.release {id id' : Nat} (h : r.Owes id') (h_other : id' ≠ id) :
    (r.release id).Owes id' := by
  rcases h with ⟨p, hp, rfl⟩ | ⟨event, he, hid⟩
  · exact .inl ⟨p, List.mem_filter.mpr ⟨hp, decide_eq_true h_other⟩, rfl⟩
  · refine .inr ⟨event, mem_events_release he ?_, hid⟩
    rw [hid]
    exact fun h => h_other (Option.some.inj h)

theorem Settles.release {id : Nat} (h : r.Settles) : (r.release id).Settles := by
  rcases h with hb | he
  · exact .inl hb
  · exact .inr (mem_events_release he (by simp [Event.resolution?]))

/-! ### Times to wake up -/

theorem wakeTime?_le_deadline {p : Resolving} (h : p ∈ r.resolving) :
    ∃ w, r.wakeTime? = some w ∧ w ≤ p.deadline :=
  wakeTime?_le (List.mem_append_right _ (List.mem_map_of_mem h))

theorem wakeTime?_le_settlesAt {b : Browsing} {t : Nat} (hb : r.browsing = some b)
    (ht : b.settlesAt = some t) : ∃ w, r.wakeTime? = some w ∧ w ≤ t := by
  refine wakeTime?_le (List.mem_append_left _ (List.mem_append_right _ ?_))
  simp [hb, ht]

/-- The end of a resolution that is owed is queued, or the resolution is pending and the responder
wakes up for its deadline. -/
theorem Owes.wakes {id : Nat} (h : r.Owes id) :
    (∃ p ∈ r.resolving, p.id = id ∧ ∃ w, r.wakeTime? = some w ∧ w ≤ p.deadline) ∨
      ∃ event ∈ r.events, event.resolution? = some id := by
  rcases h with ⟨p, hp, h_id⟩ | h_event
  · exact .inl ⟨p, hp, h_id, wakeTime?_le_deadline hp⟩
  · exact .inr h_event

/-- That a responder has settled is queued, or it wakes up to settle. -/
theorem Settles.wakes (h : r.Settles) :
    (∃ b t, r.browsing = some b ∧ b.settlesAt = some t ∧ ∃ w, r.wakeTime? = some w ∧ w ≤ t) ∨
      .cacheExhausted ∈ r.events := by
  rcases h with ⟨b, hb, h_some⟩ | h_event
  · obtain ⟨t, ht⟩ := Option.isSome_iff_exists.mp h_some
    exact .inl ⟨b, t, hb, ht, wakeTime?_le_settlesAt hb ht⟩
  · exact .inr h_event

/-! ### What happens outside -/

/-- Nothing that happens outside makes a responder lose a debt. -/
theorem keeps_undergo (happening : Happening) (r : Responder) :
    r.Keeps (undergo happening r) :=
  respected_keeps.undergo happening r

end Responder
end ServiceDiscovery
