import ServiceDiscovery.Proofs.Multicast.Reports
import ServiceDiscovery.Proofs.Responder.Turns

/-!
# What a responder learns

While a responder browses, what it knows of its peers changes: with the responses that it takes
in, and with each query, as peers age.  Whoever follows its events learns of this late, since
events wait in its queue.

`Responder.Learns r r'` says what can be relied on all the same, as `r` becomes `r'`.  An instance
that `r` sees is seen by `r'`, or that it has vanished is to be reported; and a contact that is to
be reported is the one that `r'` knows.  The first holds since a table reports every change
(`PeerTable.Reports`), the second since a responder does not learn anything while a contact waits
in its queue (`Responder.NothingFound`).  So everything that a responder does by itself upholds it
(`Responder.upheld_learns`).
-/

namespace ServiceDiscovery
namespace Responder

open Dns (Packet Message)

/-! ### What is known of an instance -/

/-- What was heard about what is browsed for. -/
def table? (r : Responder) : Option PeerTable := r.browsing.map (·.table)

/-- The instance is there, as far as the responder knows. -/
def Sees (k : Sighting) (r : Responder) : Prop := ∃ t, r.table? = some t ∧ k ∈ t.peers

/-- How to reach an instance on the families of a scope, as far as the responder knows. -/
def contact? (k : Sighting) (q : IpScope) (r : Responder) : Option Contact :=
  r.table?.bind (·.contact? k q)

variable {r r' r'' : Responder}

theorem table?_of_browsing {b : Browsing} (hb : r.browsing = some b) : r.table? = some b.table := by
  rw [table?, hb, Option.map_some]

/-- Only an instance that is there can be reached. -/
theorem sees_of_contact? {k : Sighting} {q : IpScope} {c : Contact}
    (h : r.contact? k q = some c) : r.Sees k := by
  obtain ⟨t, ht, h_contact⟩ := Option.bind_eq_some_iff.mp h
  refine ⟨t, ht, ?_⟩
  -- what the table has on an instance it has under its key
  obtain ⟨peer, h_peer, -⟩ := Option.bind_eq_some_iff.mp h_contact
  rw [Std.ExtTreeMap.mem_iff_isSome_getElem?, h_peer]
  rfl

/-! ### Learning -/

/-- What can be relied on, as one responder becomes another. -/
structure Learns (r r' : Responder) : Prop where
  /-- What is to be reported stays so. -/
  events : ∀ event ∈ r.events, event ∈ r'.events
  /-- No resolution begins. -/
  resolving : ∀ p ∈ r'.resolving, p ∈ r.resolving
  /-- That an instance is not seen any more is to be reported. -/
  seen : ∀ k, r.Sees k → r'.Sees k ∨ .vanished k ∈ r'.events
  /-- A contact that is to be reported was to be reported before, and then nothing new is known of
  anybody; or it ends a resolution that was pending, and is known. -/
  found : ∀ id c, .found id c ∈ r'.events →
    (.found id c ∈ r.events ∧ ∀ k q, r'.contact? k q = r.contact? k q) ∨
      ∃ p ∈ r.resolving, p.id = id ∧ r'.contact? p.sighting p.protocol = some c

namespace Learns

/-- One thing is learnt after the other. -/
theorem trans (h : r.Learns r') (h' : r'.Learns r'') : r.Learns r'' where
  events event he := h'.events event (h.events event he)
  resolving p hp := h.resolving p (h'.resolving p hp)
  seen k hk := by
    rcases h.seen k hk with hk | he
    · exact h'.seen k hk
    · exact .inr (h'.events _ he)
  found id c he := by
    obtain ⟨he', h_same'⟩ | ⟨p, hp, h_id, h_contact⟩ := h'.found id c he
    · -- it was to be reported in between, so nothing was learnt since
      obtain ⟨he, h_same⟩ | ⟨p, hp, h_id, h_contact⟩ := h.found id c he'
      · exact .inl ⟨he, fun k q => (h_same' k q).trans (h_same k q)⟩
      · exact .inr ⟨p, hp, h_id, (h_same' _ _).trans h_contact⟩
    · exact .inr ⟨p, h.resolving p hp, h_id, h_contact⟩

/-- Where no contact is found, and the table stays. -/
theorem of_append (events : List Event) (h_none : ∀ id c, .found id c ∉ events)
    (he : r'.events = r.events ++ events) (hr : ∀ p ∈ r'.resolving, p ∈ r.resolving)
    (ht : r'.table? = r.table?) : r.Learns r' where
  events event h := he ▸ List.mem_append_left _ h
  resolving := hr
  -- the table is the same, so whatever is seen was seen before
  seen k hk := .inl (by unfold Sees; rw [ht]; exact hk)
  found id c h := by
    rw [he] at h
    refine .inl ⟨(List.mem_append.mp h).resolve_right (h_none id c), fun k q => ?_⟩
    unfold Responder.contact?
    rw [ht]

theorem of_eq (he : r'.events = r.events) (hr : r'.resolving = r.resolving)
    (ht : r'.table? = r.table?) : r.Learns r' :=
  of_append [] (fun _ _ => List.not_mem_nil) (by rw [he, List.append_nil]) (hr ▸ fun _ h => h) ht

theorem refl (r : Responder) : r.Learns r := of_eq rfl rfl rfl

/-- Where the table changes and says so, while no contact is to be reported. -/
theorem of_reports {t t' : PeerTable} {events : List Event} (h : t.Reports t' events)
    (hn : r.NothingFound) (ht : r.table? = some t) (ht' : r'.table? = some t')
    (he : r'.events = r.events ++ events) (hr : r'.resolving = r.resolving) : r.Learns r' where
  events event h := he ▸ List.mem_append_left _ h
  resolving p hp := hr ▸ hp
  seen k hk := by
    obtain ⟨t₀, ht₀, h_mem⟩ := hk
    obtain rfl : t = t₀ := Option.some.inj (ht.symm.trans ht₀)
    rw [he]
    exact (h.stays_or_vanished h_mem).imp (fun h_mem' => ⟨t', ht', h_mem'⟩)
      (List.mem_append_right _)
  found id c h_found := by
    rw [he] at h_found
    rcases List.mem_append.mp h_found with h_old | h_new
    · exact absurd h_old (hn id c)
    · -- a table does not report contacts
      have h_none : (Event.found id c).resolution? = none := h.resolution? h_new
      exact absurd h_none (by simp [Event.resolution?])

end Learns

/-! ### Times that come -/

theorem learns_announce (place : Nat) (r : Responder) : r.Learns (r.announce place) := by
  obtain h_eq | ⟨service, -, h_eq | h_eq⟩ := announce_cases place r <;> rw [h_eq]
  · exact .refl r
  · exact .of_eq rfl rfl rfl
  · exact .of_append [.established] (by simp) rfl (fun _ h => h) rfl

theorem learns_announceDue (now : Nat) (r : Responder) : r.Learns (r.announceDue now) := by
  refine announceDue_induction (P := r.Learns) ?_ ?_ now (.refl r)
  · exact fun _ _ h => h.trans (.of_eq rfl rfl rfl)
  · exact fun r' place h => h.trans (learns_announce place r')

/-- Peers that are dropped as a query goes out are reported gone. -/
theorem learns_queryDue (now : Nat) (hn : r.NothingFound) : r.Learns (r.queryDue now) := by
  obtain h_eq | ⟨b, hb, -, h_eq⟩ := queryDue_cases now r <;> rw [h_eq]
  · exact .refl r
  · exact .of_reports (PeerTable.reports_age r.settings.tolerated b.table) hn (table?_of_browsing hb)
      rfl rfl rfl

theorem learns_settleDue (now : Nat) (r : Responder) : r.Learns (r.settleDue now) := by
  obtain h_eq | ⟨b, hb, h_eq⟩ := settleDue_cases now r <;> rw [h_eq]
  · exact .refl r
  · exact .of_append [.cacheExhausted, .allForNow] (by simp) rfl (fun _ h => h)
      (table?_of_browsing hb).symm

/-- Resolutions whose time is up find nothing. -/
theorem learns_expireDue (now : Nat) (r : Responder) : r.Learns (r.expireDue now) := by
  refine .of_append _ (fun id c h => ?_) rfl (fun p hp => (List.mem_filter.mp hp).1) rfl
  obtain ⟨p, -, h_eq⟩ := List.mem_map.mp h
  exact absurd h_eq (by simp)

/-! ### Packets -/

theorem learns_flushSome (count : Nat) (r : Responder) : r.Learns (r.flushSome count).2 := by
  obtain h_eq | ⟨t, -, h_eq⟩ := flushSome_cases count r <;> rw [h_eq]
  · exact .refl r
  · exact .of_eq rfl rfl rfl

/-- That another host claims a name is no contact. -/
theorem found_not_mem_claims {services : List LocalService} (id : Nat) (c : Contact) :
    .found id c ∉ services.map fun _ => Event.nameTaken := by
  intro h
  obtain ⟨_, -, h_eq⟩ := List.mem_map.mp h
  exact absurd h_eq (by simp)

theorem learns_noteClaims (m : Message) (r : Responder) : r.Learns (r.noteClaims m) :=
  .of_append _ found_not_mem_claims rfl (fun _ h => h) rfl

/-- A resolution that is completed finds what the table knows. -/
theorem learns_completeKnown {t : PeerTable} (ht : r.table? = some t) :
    r.Learns (r.completeKnown t) where
  events event h := List.mem_append_left _ h
  resolving p hp := (List.mem_filter.mp hp).1
  seen k hk := .inl hk
  found id c h := by
    -- an event that was queued before was found then; a new one stands for a resolution
    rcases List.mem_append.mp h with h_old | h_new
    · exact .inl ⟨h_old, fun _ _ => rfl⟩
    · obtain ⟨p, hp, h_eq⟩ := List.mem_filterMap.mp h_new
      obtain ⟨c', h_contact, h_found⟩ := Option.map_eq_some_iff.mp h_eq
      obtain ⟨rfl, rfl⟩ := Event.found.inj h_found
      refine .inr ⟨p, hp, rfl, ?_⟩
      show r.table?.bind _ = _
      rw [ht]
      exact h_contact

/-- A response is taken in while nothing is to be reported. -/
theorem learns_takeIn (m : Message) (source : SocketAddress) (he : r.events = []) :
    r.Learns (r.takeIn m source) := by
  refine (learns_noteClaims m r).trans ?_
  obtain h_eq | ⟨b, hb, -, h_eq⟩ := takeIn_cases m source r <;> rw [h_eq]
  · exact .refl _
  · have hn : (r.noteClaims m).NothingFound :=
      (NothingFound.of_nil he).append _ found_not_mem_claims rfl
    -- first the table changes, then what is known by now is found
    refine .trans ?_ (learns_completeKnown rfl)
    exact .of_reports (PeerTable.reports_takeIn m.records source b.table) hn (table?_of_browsing hb)
      rfl rfl rfl

theorem learns_receive (octets : Packet) (source : SocketAddress) (he : r.events = []) :
    r.Learns (r.receive octets source) := by
  obtain h_eq | ⟨m, -, -, ⟨-, h_eq⟩ | ⟨-, h_eq⟩⟩ := receive_cases octets source r <;> rw [h_eq]
  · exact .refl r
  · exact learns_takeIn m source he
  · exact .of_eq rfl rfl rfl

/-! ### Turns -/

theorem learns_attach (h : r.attach = .ok r') : r.Learns r' := by
  obtain ⟨t, -, rfl⟩ | ⟨t, -, rfl⟩ := attach_cases h
  · exact .refl _
  · exact .of_append [.engine .running] (by simp) rfl (fun _ h => h) rfl

theorem learns_fail (r : Responder) : r.Learns r.fail :=
  .of_append [.engine .failure] (by simp) rfl (fun _ h => h) rfl

/-- Whatever a responder does by itself, what was to be relied on still is. -/
theorem upheld_learns (r : Responder) : Upheld r.Learns where
  announceDue now r' h := h.trans (learns_announceDue now r')
  queryDue now _ hn h := h.trans (learns_queryDue now hn)
  settleDue now r' h := h.trans (learns_settleDue now r')
  expireDue now r' h := h.trans (learns_expireDue now r')
  flushSome count r' h := h.trans (learns_flushSome count r')
  receive octets source _ he h := h.trans (learns_receive octets source he)
  attach ha h := h.trans (learns_attach ha)
  fail h := h.trans (learns_fail _)
  machine _ _ h := h.trans (.of_eq rfl rfl rfl)

/-! ### Requests -/

theorem learns_publish (ad : Advertisement) (r : Responder) : r.Learns (r.publish ad).2 := by
  obtain ⟨refusal, h_eq⟩ | ⟨host, service, -, -, -, h_eq⟩ := publish_cases ad r <;> rw [h_eq]
  · exact .refl r
  · exact .of_eq rfl rfl rfl

/-- Browsing begins with a table in which nothing is known. -/
theorem table_beginBrowsing {type : String} {scope : IpScope} {b : Browsing}
    (h : r.beginBrowsing type scope = .ok b) : b.table = .empty b.type type := by
  obtain ⟨name, query, -, -, rfl⟩ := beginBrowsing_ok h
  rfl

/-- Before and after, nobody can be reached. -/
theorem learns_browse (type : String) (scope : IpScope) (r : Responder) :
    r.Learns (r.browse type scope).2 := by
  obtain ⟨refusal, h_eq⟩ | ⟨b, -, h_free, hb, h_eq⟩ := browse_cases type scope r <;> rw [h_eq]
  · exact .refl r
  · have ht : r.table? = none := by rw [table?, h_free, Option.map_none]
    -- there was no table before, so there was nothing to see
    exact {
      events := fun _ h => h
      resolving := fun _ h => h
      seen := fun k hk => by
        obtain ⟨t, ht', -⟩ := hk
        exact absurd (ht.symm.trans ht') (by simp)
      found := fun id c h => by
        refine .inl ⟨h, fun k q => ?_⟩
        show (some b.table).bind _ = r.table?.bind _
        rw [ht, table_beginBrowsing hb]
        rfl }

/-- A resolution that is accepted is pending, or its contact is known and to be reported. -/
theorem resolve_accepted {k : Sighting} {q : IpScope} {id : Nat}
    (h : r.resolve k q = (.ok id, r')) :
    r'.table? = r.table? ∧
      ((r'.resolving = r.resolving ∧
          ∃ c, r.contact? k q = some c ∧ r'.events = r.events ++ [.found id c]) ∨
        (r'.events = r.events ∧
          ∃ p, p.id = id ∧ p.sighting = k ∧ p.protocol = q ∧
            r'.resolving = r.resolving ++ [p])) := by
  obtain ⟨_, h_eq⟩ | ⟨_, h_eq⟩ | ⟨b, -, hb, ⟨c, hc, h_eq⟩ | ⟨packet, -, -, h_eq⟩⟩ :=
    resolve_cases k q r <;> rw [h_eq] at h
  · -- refused, before or after a number was drawn for it
    exact absurd h (by simp)
  · exact absurd h (by simp)
  · -- the contact was known
    obtain ⟨h_id, rfl⟩ := Prod.mk.inj h
    obtain rfl := Except.ok.inj h_id
    refine ⟨rfl, .inl ⟨rfl, c, ?_, rfl⟩⟩
    rw [contact?, table?_of_browsing hb]
    exact hc
  · -- it was not, and the resolution is held
    obtain ⟨h_id, rfl⟩ := Prod.mk.inj h
    obtain rfl := Except.ok.inj h_id
    exact ⟨rfl, .inr ⟨rfl, r.nextResolving k q, rfl, rfl, rfl, rfl⟩⟩

/-- A resolution that is refused changes nothing that is known. -/
theorem learns_resolve_error {k : Sighting} {q : IpScope} {refusal : Refusal}
    (h : r.resolve k q = (.error refusal, r')) : r.Learns r' := by
  obtain ⟨_, h_eq⟩ | ⟨_, h_eq⟩ | ⟨b, -, -, ⟨c, -, h_eq⟩ | ⟨packet, -, -, h_eq⟩⟩ :=
    resolve_cases k q r <;> rw [h_eq] at h
  · obtain ⟨-, rfl⟩ := Prod.mk.inj h
    exact .refl r
  · obtain ⟨-, rfl⟩ := Prod.mk.inj h
    exact .of_eq rfl rfl rfl
  · exact absurd h (by simp)
  · exact absurd h (by simp)

end Responder
end ServiceDiscovery
