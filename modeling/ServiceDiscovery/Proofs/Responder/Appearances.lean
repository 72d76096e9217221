import ServiceDiscovery.Proofs.EventLoop.Pinned
import ServiceDiscovery.Proofs.EventLoop.Presence
import ServiceDiscovery.Proofs.Multicast.Spellings

/-!
# Where servers appear to a responder

A responder that browses on a scope takes in responses that came over families of this scope, and a
server appears on the family over which the response came that tells of it.  Nothing else lets a
server appear (`Responder.Watches`).  So all that is reported is on the scope on which is browsed
(`Responder.reports_within_scope`).

A contact that is reported for a resolution of a sweep is one that the responder knows, on the
family on which it was asked for it (`Sweep.TrueTo`); so its address is of this family
(`Responder.findsWithin_after`).
-/

namespace ServiceDiscovery

open Dns (Packet Message)

namespace PeerTable

/-- Servers that appear in a response appear on the family over which it came. -/
theorem protocol_of_appeared {records : List Dns.Record} {source : SocketAddress}
    {t : PeerTable} {k : Sighting} (h : .appeared k ∈ (t.takeIn records source).2) :
    k.protocol = source.scope := by
  -- one record first: only a pointer makes an instance appear
  have h_record : ∀ (r : Dns.Record) (t : PeerTable),
      .appeared k ∈ (t.takeFirst source.interface source.scope r).2 → k.protocol = source.scope := by
    intro r t h_event
    unfold takeFirst at h_event
    split at h_event
    · split at h_event
      · split at h_event
        · next sighting h_sighting =>
          obtain ⟨-, label, -, rfl⟩ := sighting?_eq_some_iff.mp h_sighting
          -- a pointer reports nobody but the one that it points to
          unfold takePointer at h_event
          split at h_event
          · split at h_event <;> simp at h_event
          · split at h_event
            · simp at h_event
            · obtain rfl := Event.appeared.inj (List.mem_singleton.mp h_event)
              rfl
        · exact absurd h_event List.not_mem_nil
      · exact absurd h_event List.not_mem_nil
    · split at h_event <;> exact absurd h_event List.not_mem_nil
    · exact absurd h_event List.not_mem_nil
  -- then all of them, one after another
  have h_all : ∀ (records : List Dns.Record) (s : PeerTable × List Event),
      .appeared k ∈ (records.foldl (hear source) s).2 →
        .appeared k ∈ s.2 ∨ k.protocol = source.scope := by
    intro records
    induction records with
    | nil => exact fun _ h => .inl h
    | cons r records ih =>
      intro s h_event
      refine (ih _ h_event).elim (fun h_mem => ?_) .inr
      exact (List.mem_append.mp h_mem).imp_right (h_record r s.1)
  rw [takeIn_eq] at h
  exact (h_all records (t, []) h).resolve_left List.not_mem_nil

/-- The address of a contact is in what was asked for. -/
theorem includes_of_contact? {t : PeerTable} {k : Sighting} {q : IpScope} {c : Contact}
    (h : t.contact? k q = some c) : q.includes c.address.scope = true := by
  unfold contact? at h
  obtain ⟨peer, -, h⟩ := Option.bind_eq_some_iff.mp h
  obtain ⟨service, -, h⟩ := Option.bind_eq_some_iff.mp h
  obtain ⟨known, -, h⟩ := Option.bind_eq_some_iff.mp h
  obtain ⟨address, h_find, h⟩ := Option.bind_eq_some_iff.mp h
  obtain rfl := Option.some.inj h
  -- the address was looked for among those that the protocol includes
  have h_includes := List.find?_some h_find
  exact h_includes

end PeerTable

namespace Responder

/-- The scope on which is browsed. -/
def watched? (r : Responder) : Option IpScope := r.browsing.map (·.scope)

theorem watched?_of_browsing {r : Responder} {b : Browsing} (hb : r.browsing = some b) :
    r.watched? = some b.scope := by
  rw [watched?, hb, Option.map_some]

/-- The servers that are to be reported appeared on the scope on which is browsed. -/
def SeesWithin (r : Responder) : Prop :=
  ∀ k, .appeared k ∈ r.events → ∃ scope, r.watched? = some scope ∧ scope.Pins k.protocol

variable {r r' r'' : Responder}

/-- It is still browsed on the scope on which it was, and whoever appeared since did so on the scope
on which it is. -/
structure Watches (r r' : Responder) : Prop where
  scope : ∀ scope, r.watched? = some scope → r'.watched? = some scope
  appeared : ∀ k, .appeared k ∈ r'.events → .appeared k ∈ r.events ∨
    ∃ scope, r'.watched? = some scope ∧ scope.Pins k.protocol

namespace Watches

theorem trans (h : r.Watches r') (h' : r'.Watches r'') : r.Watches r'' where
  scope scope hs := h'.scope scope (h.scope scope hs)
  appeared k hk := by
    rcases h'.appeared k hk with hk | h_new
    · exact (h.appeared k hk).imp_right fun ⟨scope, hs, h_pins⟩ => ⟨scope, h'.scope scope hs, h_pins⟩
    · exact .inr h_new

/-- Nobody appears, and it is browsed for the same. -/
theorem of_append (events : List Event) (h_none : ∀ k, .appeared k ∉ events)
    (he : r'.events = r.events ++ events) (hs : r'.watched? = r.watched?) : r.Watches r' where
  scope scope h := hs.trans h
  appeared k hk := by
    rw [he] at hk
    exact .inl ((List.mem_append.mp hk).resolve_right (h_none k))

theorem of_eq (he : r'.events = r.events) (hs : r'.watched? = r.watched?) : r.Watches r' :=
  of_append [] (fun _ => List.not_mem_nil) (by rw [he, List.append_nil]) hs

theorem refl (r : Responder) : r.Watches r := of_eq rfl rfl

theorem seesWithin (h : r.Watches r') (hr : r.SeesWithin) : r'.SeesWithin := by
  intro k hk
  rcases h.appeared k hk with h_old | h_new
  · obtain ⟨scope, hs, h_pins⟩ := hr k h_old
    exact ⟨scope, h.scope scope hs, h_pins⟩
  · exact h_new

end Watches

theorem watches_announceDue (now : Nat) (r : Responder) : r.Watches (r.announceDue now) := by
  refine announceDue_induction (P := r.Watches) ?_ ?_ now (.refl r)
  · exact fun _ _ h => h.trans (.of_eq rfl rfl)
  · intro r' place h
    -- what is announced is not what has appeared
    refine h.trans ?_
    obtain h_eq | ⟨service, -, h_eq | h_eq⟩ := announce_cases place r' <;> rw [h_eq]
    · exact .refl r'
    · exact .of_eq rfl rfl
    · exact .of_append [.established] (by simp) rfl rfl

/-- A query that goes out lets servers vanish. -/
theorem watches_queryDue (now : Nat) (r : Responder) : r.Watches (r.queryDue now) := by
  obtain h_eq | ⟨b, hb, -, h_eq⟩ := queryDue_cases now r <;> rw [h_eq]
  · exact .refl r
  · refine .of_append _ (fun k hk => ?_) rfl (watched?_of_browsing hb).symm
    -- aging reports who has gone, not who has come
    unfold PeerTable.age at hk
    split at hk
    · exact absurd hk List.not_mem_nil
    · obtain ⟨_, -, h_eq⟩ := List.mem_map.mp hk
      exact absurd h_eq (by simp)

theorem watches_settleDue (now : Nat) (r : Responder) : r.Watches (r.settleDue now) := by
  obtain h_eq | ⟨b, hb, h_eq⟩ := settleDue_cases now r <;> rw [h_eq]
  · exact .refl r
  · exact .of_append [.cacheExhausted, .allForNow] (by simp) rfl (watched?_of_browsing hb).symm

theorem watches_expireDue (now : Nat) (r : Responder) : r.Watches (r.expireDue now) := by
  refine .of_append _ (fun k hk => ?_) rfl rfl
  obtain ⟨p, -, h_eq⟩ := List.mem_map.mp hk
  exact absurd h_eq (by simp)

theorem watches_flushSome (count : Nat) (r : Responder) : r.Watches (r.flushSome count).2 := by
  obtain h_eq | ⟨t, -, h_eq⟩ := flushSome_cases count r <;> rw [h_eq]
  · exact .refl r
  · exact .of_eq rfl rfl

/-- **Responses.** A response is taken in only if it came over a family of the scope. -/
theorem watches_takeIn (m : Message) (source : SocketAddress) (r : Responder) :
    r.Watches (r.takeIn m source) := by
  have h_claims : r.Watches (r.noteClaims m) := by
    refine .of_append _ (fun k hk => ?_) rfl rfl
    obtain ⟨_, -, h_eq⟩ := List.mem_map.mp hk
    exact absurd h_eq (by simp)
  refine h_claims.trans ?_
  obtain h_eq | ⟨b, hb, h_scope, h_eq⟩ := takeIn_cases m source r <;> rw [h_eq]
  · exact .refl _
  · refine ⟨fun scope h => (watched?_of_browsing hb).symm.trans h, fun k hk => ?_⟩
    -- contacts that are found are no appearances
    rcases List.mem_append.mp hk with hk | h_contact
    · refine (List.mem_append.mp hk).imp_right fun h_new => ⟨b.scope, rfl, source.family, ?_, ?_⟩
      · exact PeerTable.protocol_of_appeared h_new
      · exact (IpScope.includes_scope b.scope source.family).symm.trans h_scope
    · obtain ⟨p, -, h_found⟩ := List.mem_filterMap.mp h_contact
      obtain ⟨c, -, h_eq⟩ := Option.map_eq_some_iff.mp h_found
      exact absurd h_eq (by simp)

theorem watches_receive (octets : Packet) (source : SocketAddress) (r : Responder) :
    r.Watches (r.receive octets source) := by
  obtain h_eq | ⟨m, -, -, ⟨-, h_eq⟩ | ⟨-, h_eq⟩⟩ := receive_cases octets source r <;> rw [h_eq]
  · exact .refl r
  · exact watches_takeIn m source r
  · exact .of_eq rfl rfl

theorem respected_watches : Respected Watches where
  refl := .refl
  trans := .trans
  announceDue := watches_announceDue
  queryDue := watches_queryDue
  settleDue := watches_settleDue
  expireDue := watches_expireDue
  flushSome := watches_flushSome
  receive := watches_receive
  attach h := by
    obtain ⟨t, -, rfl⟩ | ⟨t, -, rfl⟩ := attach_cases h
    · exact .refl _
    · -- that the engine runs is no appearance
      exact .of_append [.engine .running] (by simp) rfl rfl
  fail _ := .of_append [.engine .failure] (by simp) rfl rfl
  machine _ _ := .of_eq rfl rfl

/-! ### Requests -/

theorem watches_publish (ad : Advertisement) (r : Responder) : r.Watches (r.publish ad).2 := by
  obtain ⟨refusal, h_eq⟩ | ⟨host, service, -, -, -, h_eq⟩ := publish_cases ad r <;> rw [h_eq]
  · exact .refl r
  · exact .of_eq rfl rfl

/-- Browsing begins where there was none. -/
theorem watches_browse (type : String) (scope : IpScope) (r : Responder) :
    r.Watches (r.browse type scope).2 := by
  obtain ⟨refusal, h_eq⟩ | ⟨b, -, h_free, -, h_eq⟩ := browse_cases type scope r <;> rw [h_eq]
  · exact .refl r
  · refine ⟨fun scope h => ?_, fun k hk => .inl hk⟩
    rw [watched?, h_free] at h
    exact absurd h (by simp)

theorem watched?_browse {type : String} {scope : IpScope} (h : r.browse type scope = (.ok (), r')) :
    r'.watched? = some scope := by
  obtain ⟨refusal, h_eq⟩ | ⟨b, -, -, hb, h_eq⟩ := browse_cases type scope r <;> rw [h_eq] at h
  · exact absurd h (by simp)
  · obtain ⟨name, query, -, -, rfl⟩ := beginBrowsing_ok hb
    obtain ⟨-, rfl⟩ := Prod.mk.inj h
    rfl

theorem watches_resolve (k : Sighting) (q : IpScope) (r : Responder) :
    r.Watches (r.resolve k q).2 := by
  obtain ⟨_, h_eq⟩ | ⟨_, h_eq⟩ | ⟨b, -, -, ⟨c, -, h_eq⟩ | ⟨packet, -, -, h_eq⟩⟩ :=
    resolve_cases k q r <;> rw [h_eq]
  · exact .refl r
  · exact .of_eq rfl rfl
  · -- a contact that is found is no appearance
    exact .of_append [.found r.nextResolution c] (by simp) rfl rfl
  · exact .of_eq rfl rfl

theorem watches_release (id : Nat) (r : Responder) : r.Watches (r.release id) where
  scope _ h := h
  appeared _ hk := .inl (List.mem_filter.mp hk).1

/-- What is reported is not to be reported any more. -/
theorem watches_rest {event : Event} {events : List Event} (he : r.events = event :: events) :
    r.Watches { r with events } where
  scope _ h := h
  appeared _ hk := .inl (he ▸ List.mem_cons_of_mem event hk)

theorem watches_turn (r : Responder) : r.Watches r.turn.engine := by
  obtain ⟨r', h, ⟨-, h_engine⟩ | ⟨event, events, he, -, h_engine⟩⟩ := respected_watches.turn r
  · rw [h_engine]
    exact h
  · rw [h_engine]
    exact h.trans (watches_rest he)

/-- Every input goes on to watch. -/
theorem watches_step (input : Input) (r : Responder) : r.Watches (r.step input).1 := by
  cases input with
  | publish ad => exact watches_publish ad r
  | browse type scope => exact watches_browse type scope r
  | resolve k q => exact (step_resolve k q r).1 ▸ watches_resolve k q r
  | release id => exact watches_release id r
  | poll =>
    obtain ⟨r', h, h_step | ⟨event, events, he, h_step⟩⟩ := step_poll (respected_watches.turn r)
    · rw [h_step]
      exact h
    · rw [h_step]
      -- the event that is reported was queued, and the others stay
      exact h.trans (watches_rest he)
  | outside happening => exact respected_watches.undergo happening r

/-! ### What a loop can rely on -/

theorem maintained_of_watches {P : Responder → Prop} (hP : ∀ {r r'}, Watches r r' → P r → P r') :
    EventLoop.Maintained undergo P where
  publish ad {r} := hP (watches_publish ad r)
  browse scope {r} := hP (watches_browse serverType scope r)
  resolve k q {r} := hP (watches_resolve k q r)
  release id {r} := hP (watches_release id r)
  next {r} := hP (watches_turn r)
  world happening {r} := hP (respected_watches.undergo happening r)

/-- A responder reports servers on the scope on which it browses. -/
theorem reports_within_scope : EventLoop.Scoped undergo watched? SeesWithin where
  sound := maintained_of_watches fun h hr => h.seesWithin hr
  scope scope := maintained_of_watches fun h hs => h.scope scope hs
  begins _ h_browse := watched?_browse h_browse
  appeared {r k} hr h_event := by
    obtain ⟨r', h, ⟨h_none, -⟩ | ⟨event, events, he, h_some, h_engine⟩⟩ := respected_watches.turn r
    · -- there is no report without an event
      exact absurd (h_none.symm.trans h_event) (by simp)
    · obtain rfl := Option.some.inj (h_some.symm.trans h_event)
      rw [show Engine.next r = r.turn from rfl, h_engine]
      exact h.seesWithin hr k (he ▸ List.mem_cons_self ..)

/-- A responder that was asked for anything before sees within the scope on which it browses. -/
theorem seesWithin_after (os : OperatingSystem) (settings : Settings) (opened : Opened)
    (prior : List Input) :
    ((Dealings.ofResponder (.on os settings opened)).after prior).responder.SeesWithin := by
  induction prior using List.reverseRecOn with
  -- a new responder has queued nothing
  | nil => exact fun k hk => absurd hk List.not_mem_nil
  | append_singleton prior input ih =>
    rw [Dealings.after_concat]
    exact (watches_step input _).seesWithin ih

/-- A responder that was asked for anything before finds what a loop asks it for. -/
theorem findsWithin_after (os : OperatingSystem) (settings : Settings) (opened : Opened)
    (prior : List Input) :
    EventLoop.FindsWithin undergo
      ((Dealings.ofResponder (.on os settings opened)).after prior).responder := by
  intro inputs id c k h_event ho
  have h_true := EventLoop.trueTo_after os settings opened prior inputs
  dsimp only at h_true
  generalize (EventLoop.after undergo inputs _).1 = l at h_true h_event ho
  obtain ⟨r, h_along, ⟨h_none, -⟩ | ⟨event, events, he, h_some, -⟩⟩ :=
    EventLoop.reports_learning l.engine
  · exact absurd (h_none.symm.trans h_event) (by simp)
  · -- the contact that is reported is the one that is known
    obtain rfl := Option.some.inj (h_some.symm.trans h_event)
    have h_contact : r.contact? k k.protocol = some c :=
      (h_true.along h_along).found id c k (he ▸ List.mem_cons_self ..) ho
    obtain ⟨t, -, h_known⟩ := Option.bind_eq_some_iff.mp h_contact
    exact PeerTable.includes_of_contact? h_known

end Responder
end ServiceDiscovery
