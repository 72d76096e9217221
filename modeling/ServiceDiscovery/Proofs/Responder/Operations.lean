import ServiceDiscovery.Multicast.Responder

/-!
# What the operations of a responder do

Every operation of a responder is looked at once, here: which outcomes it has, when it has them, and
which responder each of them leaves.  Whatever is proved of an operation elsewhere is proved of its
outcomes.
-/

namespace ServiceDiscovery
namespace Responder

open Dns (Packet Message)

variable {r r' : Responder}

/-! ### Requests -/

/-- A service is published if it is accepted for the host. -/
theorem publish_cases (ad : Advertisement) (r : Responder) :
    (∃ refusal, r.publish ad = (.error refusal, r)) ∨
      ∃ host service, r.state ≠ .failure ∧ hostNameOf r.hostName = .ok host ∧
        LocalService.create ad host r.advertised r.settings.ttl = .ok service ∧
        r.publish ad = (.ok (), r.addService service) := by
  unfold publish
  split
  · -- a responder that has failed accepts nothing
    exact .inl ⟨_, rfl⟩
  · next h_state =>
    split
    · -- neither does one that cannot make the service
      exact .inl ⟨_, rfl⟩
    · next service h_made =>
      -- the host is named as the service is made, so what was made had a host to be made for
      cases h_host : hostNameOf r.hostName with
      | error refusal =>
        rw [h_host] at h_made
        cases h_made
      | ok host =>
        rw [h_host] at h_made
        exact .inr ⟨host, service, h_state, rfl, h_made, rfl⟩

/-- What browsing begins with: the type and the packet that asks for it. -/
theorem beginBrowsing_ok {type : String} {scope : IpScope} {b : Browsing}
    (h : r.beginBrowsing type scope = .ok b) :
    ∃ name query, typeName type = .ok name ∧ questionPacket name .ptr false = .ok query ∧
      b = { type := name, scope, table := .empty name type, query, queryAt := r.machine.now
            settlesAt := some (r.machine.now + r.settings.settleAfter) } := by
  unfold beginBrowsing at h
  cases ht : typeName type with
  | error refusal =>
    rw [ht] at h
    cases h
  | ok name =>
    rw [ht] at h
    change ((questionPacket name .ptr false).mapError Refusal.io >>= _) = _ at h
    cases hq : questionPacket name .ptr false with
    | error fault =>
      rw [hq] at h
      cases h
    | ok query =>
      rw [hq] at h
      exact ⟨name, query, rfl, hq, (Except.ok.inj h).symm⟩

/-- Browsing begins where there was none. -/
theorem browse_cases (type : String) (scope : IpScope) (r : Responder) :
    (∃ refusal, r.browse type scope = (.error refusal, r)) ∨
      ∃ b, r.state ≠ .failure ∧ r.browsing = none ∧ r.beginBrowsing type scope = .ok b ∧
        r.browse type scope = (.ok (), { r with browsing := some b }) := by
  -- refused as it has failed, as it browses already, or as the type makes no name or no question
  unfold browse
  split
  · exact .inl ⟨_, rfl⟩
  · next h_state =>
    split
    · exact .inl ⟨_, rfl⟩
    · next h_free =>
      split
      · exact .inl ⟨_, rfl⟩
      · next b hb => exact .inr ⟨b, h_state, Option.not_isSome_iff_eq_none.mp h_free, hb, rfl⟩

/-- The responder with a number used up. -/
def useNumber (r : Responder) : Responder := { r with nextResolution := r.nextResolution + 1 }

/-- The resolution that is begun for an instance, under the next number. -/
def nextResolving (k : Sighting) (q : IpScope) (r : Responder) : Resolving where
  id := r.nextResolution
  sighting := k
  protocol := q
  deadline := r.machine.now + r.settings.resolveWithin

/-- A resolution is refused, perhaps using up a number; or it ends at once, as the contact is known;
or what is missing is asked for. -/
theorem resolve_cases (k : Sighting) (q : IpScope) (r : Responder) :
    (∃ refusal, r.resolve k q = (.error refusal, r)) ∨
    (∃ refusal, r.resolve k q = (.error refusal, r.useNumber)) ∨
    ∃ b, r.state ≠ .failure ∧ r.browsing = some b ∧
      ((∃ c, b.table.contact? k q = some c ∧ r.resolve k q = (.ok r.nextResolution,
          { r.useNumber with events := r.events ++ [.found r.nextResolution c] })) ∨
        ∃ packet, b.table.contact? k q = none ∧ missingQuestion k b = .ok packet ∧
          r.resolve k q = (.ok r.nextResolution, { r.useNumber with
            outgoing := r.outgoing ++ [(packet, .groups q)]
            resolving := r.resolving ++ [r.nextResolving k q] })) := by
  unfold resolve
  split
  · exact .inl ⟨_, rfl⟩
  · next h_state =>
    cases hb : r.browsing with
    -- refused before the number is drawn: nothing at all has changed
    | none => exact .inl ⟨_, rfl⟩
    | some b =>
      dsimp only
      split
      · -- the contact is known, and the number is used up by its event
        next c hc => exact .inr (.inr ⟨b, h_state, rfl, .inl ⟨c, hc, by rw [useNumber, hb]⟩⟩)
      · next h_unknown =>
        split
        · -- what is missing cannot be asked for, but the number is gone
          exact .inr (.inl ⟨_, by rw [useNumber, hb]⟩)
        · next packet h_packet =>
          exact .inr (.inr ⟨b, h_state, rfl, .inr ⟨packet, h_unknown, h_packet, by
            rw [useNumber, hb]; rfl⟩⟩)

/-! ### Times that come -/

/-- The first announcement of a service establishes it. -/
theorem announce_cases (place : Nat) (r : Responder) :
    r.announce place = r ∨ ∃ service, r.services[place]? = some service ∧
      (r.announce place = { r with
          outgoing := r.outgoing ++ [(service.announcement, .groups service.scope)] } ∨
        r.announce place = { r with
          outgoing := r.outgoing ++ [(service.announcement, .groups service.scope)]
          services := r.services.set place { service with established := true }
          events := r.events ++ [.established] }) := by
  unfold announce
  split
  · exact .inl rfl
  · next service h_place =>
    dsimp only
    split
    · exact .inr ⟨service, h_place, .inl rfl⟩
    · exact .inr ⟨service, h_place, .inr rfl⟩

/-- To make the announcements that are due is to make them one by one. -/
theorem announceDue_induction {P : Responder → Prop}
    (h_schedule : ∀ (r : Responder) announcements, P r → P { r with announcements })
    (h_announce : ∀ (r : Responder) place, P r → P (r.announce place)) (now : Nat) (h : P r) :
    P (r.announceDue now) := by
  -- on the list of what is due: the schedule is changed before the first of them
  have h_all : ∀ (due : List (Nat × Nat)) (r : Responder), P r →
      P (due.foldl (fun r announcement => r.announce announcement.2) r) := by
    intro due
    induction due with
    | nil => exact fun _ h => h
    | cons announcement due ih => exact fun r h => ih _ (h_announce r announcement.2 h)
  exact h_all (r.announcements.filter (·.1 ≤ now)) _ (h_schedule r _ h)

/-- A query that is due goes out, and the peers age. -/
theorem queryDue_cases (now : Nat) (r : Responder) :
    r.queryDue now = r ∨ ∃ b, r.browsing = some b ∧ b.queryAt ≤ now ∧
      r.queryDue now = { r with
        browsing := some { b with
          table := (b.table.age r.settings.tolerated).1
          queryAt := now + r.settings.queryEvery }
        events := r.events ++ (b.table.age r.settings.tolerated).2
        outgoing := r.outgoing ++ [(b.query, .groups b.scope)] } := by
  unfold queryDue
  cases hb : r.browsing with
  | none => exact .inl rfl
  | some b =>
    dsimp only
    split
    · next h_due => exact .inr ⟨b, rfl, h_due, rfl⟩
    · exact .inl rfl

theorem settleDue_cases (now : Nat) (r : Responder) :
    r.settleDue now = r ∨ ∃ b, r.browsing = some b ∧
      r.settleDue now = { r with
        browsing := some { b with settlesAt := none }
        events := r.events ++ [.cacheExhausted, .allForNow] } := by
  unfold settleDue
  cases hb : r.browsing with
  | none => exact .inl rfl
  | some b =>
    dsimp only
    split
    · exact .inr ⟨b, rfl, rfl⟩
    · exact .inl rfl

/-! ### Packets -/

/-- Packets are sent through sockets that are attached. -/
theorem flushSome_cases (count : Nat) (r : Responder) :
    r.flushSome count = ([], r) ∨ ∃ t, r.link = .attached t ∧
      r.flushSome count = ((dispatchAll t (r.outgoing.take count) r.machine).1,
        { r with
          machine := (dispatchAll t (r.outgoing.take count) r.machine).2
          outgoing := r.outgoing.drop count }) := by
  unfold flushSome
  split
  · next t h_link => exact .inr ⟨t, h_link, rfl⟩
  · exact .inl rfl

/-- A packet that waits for a socket stays in line, and only the machine has changed. -/
theorem sendPart?_eq_some {passed : Nat} (h : r.sendPart? passed = some r') :
    ∃ t packet scope rest m, r.link = .attached t ∧ r.outgoing = (packet, .groups scope) :: rest ∧
      r.machine.multicastUntil? t packet scope passed = some m ∧ r' = { r with machine := m } := by
  unfold sendPart? at h
  split at h
  · -- only what goes to a group can go out in part
    next t packet scope rest h_link h_outgoing =>
    obtain ⟨m, hm, rfl⟩ := Option.map_eq_some_iff.mp h
    exact ⟨t, packet, scope, rest, m, h_link, h_outgoing, hm, rfl⟩
  · exact absurd h (by simp)

/-- The table takes in a response, and reports it. -/
def update (b : Browsing) (m : Message) (source : SocketAddress) (r : Responder) : Responder :=
  { r with
    browsing := some { b with table := (b.table.takeIn m.records source).1 }
    events := r.events ++ (b.table.takeIn m.records source).2 }

/-- A response is taken in if it came over a family on which is browsed. -/
theorem takeIn_cases (m : Message) (source : SocketAddress) (r : Responder) :
    r.takeIn m source = r.noteClaims m ∨ ∃ b, (r.noteClaims m).browsing = some b ∧
      b.scope.includes source.scope = true ∧
      r.takeIn m source = ((r.noteClaims m).update b m source).completeKnown
        (b.table.takeIn m.records source).1 := by
  unfold takeIn
  dsimp only
  split
  · -- the table takes in the response, and the resolutions that are known by then are completed
    next b hb =>
    split
    · next h_scope => exact .inr ⟨b, hb, h_scope, rfl⟩
    · exact .inl rfl
  · exact .inl rfl

/-- A response that is whole is taken in, and a query is answered. -/
theorem receive_cases (octets : Packet) (source : SocketAddress) (r : Responder) :
    r.receive octets source = r ∨
      ∃ m, Message.decode? (octets.take receiveLimit) = some m ∧ m.truncated = false ∧
        (m.isResponse = true ∧ r.receive octets source = r.takeIn m source ∨
          m.isResponse = false ∧ r.receive octets source =
            { r with outgoing := r.outgoing ++ answersTo m source r.services }) := by
  unfold receive
  split
  · exact .inl rfl
  · next m h_decode =>
    split
    · -- a packet that was cut short is passed over
      exact .inl rfl
    · next h_whole =>
      refine .inr ⟨m, h_decode, Bool.eq_false_iff.mpr h_whole, ?_⟩
      split
      · next h_response => exact .inl ⟨h_response, rfl⟩
      · next h_query => exact .inr ⟨Bool.eq_false_iff.mpr h_query, rfl⟩

/-! ### Sockets -/

/-- Sockets that are attached already stay so; if they have been waiting, the responder is running
from then on. -/
theorem attach_cases (h : r.attach = .ok r') :
    (∃ t, r.link = .attached t ∧ r' = r) ∨
      ∃ t, r.link = .waiting t ∧ r' = { r with
        link := .attached t, state := .running, events := r.events ++ [.engine .running] } := by
  unfold attach at h
  split at h
  · next t ht => exact .inl ⟨t, ht, (Except.ok.inj h).symm⟩
  · next t ht =>
    split at h
    · exact absurd h (by simp)
    · exact .inr ⟨t, ht, (Except.ok.inj h).symm⟩
  · -- there are no sockets left to attach
    exact absurd h (by simp)

end Responder
end ServiceDiscovery
