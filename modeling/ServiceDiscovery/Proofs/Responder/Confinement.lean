import ServiceDiscovery.Proofs.Multicast.Announcement
import ServiceDiscovery.Proofs.Responder.Fates

/-!
# What goes where

A responder sends three kinds of packets: questions, announcements of its services, which also serve
as answers, and, as it takes its leave, farewells.  They go through one queue and through sockets
that may be open for one family or for both.

What is queued has a reason (`Responder.Due`): a service is announced to the groups of its scope; it
answers a query that was heard from an address in its scope, to the one who asked or to the group of
that family; or a question is asked.  Work only queues what is due (`Responder.Queues`), so
everything that is queued, and everything that went out, is due
(`Responder.Confined`, `Responder.confined_after`).  From this `Responder.confined`: a packet that
speaks of a service stays within the scope of the service, and tells no address outside.
-/

namespace ServiceDiscovery

open Dns (Name Packet Question Message)

/-! ### Services -/

namespace LocalService

/-- The service as it was when it was published. -/
def asPublished (s : LocalService) : LocalService :=
  { s with established := false, collided := false }

/-- The service was accepted, for a host whose name can be read. -/
def Vouched (s : LocalService) : Prop :=
  ∃ ad host addresses ttl, create ad host addresses ttl = .ok s.asPublished ∧ host.length < 255

/-- A service that has just been accepted has neither been announced nor collided. -/
theorem asPublished_of_create {ad : Advertisement} {host : Name}
    {addresses : Std.ExtTreeSet IpAddress} {ttl : UInt32} {s : LocalService}
    (h : create ad host addresses ttl = .ok s) : s.asPublished = s ∧ s.scope = ad.scope := by
  unfold create at h
  dsimp only at h
  split at h
  · -- without an address, or with an attribute that is too long, no service is made
    exact absurd h (by simp [throw, throwThe, MonadExceptOf.throw, Bind.bind, Except.bind])
  split at h
  · exact absurd h (by simp [throw, throwThe, MonadExceptOf.throw, Bind.bind, Except.bind])
  obtain ⟨type, -, h⟩ := Dns.bind_eq_ok.mp h
  obtain ⟨name, -, h⟩ := Dns.bind_eq_ok.mp h
  obtain ⟨announcement, -, h⟩ := Dns.bind_eq_ok.mp h
  obtain ⟨farewell, -, h⟩ := Dns.bind_eq_ok.mp h
  obtain rfl := Except.ok.inj h
  exact ⟨rfl, rfl⟩

/-- **Addresses in scope.** Whatever is read of a packet of a service that was accepted, the
addresses that it tells are in the scope of the service. -/
theorem Vouched.includes {s : LocalService} (h : Vouched s) {p : Packet}
    (hp : p = s.announcement ∨ p = s.farewell) {m : Message}
    (h_decode : Message.decode? p = some m) {r : Dns.Record} (hr : r ∈ m.records) {x : IpAddress}
    (hx : address? r = some x) : s.scope.includes x.scope = true := by
  -- both packets are made from the addresses of the host that the scope of the service includes
  obtain ⟨ad, host, addresses, ttl, h_create, -⟩ := h
  have h_accepted := accepted_of_create h_create
  have h_scope : s.scope = ad.scope := (asPublished_of_create h_create).2
  have h_mem : x ∈ advertised ad addresses := by
    rcases hp with rfl | rfl
    · exact h_accepted.mem_advertised_of_decode? (.inl rfl) h_decode hr hx
    · exact h_accepted.mem_advertised_of_decode? (.inr rfl) h_decode hr hx
  rw [h_scope]
  exact (mem_advertised.mp h_mem).2

end LocalService

/-! ### Responses and questions -/

/-- Whether a packet says that it is a response. -/
def saysResponse (p : Packet) : Bool := (p[2]?).any fun b => b &&& 0x80 != 0

theorem saysResponse_of_encode {m : Message} {p : Packet} (h : m.encode = .ok p) :
    saysResponse p = m.isResponse := by
  obtain ⟨d₁, questions, d₂, answers, d₃, additionals, -, -, -, rfl⟩ := Dns.encode_ok h
  generalize (m.truncated || _) = cut
  -- the flag is in the third octet, which is in the header whatever follows
  have h_get : ((Message.header (Message.flags m.isResponse cut) questions answers
      additionals).toArray ++ d₃.octets.extract 12)[2]? =
        some (Message.flags m.isResponse cut >>> 8).toUInt8 := by
    rw [Array.getElem?_append_left (by simp [Message.header, Dns.octets16])]
    rfl
  unfold saysResponse
  rw [h_get]
  cases m.isResponse <;> cases cut <;> rfl

/-- A question is not mistaken for a response. -/
theorem saysResponse_questionPacket {name : Name} {type : Dns.RecordType} {unicast : Bool}
    {p : Packet} (h : questionPacket name type unicast = .ok p) : saysResponse p = false :=
  saysResponse_of_encode (LocalService.mapError_eq_ok.mp h)

theorem LocalService.Vouched.saysResponse {s : LocalService} (h : s.Vouched) {p : Packet}
    (hp : p = s.announcement ∨ p = s.farewell) : ServiceDiscovery.saysResponse p = true := by
  obtain ⟨ad, host, addresses, ttl, h_create, -⟩ := h
  have h_accepted := accepted_of_create h_create
  rcases hp with rfl | rfl
  · exact saysResponse_of_encode h_accepted.announcement
  · exact saysResponse_of_encode h_accepted.farewell

namespace Responder

open LocalService (asPublished)

/-! ### What is queued -/

/-- What is browsed for: the type, the scope, and the packet that asks for it. -/
def search (r : Responder) : Option (Name × IpScope × Packet) :=
  r.browsing.map fun b => (b.type, b.scope, b.query)

theorem search_of_browsing {r : Responder} {b : Browsing} (hb : r.browsing = some b) :
    r.search = some (b.type, b.scope, b.query) := by
  rw [search, hb, Option.map_some]

/-- Neither what was published nor what is browsed for nor the machine changes, and packets with `P`
are added to what is to be sent. -/
structure Queues (P : Packet × Destination → Prop) (r r' : Responder) : Prop where
  services : r'.services.map asPublished = r.services.map asPublished
  search : r'.search = r.search
  machine : r'.machine = r.machine
  outgoing : ∀ out ∈ r'.outgoing, out ∈ r.outgoing ∨ P out

variable {P : Packet × Destination → Prop} {r r' r'' : Responder}

namespace Queues

theorem trans (h : Queues P r r') (h' : Queues P r' r'') : Queues P r r'' where
  services := h'.services.trans h.services
  search := h'.search.trans h.search
  machine := h'.machine.trans h.machine
  outgoing out h_out := (h'.outgoing out h_out).elim (h.outgoing out) .inr

/-- Where nothing is added. -/
theorem of_eq (h_services : r'.services.map asPublished = r.services.map asPublished)
    (h_search : r'.search = r.search) (h_machine : r'.machine = r.machine)
    (h_outgoing : r'.outgoing = r.outgoing) : Queues P r r' :=
  ⟨h_services, h_search, h_machine, fun _ h => .inl (h_outgoing ▸ h)⟩

theorem refl (r : Responder) : Queues P r r := of_eq rfl rfl rfl rfl

end Queues

/-- To announce a service is to queue its announcement for the groups of its scope. -/
theorem queues_announce (place : Nat) (r : Responder)
    (hP : ∀ s ∈ r.services.map asPublished, P (s.announcement, .groups s.scope)) :
    Queues P r (r.announce place) := by
  obtain h_eq | ⟨service, h_place, h_eq⟩ := announce_cases place r
  · -- no such service: nothing is queued
    rw [h_eq]
    exact .refl r
  have h_out : P (service.announcement, .groups service.scope) :=
    hP service.asPublished (List.mem_map_of_mem (List.mem_of_getElem? h_place))
  have h_added : ∀ out ∈ r.outgoing ++ [(service.announcement, .groups service.scope)],
      out ∈ r.outgoing ∨ P out := by
    intro out h_mem
    refine (List.mem_append.mp h_mem).imp_right fun h_new => ?_
    rw [List.mem_singleton.mp h_new]
    exact h_out
  obtain h_eq | h_eq := h_eq <;> rw [h_eq]
  · exact ⟨rfl, rfl, rfl, h_added⟩
  · refine ⟨?_, rfl, rfl, h_added⟩
    -- that it is established does not show in what was published
    have h_same : (r.services.map asPublished)[place]? =
        some { service with established := true }.asPublished := by
      rw [List.getElem?_map, h_place]
      rfl
    obtain ⟨h_lt, h_get⟩ := List.getElem?_eq_some_iff.mp h_same
    show (r.services.set place _).map asPublished = _
    rw [List.map_set, ← h_get, List.set_getElem_self]

theorem queues_announceDue (now : Nat) (r : Responder)
    (hP : ∀ s ∈ r.services.map asPublished, P (s.announcement, .groups s.scope)) :
    Queues P r (r.announceDue now) := by
  refine announceDue_induction (P := Queues P r) ?_ ?_ now (.refl r)
  · exact fun _ _ h => h.trans (.of_eq rfl rfl rfl rfl)
  · exact fun r' place h => h.trans (queues_announce place r' (h.services ▸ hP))

theorem queues_queryDue (now : Nat) (r : Responder)
    (hP : ∀ type scope packet, r.search = some (type, scope, packet) → P (packet, .groups scope)) :
    Queues P r (r.queryDue now) := by
  obtain h_eq | ⟨b, hb, -, h_eq⟩ := queryDue_cases now r <;> rw [h_eq]
  · exact .refl r
  · -- the query was made from what is browsed for
    have h_search := search_of_browsing hb
    refine ⟨rfl, h_search.symm, rfl, fun out h_mem => ?_⟩
    refine (List.mem_append.mp h_mem).imp_right fun h_new => ?_
    rw [List.mem_singleton.mp h_new]
    exact hP _ _ _ h_search

theorem queues_settleDue (now : Nat) (r : Responder) : Queues P r (r.settleDue now) := by
  obtain h_eq | ⟨b, hb, h_eq⟩ := settleDue_cases now r <;> rw [h_eq]
  · exact .refl r
  · exact .of_eq rfl (search_of_browsing hb).symm rfl rfl

theorem queues_expireDue (now : Nat) (r : Responder) : Queues P r (r.expireDue now) :=
  .of_eq rfl rfl rfl rfl

/-- What others claim does not show in what was published. -/
theorem queues_noteClaims (m : Message) (r : Responder) : Queues P r (r.noteClaims m) := by
  refine .of_eq ?_ rfl rfl rfl
  unfold noteClaims
  rw [List.map_map]
  refine List.map_congr_left fun s _ => ?_
  simp only [Function.comp_apply]
  split <;> rfl

/-- A response is taken in, and not answered. -/
theorem queues_takeIn (m : Message) (source : SocketAddress) (r : Responder) :
    Queues P r (r.takeIn m source) := by
  refine (queues_noteClaims m r).trans ?_
  obtain h_eq | ⟨b, hb, -, h_eq⟩ := takeIn_cases m source r <;> rw [h_eq]
  · exact .refl _
  · exact .of_eq rfl (search_of_browsing hb).symm rfl rfl

/-- Each answer is the announcement of a service in whose scope the one who asks is. -/
theorem mem_answersTo {m : Message} {source : SocketAddress} {services : List LocalService}
    {out : Packet × Destination} (h : out ∈ answersTo m source services) :
    ∃ s ∈ services, s.scope.includes source.scope = true ∧
      ∃ question, m.questions.find? s.answers = some question ∧
        out = (s.announcement,
          if question.unicast then .address source else .groups source.scope) := by
  -- who answers is one of those that the source's family concerns
  obtain ⟨s, hs, h_answer⟩ := List.mem_filterMap.mp h
  obtain ⟨h_mem, h_scope⟩ := List.mem_filter.mp hs
  obtain ⟨question, h_find, rfl⟩ := Option.map_eq_some_iff.mp h_answer
  exact ⟨s, h_mem, h_scope, question, h_find, rfl⟩

theorem queues_receive (octets : Packet) (source : SocketAddress) (r : Responder)
    (hP : ∀ m, Message.decode? (octets.take receiveLimit) = some m → m.truncated = false →
      m.isResponse = false → ∀ out ∈ answersTo m source r.services, P out) :
    Queues P r (r.receive octets source) := by
  obtain h_eq | ⟨m, h_decode, h_whole, ⟨-, h_eq⟩ | ⟨h_query, h_eq⟩⟩ :=
    receive_cases octets source r <;> rw [h_eq]
  · exact .refl r
  · exact queues_takeIn m source r
  · -- what is added is an answer of a service, to a question of the packet
    exact ⟨rfl, rfl, rfl, fun out h_mem => (List.mem_append.mp h_mem).imp_right
      (hP m h_decode h_whole h_query out)⟩

/-! ### Reasons -/

/-- Why a packet is to go where it goes, if some packets were heard. -/
inductive Due (heard : Packet → SocketAddress → Prop) (services : List LocalService) :
    Packet × Destination → Prop
  /-- A service is announced. -/
  | announcement {s : LocalService} : s ∈ services →
      Due heard services (s.announcement, .groups s.scope)
  /-- A service answers a query. -/
  | answer {s : LocalService} {octets : Packet} {source : SocketAddress} {m : Message}
      {question : Question} : s ∈ services → heard octets source →
      Message.decode? (octets.take receiveLimit) = some m → m.truncated = false →
      m.isResponse = false → m.questions.find? s.answers = some question →
      s.scope.includes source.scope = true →
      Due heard services
        (s.announcement, if question.unicast then .address source else .groups source.scope)
  /-- A question is asked. -/
  | question {name : Name} {type : Dns.RecordType} {packet : Packet} {scope : IpScope} :
      questionPacket name type false = .ok packet → Due heard services (packet, .groups scope)

variable {heard heard' : Packet → SocketAddress → Prop} {services services' : List LocalService}

/-- What is due stays due as more is published and more is heard. -/
theorem Due.mono {out : Packet × Destination} (h : Due heard services out)
    (h_services : ∀ s ∈ services, s ∈ services')
    (h_heard : ∀ octets source, heard octets source → heard' octets source) :
    Due heard' services' out := by
  cases h with
  | announcement hs => exact .announcement (h_services _ hs)
  | answer hs h_octets h_decode h_whole h_query h_find h_scope =>
    exact .answer (h_services _ hs) (h_heard _ _ h_octets) h_decode h_whole h_query h_find h_scope
  | question h_packet => exact .question h_packet

/-- All that is to be sent, and all that went out, is due. -/
structure Confined (heard : Packet → SocketAddress → Prop) (r : Responder) : Prop where
  vouched : ∀ s ∈ r.services, s.Vouched
  search : ∀ type scope packet, r.search = some (type, scope, packet) →
    questionPacket type .ptr false = .ok packet
  inbox : ∀ octets source, .datagram octets source ∈ r.machine.inbox → heard octets source
  outgoing : ∀ out ∈ r.outgoing, Due heard (r.services.map asPublished) out
  sent : ∀ x ∈ r.machine.sent, ∃ out, Due heard (r.services.map asPublished) out ∧
    x.Carries out.1 out.2

namespace Confined

/-- What was vouched for is what was published. -/
theorem vouched_of_map (h : ∀ s ∈ r.services, s.Vouched)
    (h_services : r'.services.map asPublished = r.services.map asPublished) :
    ∀ s ∈ r'.services, s.Vouched := by
  -- its establishment aside, the service is one of those that were published
  intro s hs
  have h_mem : s.asPublished ∈ r.services.map asPublished :=
    h_services ▸ List.mem_map_of_mem hs
  obtain ⟨s₀, hs₀, h_same⟩ := List.mem_map.mp h_mem
  obtain ⟨ad, host, addresses, ttl, h_create, h_host⟩ := h s₀ hs₀
  exact ⟨ad, host, addresses, ttl, h_same ▸ h_create, h_host⟩

theorem queues (h : Confined heard r)
    (hq : Queues (Due heard (r.services.map asPublished)) r r') : Confined heard r' where
  vouched := vouched_of_map h.vouched hq.services
  search := hq.search ▸ h.search
  inbox := hq.machine ▸ h.inbox
  outgoing out h_out := hq.services ▸ (hq.outgoing out h_out).elim (h.outgoing out) id
  sent := by
    rw [hq.machine, hq.services]
    exact h.sent

/-- What is to be sent goes out, each packet to where it is to go. -/
theorem flushSome (h : Confined heard r) (count : Nat) : Confined heard (r.flushSome count).2 := by
  obtain h_eq | ⟨t, -, h_eq⟩ := flushSome_cases count r <;> rw [h_eq]
  · exact h
  · -- what went out was in line, and what was not taken is in line still
    have h_sends := sends_dispatchAll t (r.outgoing.take count) r.machine
    exact {
      vouched := h.vouched
      search := h.search
      inbox := fun octets source h_mem => h.inbox octets source (h_sends.inbox ▸ h_mem)
      outgoing := fun out h_out => h.outgoing out (List.mem_of_mem_drop h_out)
      sent := fun x hx => by
        rcases h_sends.mem_sent hx with h_old | ⟨out, h_out, h_carries⟩
        · exact h.sent x h_old
        · exact ⟨out, h.outgoing out (List.mem_of_mem_take h_out), h_carries⟩ }

/-- So does a packet of which a part is sent; it stays in line. -/
theorem sendPart (h : Confined heard r) {passed : Nat} (h_part : r.sendPart? passed = some r') :
    Confined heard r' := by
  -- what goes out in part stays in line, so it is due as before
  obtain ⟨t, packet, scope, rest, m, -, h_outgoing, hm, rfl⟩ := sendPart?_eq_some h_part
  have h_sends := Machine.sends_multicastUntil? hm
  exact {
    vouched := h.vouched
    search := h.search
    inbox := fun octets source h_mem => h.inbox octets source (h_sends.inbox ▸ h_mem)
    outgoing := h.outgoing
    sent := fun x hx => by
      rcases h_sends.mem_sent hx with h_old | h_carries
      · exact h.sent x h_old
      · exact ⟨_, h.outgoing _ (h_outgoing ▸ List.mem_cons_self ..), h_carries⟩ }

/-- What has arrived is taken from what was heard. -/
theorem pop (h : Confined heard r) {arrival : Arrival} {inbox : List Arrival}
    (h_inbox : r.machine.inbox = arrival :: inbox) : Confined heard (r.pop inbox) where
  vouched := h.vouched
  search := h.search
  inbox octets source h_mem :=
    h.inbox octets source (h_inbox ▸ List.mem_cons_of_mem arrival h_mem)
  outgoing := h.outgoing
  sent := h.sent

theorem fail (h : Confined heard r) : Confined heard r.fail where
  vouched := h.vouched
  search := h.search
  inbox := h.inbox
  outgoing _ h_out := absurd h_out List.not_mem_nil
  sent := h.sent

/-- A query that was heard is answered where it is due. -/
theorem receive (h : Confined heard r) {octets : Packet} {source : SocketAddress}
    (h_heard : heard octets source) : Confined heard (r.receive octets source) := by
  refine h.queues (queues_receive octets source r fun m h_decode h_whole h_query out h_out => ?_)
  obtain ⟨s, hs, h_scope, question, h_find, rfl⟩ := mem_answersTo h_out
  exact .answer (s := s.asPublished) (List.mem_map_of_mem hs) h_heard h_decode h_whole h_query h_find
    h_scope

/-- **Moves.** Every elementary operation keeps to what is due. -/
theorem move (h : Confined heard r) (h_move : r.Move r') : Confined heard r' := by
  cases h_move with
  | attach _ ha =>
    -- the sockets come with the responder's own settings
    obtain ⟨t, -, rfl⟩ | ⟨t, -, rfl⟩ := attach_cases ha
    · exact h
    · exact h.queues (.of_eq rfl rfl rfl rfl)
  | announceDue _ => exact h.queues (queues_announceDue _ r fun s hs => .announcement hs)
  | queryDue _ _ =>
    exact h.queues (queues_queryDue _ r fun type scope packet h_search =>
      .question (h.search type scope packet h_search))
  | settleDue _ => exact h.queues (queues_settleDue _ r)
  | expireDue _ => exact h.queues (queues_expireDue _ r)
  | flushSome count _ => exact h.flushSome count
  | sendPart _ h_part => exact h.sendPart h_part
  -- what is taken from the inbox was heard, and so may be answered
  | receive _ _ h_inbox =>
    exact (h.pop h_inbox).receive (h.inbox _ _ (h_inbox ▸ List.mem_cons_self ..))
  | unattached _ _ => exact h.fail
  | unheard _ _ h_inbox => exact (h.pop h_inbox).fail

/-! ### Requests -/

/-- Whoever hears more has the same reasons and more. -/
theorem mono (h : Confined heard r)
    (h_heard : ∀ octets source, heard octets source → heard' octets source) :
    Confined heard' r where
  vouched := h.vouched
  search := h.search
  inbox octets source h_mem := h_heard _ _ (h.inbox octets source h_mem)
  outgoing out h_out := (h.outgoing out h_out).mono (fun _ hs => hs) h_heard
  sent x hx := by
    obtain ⟨out, h_due, h_carries⟩ := h.sent x hx
    exact ⟨out, h_due.mono (fun _ hs => hs) h_heard, h_carries⟩

/-- A service is published if it is accepted for the host. -/
theorem publish (h : Confined heard r) (ad : Advertisement) : Confined heard (r.publish ad).2 := by
  obtain ⟨refusal, h_eq⟩ | ⟨host, service, -, h_host, h_create, h_eq⟩ := publish_cases ad r <;>
    rw [h_eq]
  · exact h
  · -- what was due because of the services so far is due because of more of them
    have h_same := (LocalService.asPublished_of_create h_create).1
    have h_more : ∀ s ∈ r.services.map asPublished,
        s ∈ (r.services ++ [service]).map asPublished := by
      intro s hs
      rw [List.map_append]
      exact List.mem_append_left _ hs
    exact {
      vouched := fun s hs => by
        rcases List.mem_append.mp hs with h_old | h_new
        · exact h.vouched s h_old
        · rw [List.mem_singleton.mp h_new]
          exact ⟨ad, host, r.advertised, r.settings.ttl, h_same.symm ▸ h_create,
            LocalService.length_lt_of_hostNameOf h_host⟩
      search := h.search
      inbox := h.inbox
      outgoing := fun out h_out => (h.outgoing out h_out).mono h_more fun _ _ h => h
      sent := fun x hx => by
        obtain ⟨out, h_due, h_carries⟩ := h.sent x hx
        exact ⟨out, h_due.mono h_more fun _ _ h => h, h_carries⟩ }

/-- Browsing begins with a question for the type. -/
theorem browse (h : Confined heard r) (type : String) (scope : IpScope) :
    Confined heard (r.browse type scope).2 := by
  obtain ⟨refusal, h_eq⟩ | ⟨b, -, -, hb, h_eq⟩ := browse_cases type scope r <;> rw [h_eq]
  · exact h
  · obtain ⟨name, query, -, h_query, rfl⟩ := beginBrowsing_ok hb
    -- the only search of the responder is the one that has just begun
    refine ⟨h.vouched, fun type' scope' packet h_search => ?_, h.inbox, h.outgoing, h.sent⟩
    obtain ⟨rfl, h_rest⟩ := Prod.mk.inj (Option.some.inj h_search)
    exact (Prod.mk.inj h_rest).2 ▸ h_query

/-- To resolve is to ask a question, if anything. -/
theorem resolve (h : Confined heard r) (k : Sighting) (q : IpScope) :
    Confined heard (r.resolve k q).2 := by
  obtain ⟨_, h_eq⟩ | ⟨_, h_eq⟩ | ⟨b, -, -, ⟨c, -, h_eq⟩ | ⟨packet, -, h_packet, h_eq⟩⟩ :=
    resolve_cases k q r <;> rw [h_eq]
  · exact h
  · exact h.queues (.of_eq rfl rfl rfl rfl)
  · exact h.queues (.of_eq rfl rfl rfl rfl)
  · -- what is asked for is a question about a record
    refine h.queues ⟨rfl, rfl, rfl, fun out h_out => (List.mem_append.mp h_out).imp_right ?_⟩
    intro h_new
    rw [List.mem_singleton.mp h_new]
    exact .question h_packet

/-- Something arrives, or the machine changes otherwise. -/
theorem machine (h : Confined heard r) {m : Machine} (h_sent : m.sent = r.machine.sent)
    (h_inbox : ∀ octets source, .datagram octets source ∈ m.inbox → heard octets source) :
    Confined heard { r with machine := m } where
  vouched := h.vouched
  search := h.search
  inbox := h_inbox
  outgoing := h.outgoing
  sent x hx := h.sent x (h_sent ▸ hx)

end Confined

/-! ### Runs -/

/-- A packet came from an address, in some inputs. -/
def Heard (inputs : List Input) (octets : Packet) (source : SocketAddress) : Prop :=
  ∃ family, .outside (.arrives family (.datagram octets source)) ∈ inputs

theorem Heard.append {inputs : List Input} {octets : Packet} {source : SocketAddress}
    (h : Heard inputs octets source) (more : List Input) : Heard (inputs ++ more) octets source := by
  obtain ⟨family, h_mem⟩ := h
  exact ⟨family, List.mem_append_left _ h_mem⟩

/-- **Every input keeps to what is due.** -/
theorem Confined.step {inputs : List Input} (h : Confined (Heard inputs) r) (input : Input) :
    Confined (Heard (inputs ++ [input])) (r.step input).1 := by
  have h' : Confined (Heard (inputs ++ [input])) r := h.mono fun _ _ h => h.append [input]
  -- the packets that arrive with the input are part of what was heard
  cases input with
  | publish ad => exact h'.publish ad
  | browse type scope => exact h'.browse type scope
  | resolve k q => exact (step_resolve k q r).1 ▸ h'.resolve k q
  | release id => exact h'.queues (.of_eq rfl rfl rfl rfl)
  | poll =>
    obtain ⟨r', h_moves, h_step | ⟨event, events, -, h_step⟩⟩ := step_poll (moves_turn r)
    all_goals
      have h_moved := h_moves.keep (fun h_move h => h.move h_move) h'
      rw [h_step]
    · -- nothing was reported, or one event that the turn had left is taken out
      exact h_moved
    · exact h_moved.queues (.of_eq rfl rfl rfl rfl)
  | outside happening =>
    obtain h_moves | ⟨m, h_eq, h_sent, h_inbox⟩ := undergo_cases happening r
    · exact h_moves.keep (fun h_move h => h.move h_move) h'
    · -- what waits to be received was heard before, or arrives with this input
      rw [Responder.step, h_eq]
      refine h'.machine h_sent fun octets source h_mem => ?_
      obtain h_same | ⟨family, arrival, rfl, h_new⟩ := h_inbox
      · exact h'.inbox octets source (h_same ▸ h_mem)
      · rw [h_new] at h_mem
        rcases List.mem_append.mp h_mem with h_old | h_arrived
        · exact h'.inbox octets source h_old
        · rw [← List.mem_singleton.mp h_arrived]
          exact ⟨family, List.mem_append_right _ (List.mem_singleton_self _)⟩

theorem confined_after (os : OperatingSystem) (settings : Settings) (opened : Opened)
    (inputs : List Input) :
    Confined (Heard inputs)
      ((Dealings.ofResponder (.on os settings opened)).after inputs).responder := by
  induction inputs using List.reverseRecOn with
  | nil =>
    -- to begin with, nothing is published, searched for, received or sent
    exact {
      vouched := fun _ hs => absurd hs List.not_mem_nil
      search := fun _ _ _ h_search => absurd (show none = some _ from h_search) (by simp)
      inbox := fun _ _ h_mem => absurd h_mem List.not_mem_nil
      outgoing := fun _ h_out => absurd h_out List.not_mem_nil
      sent := fun _ hx => absurd hx List.not_mem_nil }
  | append_singleton inputs input ih =>
    rw [Dealings.after_concat]
    exact ih.step input

/-! ### Taking leave -/

/-- What goes out last are farewells of services that were announced, to the groups of their
scopes. -/
theorem mem_sent_close {x : Transmission} (hx : x ∈ r.close.machine.sent) :
    x ∈ r.machine.sent ∨
      ∃ s ∈ r.services, s.established = true ∧ x.Carries s.farewell (.groups s.scope) := by
  unfold close at hx
  split at hx
  · -- the farewells are sent one after another, through sockets that are still there
    next t _ =>
    have h_sends : Machine.Sends
        (fun x => ∃ s ∈ r.services, s.established = true ∧ x.Carries s.farewell (.groups s.scope))
        r.machine ((r.services.filter (·.established)).foldl
          (fun m service => (m.multicastNow t service.farewell service.scope).2) r.machine) := by
      refine .foldl id (fun s hs m => ?_) _
      obtain ⟨h_mem, h_established⟩ := List.mem_filter.mp hs
      exact (Machine.sends_multicastNow t s.farewell s.scope m).mono fun x hx =>
        ⟨s, h_mem, h_established, hx⟩
    exact h_sends.mem_sent hx
  · exact .inl hx

/-- Why a packet went out. -/
inductive Reason (inputs : List Input) (services : List LocalService) (x : Transmission) : Prop
  /-- A service is announced, to a group in its scope. -/
  | announcement (s : LocalService) (h_service : s ∈ services)
      (h_packet : x.packet = s.announcement) (h_group : x.destination = groupAddress x.family)
      (h_scope : s.scope.covers x.family = true)
  /-- A service answers a query that was heard from an address in its scope, over the family of that
  address: to the one who asked if that is permitted, otherwise to the group. -/
  | answer (s : LocalService) (octets : Packet) (source : SocketAddress) (m : Message)
      (question : Question) (h_service : s ∈ services) (h_packet : x.packet = s.announcement)
      (h_heard : Heard inputs octets source)
      (h_decode : Message.decode? (octets.take receiveLimit) = some m) (h_query : m.isResponse = false)
      (h_question : m.questions.find? s.answers = some question)
      (h_destination : x.destination =
        if question.unicast then source else groupAddress source.family)
      (h_family : x.family = source.family) (h_scope : s.scope.covers source.family = true)
  /-- A service that was announced takes its leave, from a group in its scope. -/
  | farewell (s : LocalService) (h_service : s ∈ services) (h_packet : x.packet = s.farewell)
      (h_established : s.established = true) (h_group : x.destination = groupAddress x.family)
      (h_scope : s.scope.covers x.family = true)
  /-- A question is asked. -/
  | question (name : Name) (type : Dns.RecordType)
      (h_packet : questionPacket name type false = .ok x.packet)

/-- A scope that holds a family alone covers no other. -/
theorem eq_of_covers {f g : Family} (h : f.scope.covers g = true) : g = f := by
  cases f <;> cases g <;> first | rfl | exact absurd h (by decide)

/-- What is due goes out for the reason that made it due. -/
theorem Due.reason {inputs : List Input} {out : Packet × Destination} {x : Transmission}
    (h : Due (Heard inputs) (r.services.map asPublished) out) (hx : x.Carries out.1 out.2) :
    Reason inputs r.services x := by
  -- by the reason why it was due
  cases h with
  | announcement h_service =>
    obtain ⟨s, hs, rfl⟩ := List.mem_map.mp h_service
    exact .announcement s hs hx.1 hx.2.1 hx.2.2
  | @answer _ octets source m question h_service h_heard h_decode _ h_query h_find h_scope =>
    obtain ⟨s, hs, rfl⟩ := List.mem_map.mp h_service
    have h_covers : s.scope.covers source.family = true :=
      (IpScope.includes_scope s.scope source.family).symm.trans h_scope
    refine .answer s octets source m question hs hx.1 h_heard h_decode h_query h_find ?_ ?_ h_covers
    -- where the answer goes to is settled by the question
    all_goals
      obtain ⟨-, h_there⟩ := hx
      cases h_unicast : question.unicast <;> rw [h_unicast] at h_there
    · rw [← eq_of_covers h_there.2]
      exact h_there.1
    · exact h_there.1
    · exact eq_of_covers h_there.2
    · exact h_there.2
  | question h_packet =>
    obtain rfl := hx.1
    exact .question _ _ h_packet

/-- **Confinement.** A responder is set up on sockets, and then asked for anything in any order,
while packets arrive, the clock goes on and the system refuses what it likes; in the end it is
closed.

Every packet that went out is a question, or it speaks of a service that was published: an
announcement or a farewell to a group in the scope of the service, or an answer to a query that was
heard from an address in its scope, which goes to that address or to the group of its family.  So a
packet that is the announcement or the farewell of a service went out for a service of this
announcement or farewell, over a family in its scope; it is no question.  Whatever is read of it,
all addresses that it tells are in the scope of the service. -/
theorem confined (os : OperatingSystem) (settings : Settings) (opened : Opened)
    (inputs : List Input) :
    let r := ((Dealings.ofResponder (.on os settings opened)).after inputs).responder
    let speaksOf (p : Packet) (s : LocalService) := p = s.announcement ∨ p = s.farewell
    (∀ x ∈ r.close.machine.sent, Reason inputs r.services x) ∧
    (∀ x ∈ r.close.machine.sent, ∀ s ∈ r.services, speaksOf x.packet s →
      ∃ s' ∈ r.services, speaksOf x.packet s' ∧ s'.scope.covers x.family = true ∧
        x.destination.family = x.family) ∧
    ∀ s ∈ r.services, ∀ p, speaksOf p s → ∀ m, Message.decode? p = some m →
      ∀ record ∈ m.records, ∀ address, LocalService.address? record = some address →
        s.scope.includes address.scope = true := by
  intro r speaksOf
  have h : Confined (Heard inputs) r := confined_after os settings opened inputs
  -- what was sent before was due; at the end come the farewells of what was established
  have h_reason : ∀ x ∈ r.close.machine.sent, Reason inputs r.services x := by
    intro x hx
    obtain h_before | ⟨s, hs, h_established, h_packet, h_group, h_scope⟩ := mem_sent_close hx
    · obtain ⟨out, h_due, h_carries⟩ := h.sent x h_before
      exact h_due.reason h_carries
    · exact .farewell s hs h_packet h_established h_group h_scope
  have h_family : ∀ f, (groupAddress f).family = f := fun f => by cases f <;> rfl
  refine ⟨h_reason, fun x hx s hs h_speaks => ?_, ?_⟩
  · -- the reason decides of which service the packet speaks
    cases h_reason x hx with
    | announcement s' hs' h_packet h_group h_scope =>
      exact ⟨s', hs', .inl h_packet, h_scope, h_group ▸ h_family x.family⟩
    | answer s' octets source m question hs' h_packet _ _ _ _ h_destination h_there h_scope =>
      refine ⟨s', hs', .inl h_packet, h_there ▸ h_scope, ?_⟩
      rw [h_destination, h_there]
      split
      · rfl
      · exact h_family _
    | farewell s' hs' h_packet _ h_group h_scope =>
      exact ⟨s', hs', .inr h_packet, h_scope, h_group ▸ h_family x.family⟩
    | question name type h_packet =>
      -- what speaks of a service says that it is a response
      have h_response := (h.vouched s hs).saysResponse h_speaks
      rw [saysResponse_questionPacket h_packet] at h_response
      exact absurd h_response (by simp)
  · -- the records are made of the addresses that the scope lets through
    intro s hs p hp m h_decode record h_record address h_address
    exact (h.vouched s hs).includes hp h_decode h_record h_address

end Responder
end ServiceDiscovery
