import ServiceDiscovery.Proofs.Multicast.Hosts
import ServiceDiscovery.Proofs.Multicast.Spellings

/-!
# What a farewell takes back

The farewell of a service has the records of its announcement, all of which take back what they say:
the pointer to the service, where it runs, and the addresses of its host.  A table that hears it
loses the entry of the service on the interface and family of the source, if there is one, and
reports that alone.  Every other entry stays.

Instances share what is known of the addresses of their host.  So an instance on the same host stays
too, and its service, but it is reached at the least of the addresses that are left, if there are
any; other instances are reached as before (`LocalService.farewell_spares_others`).
-/

namespace ServiceDiscovery

open Dns (Name Packet Record RecordData Message)

namespace PeerTable

variable {t u : PeerTable} {k : Sighting} {q : IpScope} {source : SocketAddress}

/-! ### Which address counts -/

/-- **How an instance is reached.** -/
theorem contact?_eq_some_iff {peer : Peer} (h_peer : t.peers[k]? = some peer) {c : Contact} :
    t.contact? k q = some c ↔ ∃ service, t.services[peer.name]? = some service ∧
      c.hostName = service.host.hostText ∧ c.port = service.port ∧ c.txt = service.txt ∧
      t.Least service.host q c.address := by
  constructor
  · intro h
    obtain ⟨peer', service, h_peer', h_service, h_contact⟩ := contact?_eq_some h
    -- the entry is the one that is looked up
    obtain rfl := Option.some.inj (h_peer.symm.trans h_peer')
    exact ⟨service, h_service, h_contact⟩
  · rintro ⟨service, h_service, h_host, h_port, h_txt, h_least⟩
    -- the least address that is included is the only one
    obtain ⟨x, h_some, h_least'⟩ := contact?_least h_peer h_service h_least.known h_least.scope
    rw [h_some, h_least'.unique h_least, ← h_host, ← h_port, ← h_txt]

/-- An instance of which nothing changes but that some addresses of its host are gone is reached as
before, unless it was reached at one of these. -/
theorem contact?_of_gone {gone : Name → IpAddress → Prop}
    (h_has : ∀ n x, u.Has n x ↔ t.Has n x ∧ ¬ gone n x) {peer : Peer}
    (h_peer : t.peers[k]? = some peer) (h_peer' : u.peers[k]? = some peer)
    (h_services : u.services[peer.name]? = t.services[peer.name]?) (q : IpScope) :
    u.contact? k q = t.contact? k q ∨ ∃ service c, t.services[peer.name]? = some service ∧
      t.contact? k q = some c ∧ gone service.host c.address := by
  cases h_contact : t.contact? k q with
  | none =>
    -- what is known now was known before
    refine .inl (Option.eq_none_iff_forall_ne_some.mpr fun c h => ?_)
    obtain ⟨service, h_service, -, -, -, h_least⟩ := (contact?_eq_some_iff h_peer').mp h
    rw [h_services] at h_service
    obtain ⟨x, h_some, -⟩ := contact?_least h_peer h_service
      ((h_has _ _).mp h_least.known).1 h_least.scope
    rw [h_some] at h_contact
    exact absurd h_contact (by simp)
  | some c =>
    obtain ⟨service, h_service, h_host, h_port, h_txt, h_least⟩ :=
      (contact?_eq_some_iff h_peer).mp h_contact
    by_cases h_gone : gone service.host c.address
    · exact .inr ⟨service, c, h_service, rfl, h_gone⟩
    · -- the address is still known, and nothing less is known now than was before
      refine .inl ((contact?_eq_some_iff h_peer').mpr ⟨service, h_services.trans h_service, h_host,
        h_port, h_txt, ?_⟩)
      exact {
        known := (h_has _ _).mpr ⟨h_least.known, h_gone⟩
        scope := h_least.scope
        le := fun y hy => h_least.le y ((h_has _ _).mp hy).1 }

/-! ### The first pass -/

/-- Who is there changes by pointers alone. -/
theorem takeFirst_of_not_pointer {r : Record} (h : ∀ a, r.data ≠ .ptr a) (interface : UInt32)
    (protocol : IpScope) (t : PeerTable) :
    (t.takeFirst interface protocol r).1.peers = t.peers ∧
      (t.takeFirst interface protocol r).2 = [] := by
  unfold takeFirst
  split
  · -- it is no pointer, and a service record does not touch the peers
    next a h_data => exact absurd h_data (h a)
  · split
    · rw [takeService_eq]
      exact ⟨rfl, rfl⟩
    · exact ⟨rfl, rfl⟩
  · exact ⟨rfl, rfl⟩

theorem hears_of_not_pointer {records : List Record} (h : ∀ r ∈ records, ∀ a, r.data ≠ .ptr a)
    (source : SocketAddress) (s : PeerTable × List Event) :
    (records.foldl (hear source) s).1.peers = s.1.peers ∧
      (records.foldl (hear source) s).2 = s.2 := by
  induction records generalizing s with
  | nil => exact ⟨rfl, rfl⟩
  | cons r records ih =>
    -- the first record, and then the rest on what it leaves
    obtain ⟨h_peers, h_events⟩ :=
      takeFirst_of_not_pointer (h r (List.mem_cons_self ..)) source.interface source.scope s.1
    obtain ⟨ih_peers, ih_events⟩ :=
      ih (fun r' hr' => h r' (List.mem_cons_of_mem r hr')) (hear source s r)
    rw [List.foldl_cons, ih_peers, ih_events]
    refine ⟨h_peers, ?_⟩
    rw [hear, h_events, List.append_nil]

/-- A farewell removes the entry that its pointer is kept under, and reports it. -/
theorem takeFirst_farewell {r : Record} {a : Name} (h_data : r.data = .ptr a) (h_ttl : r.ttl = 0)
    (interface : UInt32) (protocol : IpScope) (t : PeerTable) :
    (t.takeFirst interface protocol r).1.addresses = t.addresses ∧
    ((∃ k, r.owner.same t.type = true ∧ t.sighting? interface protocol a = some k ∧ k ∈ t.peers ∧
        (t.takeFirst interface protocol r).1.peers = t.peers.erase k ∧
        (t.takeFirst interface protocol r).2 = [.vanished k]) ∨
      (∀ k, r.owner.same t.type = true → t.sighting? interface protocol a = some k →
        k ∉ t.peers) ∧
        (t.takeFirst interface protocol r).1.peers = t.peers ∧
        (t.takeFirst interface protocol r).2 = []) := by
  unfold takeFirst
  rw [h_data]
  dsimp only
  by_cases h_owner : r.owner.same t.type = true
  · rw [if_pos h_owner]
    cases h_k : t.sighting? interface protocol a with
    -- no instance of the type
    | none => exact ⟨rfl, .inr ⟨by simp, rfl, rfl⟩⟩
    | some k =>
      dsimp only
      unfold takePointer
      rw [if_pos h_ttl]
      by_cases h_mem : k ∈ t.peers
      · -- the entry is there, and goes
        rw [if_pos h_mem]
        exact ⟨rfl, .inl ⟨k, h_owner, rfl, h_mem, rfl, rfl⟩⟩
      · -- there is no such entry
        rw [if_neg h_mem]
        refine ⟨rfl, .inr ⟨fun k' _ h_k' => ?_, rfl, rfl⟩⟩
        rwa [← Option.some.inj h_k']
  · -- a pointer of another type
    rw [if_neg h_owner]
    exact ⟨rfl, .inr ⟨fun _ h => absurd h h_owner, rfl, rfl⟩⟩

/-! ### The second pass -/

theorem peers_foldl_takeSecond (records : List Record) (t : PeerTable) :
    (records.foldl takeSecond t).peers = t.peers := by
  induction records generalizing t with
  | nil => rfl
  | cons r records ih => rw [List.foldl_cons, ih, peers_takeSecond]

/-- Of the addresses that are known, farewells leave those that they do not tell. -/
theorem has_foldl_farewells {records : List Record} (h_ttl : ∀ r ∈ records, r.ttl = 0) {n : Name}
    {x : IpAddress} :
    (records.foldl takeSecond t).Has n x ↔
      t.Has n x ∧ ¬ ∃ r ∈ records, r.owner.lower = n ∧ LocalService.address? r = some x := by
  -- with a goodbye no address is given
  have h_gives : ¬ Gives n x records := by
    rintro ⟨before, r, later, rfl, ⟨-, h_alive⟩, -⟩
    exact h_alive (h_ttl r (by simp))
  have h_back : TakesBack n x records ↔
      ∃ r ∈ records, r.owner.lower = n ∧ LocalService.address? r = some x :=
    exists_congr fun r => and_congr_right fun hr => and_iff_left (h_ttl r hr)
  rw [has_foldl_takeSecond, h_back]
  simp [h_gives]

/-- Of a response with a single pointer, in front, the pointer alone decides who is there; if all
its records say farewell, then all that becomes known of addresses is that those it tells are gone.
-/
theorem takeIn_farewell {r : Record} {rest : List Record}
    (h_rest : ∀ r' ∈ rest, ∀ a, r'.data ≠ .ptr a) (h_ttl : ∀ r' ∈ r :: rest, r'.ttl = 0)
    {u : PeerTable} {events : List Event}
    (h : t.takeFirst source.interface source.scope r = (u, events))
    (h_addresses : u.addresses = t.addresses) :
    (t.takeIn (r :: rest) source).2 = events ∧ (t.takeIn (r :: rest) source).1.peers = u.peers ∧
      ∀ n x, (t.takeIn (r :: rest) source).1.Has n x ↔
        t.Has n x ∧ ¬ ∃ r' ∈ r :: rest, r'.owner.lower = n ∧ LocalService.address? r' = some x := by
  have h_hear : hear source (t, []) r = (u, events) := by
    rw [hear, h, List.nil_append]
  obtain ⟨h_peers, h_events⟩ := hears_of_not_pointer h_rest source (u, events)
  have h_first : (r :: rest).foldl (hear source) (t, []) = rest.foldl (hear source) (u, events) := by
    rw [List.foldl_cons, h_hear]
  -- nothing after the pointer is a pointer, so the first pass only changes services from there on
  rw [takeIn_eq, h_first]
  refine ⟨h_events, (peers_foldl_takeSecond _ _).trans h_peers, fun n x => ?_⟩
  rw [has_foldl_farewells h_ttl]
  -- an entry of the table is as before, as long as the addresses are
  have h_has : ∀ {z : PeerTable}, z.addresses = t.addresses → (z.Has n x ↔ t.Has n x) := by
    intro z hz
    rw [Has, Has, hz]
  rw [h_has ((addresses_foldl_hear source rest (u, events)).trans h_addresses)]

end PeerTable

/-! ### Farewells of services -/

namespace LocalService

open PeerTable (Input)

variable {ad : Advertisement} {host : Name} {addresses : Std.ExtTreeSet IpAddress} {ttl : UInt32}
  {s : LocalService} {m : Message} {t : PeerTable} {source : SocketAddress}

/-- A record that takes back something of a service: it is not a pointer, and either of the service
and tells no address, or an address of its host. -/
structure TakesBack (s : LocalService) (r : Record) : Prop where
  ttl : r.ttl = 0
  not_pointer : ∀ a, r.data ≠ .ptr a
  about : r.owner = s.name ∧ address? r = none ∨ ∃ x, r = addressRecord s.host 0 x

/-- What a farewell says. -/
theorem Accepted.exists_takesBack (h : Accepted ad host addresses ttl s)
    (h_decode : Message.decode? s.farewell = some m) :
    ∃ rest, m.records =
        { owner := s.type, ttl := 0, cacheFlush := false, data := .ptr s.name } :: rest ∧
      ∀ r ∈ rest, s.TakesBack r := by
  obtain ⟨rest, h_records, h_rest⟩ := h.exists_records (.inr rfl) h_decode
  refine ⟨rest, h_records, fun r hr => ?_⟩
  -- the service record, the attributes or an address
  rcases h_rest r hr with rfl | rfl | ⟨x, -, rfl⟩
  · exact ⟨rfl, by simp, .inl ⟨rfl, rfl⟩⟩
  · refine ⟨rfl, ?_, .inl ⟨rfl, ?_⟩⟩
    · -- an empty list is written as one empty string, which is read as nothing
      cases entries ad.txt <;> simp [RecordData.received]
    · cases entries ad.txt <;> rfl
  · exact ⟨rfl, by cases x <;> simp [addressRecord], .inr ⟨x, rfl⟩⟩

theorem TakesBack.words {r : Record} (h : s.TakesBack r) {n : Name} (h_ne : n ≠ s.name.lower)
    (t : PeerTable) : t.firstWord? n r = none ∧ t.secondWord? n r = none := by
  unfold PeerTable.firstWord? PeerTable.secondWord?
  rcases h.about with ⟨h_owner, -⟩ | ⟨x, rfl⟩
  · -- about the service itself: its name is another one
    have h_not : ¬ (t.isOfType r.owner = true ∧ r.owner.lower = n) := by
      rw [h_owner]
      exact fun h => h_ne h.2.symm
    constructor <;> split <;> simp [h_not]
  · cases x <;> exact ⟨rfl, rfl⟩

/-- A farewell says nothing of other instances. -/
theorem Accepted.wordsOf_farewell (h : Accepted ad host addresses ttl s)
    (h_decode : Message.decode? s.farewell = some m) {n : Name} (h_ne : n ≠ s.name.lower)
    (t : PeerTable) (source : SocketAddress) : t.wordsOf n (.hears m.records source) = [] := by
  obtain ⟨rest, h_records, h_rest⟩ := h.exists_takesBack h_decode
  -- neither the pointer nor what follows says anything about another instance
  have h_words : ∀ r ∈ m.records, t.firstWord? n r = none ∧ t.secondWord? n r = none := by
    rw [h_records]
    exact List.forall_mem_cons.mpr ⟨⟨rfl, rfl⟩, fun r hr => (h_rest r hr).words h_ne t⟩
  rw [PeerTable.wordsOf, List.filterMap_eq_nil_iff.mpr fun r hr => (h_words r hr).1,
    List.filterMap_eq_nil_iff.mpr fun r hr => (h_words r hr).2]
  rfl

/-- The addresses that it tells are those of the host. -/
theorem Accepted.owner_of_told (h : Accepted ad host addresses ttl s)
    (h_decode : Message.decode? s.farewell = some m) {r : Record} (hr : r ∈ m.records)
    {x : IpAddress} (hx : address? r = some x) : r.owner = s.host := by
  -- the pointer leads, and tells no address
  obtain ⟨rest, h_records, h_rest⟩ := h.exists_takesBack h_decode
  rw [h_records] at hr
  rcases List.mem_cons.mp hr with rfl | hr
  · exact absurd hx (by simp [address?])
  · -- what is told of the service is no address, and an address is the host's
    rcases (h_rest r hr).about with ⟨-, h_none⟩ | ⟨y, rfl⟩
    · exact absurd (h_none.symm.trans hx) (by simp)
    · rfl

/-- The name of a service is kept under its sighting, if it is that of an instance. -/
theorem sighting?_name (h : Accepted ad host addresses ttl s) (t : PeerTable)
    (source : SocketAddress) :
    t.sighting? source.interface source.scope s.name =
      if t.isOfType s.name then some (sighting ad source t) else none := by
  unfold PeerTable.sighting? instanceText?
  rw [Name.head?, h.name, List.head?_cons, Option.map_some, Option.map_some, Utf8.textLossy_bytes]
  rfl

/-- A service that is found under its sighting has a name that is that of an instance: only an
asterisk is read as an asterisk. -/
theorem isOfType_name {names : Name → Prop} (h : Accepted ad host addresses ttl s)
    (h_filed : t.Filed names) (h_same : s.type.same t.type = true)
    (h_mem : sighting ad source t ∈ t.peers) : t.isOfType s.name = true := by
  rw [Std.ExtTreeMap.mem_iff_isSome_getElem?] at h_mem
  obtain ⟨peer, h_peer⟩ := Option.isSome_iff_exists.mp h_mem
  obtain ⟨a, -, h_a, -⟩ := h_filed _ peer h_peer
  obtain ⟨h_of, label, h_label, h_eq⟩ := PeerTable.sighting?_eq_some_iff.mp h_a
  have h_text : ad.name = Utf8.textLossy label := congrArg Sighting.name h_eq
  -- both names begin with an asterisk, or neither does
  have h_head : s.name.head? = some [42] ↔ a.head? = some [42] := by
    have h_asterisk : Utf8.bytes ad.name = [42] ↔ label = [42] := by
      rw [← Utf8.textLossy_eq_asterisk, Utf8.textLossy_bytes, h_text, Utf8.textLossy_eq_asterisk]
    rw [h_label, Name.head?, h.name, List.head?_cons, Option.some.injEq, Option.some.injEq,
      h_asterisk]
  -- and what follows is the type in both
  have h_base : s.name.base.same a.base = true := by
    have h_type : s.name.base = s.type := by
      rw [Name.ext_iff', Name.base_labels, h.name, List.tail_cons]
    rw [h_type, Name.same_iff, Name.same_iff.mp h_same]
    exact (Name.same_iff.mp (Bool.and_eq_true_iff.mp h_of).2).symm
  have h_length : s.name.labels.length = a.labels.length := by
    have h_tails := congrArg (List.length ∘ Name.labels) (Name.same_iff.mp h_base)
    simp only [Function.comp_apply, Name.lower_labels, List.length_map, Name.base_labels,
      List.length_tail] at h_tails
    have h_pos : 0 < a.labels.length :=
      List.length_pos_of_mem (List.mem_of_mem_head? h_label)
    have h_pos' : 0 < s.name.labels.length := by
      rw [h.name]
      exact Nat.succ_pos _
    omega
  rw [PeerTable.isOfType_congr h_head h_length h_base, h_of]

/-- Hearing the pointer of a farewell removes the entry of the service, if there is one. -/
theorem takeFirst_pointer {names : Name → Prop} (h : Accepted ad host addresses ttl s)
    (h_filed : t.Filed names) (source : SocketAddress) :
    let k₀ := sighting ad source t
    let u := t.takeFirst source.interface source.scope
      { owner := s.type, ttl := 0, cacheFlush := false, data := .ptr s.name }
    u.1.addresses = t.addresses ∧
    u.2 = (if s.type.same t.type = true ∧ k₀ ∈ t.peers then [.vanished k₀] else []) ∧
    ∀ k, .vanished k ∉ u.2 → u.1.peers[k]? = t.peers[k]? := by
  intro k₀ u
  obtain ⟨h_addresses, ⟨k, h_same, h_k, h_mem, h_peers, h_events⟩ | ⟨h_absent, h_peers, h_events⟩⟩ :=
    PeerTable.takeFirst_farewell
      (r := { owner := s.type, ttl := 0, cacheFlush := false, data := .ptr s.name }) rfl rfl
      source.interface source.scope t
  · -- the entry is that of the service
    obtain rfl : k₀ = k := by
      rw [sighting?_name h] at h_k
      split at h_k
      · exact Option.some.inj h_k
      · exact absurd h_k (by simp)
    refine ⟨h_addresses, h_events.trans (if_pos ⟨h_same, h_mem⟩).symm, fun k' hk' => ?_⟩
    -- the entry of another instance is another one
    have h_ne : ¬ k₀ = k' := by
      rintro rfl
      exact hk' (h_events ▸ List.mem_singleton_self _)
    rw [h_peers, Std.ExtTreeMap.getElem?_erase, if_neg (by simpa using h_ne)]
  · -- there is no entry to take leave
    refine ⟨h_addresses, h_events.trans (if_neg ?_).symm, fun k' _ => by rw [h_peers]⟩
    rintro ⟨h_same, h_mem⟩
    refine h_absent k₀ h_same ?_ h_mem
    rw [sighting?_name h, if_pos (isOfType_name h h_filed h_same h_mem)]

/-- **Farewells spare others.** A table that knew nothing takes in any responses from any sources,
with any queries in between, and then the farewell of a service from any source.

* It reports that the service has vanished from the interface and family of the source, if it was
  there, and nothing else.
* It does not know the addresses any more that the farewell tells of the host of the service, which
  are among those that the service is announced with, and any other address as before.
* Every entry but the one that is reported stays.  If it is that of another instance, what is known
  of its service stays as well, and it is reached in the same way, at the least of the addresses
  that are known of its host then: as before, unless it runs on the host of the service and was
  reached at an address that the farewell tells. -/
theorem farewell_spares_others (type : Name) (typeText : String) (inputs : List Input)
    (h : create ad host addresses ttl = .ok s) (h_decode : Message.decode? s.farewell = some m)
    (source : SocketAddress) :
    let t := ((PeerTable.empty type typeText).after inputs).1
    let k₀ := sighting ad source t
    let u := t.takeIn m.records source
    let told := fun x => ∃ r ∈ m.records, address? r = some x
    u.2 = (if s.type.same type = true ∧ k₀ ∈ t.peers then [.vanished k₀] else []) ∧
    (∀ x, told x → x ∈ addresses ∧ ad.scope.includes x.scope = true) ∧
    (∀ n x, u.1.Has n x ↔ t.Has n x ∧ ¬ (n = s.host.lower ∧ told x)) ∧
    ∀ k peer, t.peers[k]? = some peer → .vanished k ∉ u.2 →
      u.1.peers[k]? = some peer ∧
      (peer.name ≠ s.name.lower → ∀ q,
        (∀ c, u.1.contact? k q = some c ↔ ∃ service, t.services[peer.name]? = some service ∧
          c.hostName = service.host.hostText ∧ c.port = service.port ∧ c.txt = service.txt ∧
          u.1.Least service.host q c.address) ∧
        (u.1.contact? k q = t.contact? k q ∨ ∃ service c, t.services[peer.name]? = some service ∧
          t.contact? k q = some c ∧ service.host = s.host.lower ∧ told c.address)) := by
  have h_accepted := accepted_of_create h
  obtain ⟨rest, h_records, h_rest⟩ := h_accepted.exists_takesBack h_decode
  intro t k₀ u told
  have h_type : t.type = type := (PeerTable.alike_after (.empty type typeText) inputs).type
  -- who is there is decided by the pointer
  obtain ⟨h_addresses, h_events, h_kept⟩ := takeFirst_pointer h_accepted
    (PeerTable.filed_after type typeText inputs) source
  have h_ttl : ∀ r ∈ m.records, r.ttl = 0 := by
    rw [h_records]
    exact List.forall_mem_cons.mpr ⟨rfl, fun r hr => (h_rest r hr).ttl⟩
  rw [h_records] at h_ttl
  obtain ⟨h_reports, h_peers, h_has⟩ := PeerTable.takeIn_farewell
    (fun r hr => (h_rest r hr).not_pointer) h_ttl (Prod.mk.eta ..).symm h_addresses
  rw [← h_records] at h_reports h_peers h_has
  rw [← h_reports] at h_events h_kept
  rw [h_type] at h_events
  -- the addresses that are taken back are all of the one host
  have h_told : ∀ n x, (∃ r ∈ m.records, r.owner.lower = n ∧ address? r = some x) ↔
      n = s.host.lower ∧ told x := by
    intro n x
    constructor
    · rintro ⟨r, hr, rfl, hx⟩
      exact ⟨congrArg Name.lower (h_accepted.owner_of_told h_decode hr hx), r, hr, hx⟩
    · rintro ⟨rfl, r, hr, hx⟩
      exact ⟨r, hr, congrArg Name.lower (h_accepted.owner_of_told h_decode hr hx), hx⟩
  have h_left : ∀ n x, u.1.Has n x ↔ t.Has n x ∧ ¬ (n = s.host.lower ∧ told x) := by
    intro n x
    rw [← h_told]
    exact h_has n x
  refine ⟨h_events, ?_, h_left, fun k peer h_peer h_not => ?_⟩
  · rintro x ⟨r, hr, hx⟩
    exact mem_advertised.mp (h_accepted.mem_advertised_of_decode? (.inr rfl) h_decode hr hx)
  · have h_peer' : u.1.peers[k]? = some peer := by
      rw [h_peers, h_kept k h_not, h_peer]
    refine ⟨h_peer', fun h_ne q => ?_⟩
    -- and what is known of the services of others is not touched
    have h_services : u.1.services[peer.name]? = t.services[peer.name]? := by
      rw [PeerTable.services_takeIn peer.name m.records source (.refl t),
        h_accepted.wordsOf_farewell h_decode h_ne]
      rfl
    refine ⟨fun c => ?_, PeerTable.contact?_of_gone h_left h_peer h_peer' h_services q⟩
    rw [PeerTable.contact?_eq_some_iff h_peer', h_services]

/-! ### Two servers on one host -/

/-- A second server on the host of the first. -/
def secondServer : Advertisement :=
  { benchServer with name := "SoapyRemote @ bench 2", port := 55133 }

/-- What is said of a server on this host with its address, or taken back. -/
def serverRecords (name : Name) (port : UInt16) (ttl : UInt32) : List Record :=
  let host := PeerTable.nameOfTexts ["bench", "local"]
  [{ owner := PeerTable.benchType, ttl, cacheFlush := false, data := .ptr name },
    { owner := name, ttl, cacheFlush := true, data := .srv 0 0 port host },
    { owner := name, ttl, cacheFlush := true, data := .txt [Utf8.bytes "uuid=7f0c"] },
    { owner := host, ttl, cacheFlush := true, data := .a ⟨192, 168, 1, 7⟩ }]

/-- Labels of a name make that name. -/
theorem nameOf_labels (text : String) (n : Name) : nameOf text n.labels = .ok n := by
  obtain ⟨n', h⟩ : ∃ n', nameOf text n.labels = .ok n' := exists_nameOf n.labels_fit n.length_le
  rw [h, Name.ext_iff'.mpr (labels_of_nameOf h)]

/-- A server on the host is accepted, and its packets are read as what is said of it. -/
theorem exists_server (ad : Advertisement) {n : Name} (h_type : ad.serviceType = serverType)
    (h_txt : ad.txt = benchServer.txt) (h_scope : ad.scope = .any)
    (h_name : n.labels = Utf8.bytes ad.name :: PeerTable.benchType.labels)
    (h_short : n.length < 255) (h_host : hostNameOf "bench" = .ok host) :
    ∃ s m f, create ad host benchAddresses 120 = .ok s ∧ s.type = PeerTable.benchType ∧
      s.name = n ∧ Message.decode? s.announcement = some m ∧
      Message.decode? s.farewell = some f ∧ m.records = serverRecords n ad.port 120 ∧
      f.records = serverRecords n ad.port 0 := by
  -- the type, the name and the host are the ones that are written
  have h_typeName : typeName ad.serviceType = .ok PeerTable.benchType := by
    have h_labels : labelsOf serverType ++ [domainLabel] = PeerTable.benchType.labels := by decide
    rw [h_type, typeName, h_labels, nameOf_labels]
  have h_nameInType : nameInType ad.name PeerTable.benchType = .ok n := by
    rw [nameInType, ← h_name, nameOf_labels]
  -- a host name is the labels it is made of
  obtain rfl : host = PeerTable.nameOfTexts ["bench", "local"] := by
    rw [Name.ext_iff', labels_of_nameOf h_host]
    decide
  -- there is one attribute, and the addresses are all advertised
  have h_text : entries ad.txt = [Utf8.bytes "uuid=7f0c"] := by
    rw [h_txt]
    rfl
  have h_address := advertised_benchAddresses ad (by rw [h_scope]; rfl)
  have h_length : (PeerTable.nameOfTexts ["bench", "local"]).length < 255 := by decide
  obtain ⟨s, h, h_s, rfl, h_clear, h_clear'⟩ :=
    exists_clear h_typeName h_nameInType h_length h_text (by decide) h_address 120
  have h_accepted := accepted_of_create h
  -- both packets have the same records, but for the time to live
  have h_read : ∀ {p t}, (p, t) = (s.announcement, 120) ∨ (p, t) = (s.farewell, 0) →
      Dns.marksTruncation p = false → ∃ m, Message.decode? p = some m ∧
        m.records = serverRecords s.name ad.port t := by
    intro p t h_packet h_clear
    have h_decode := decode?_response (type_length_lt h_accepted.name) h_accepted.texts
      (h_accepted.encode h_packet) h_clear
    rw [if_pos h_short] at h_decode
    refine ⟨_, h_decode, ?_⟩
    rw [received_response, h_text, h_address, h_s]
    rfl
  obtain ⟨m, h_decode, h_records⟩ := h_read (.inl rfl) h_clear
  obtain ⟨f, h_decode', h_records'⟩ := h_read (.inr rfl) h_clear'
  exact ⟨s, m, f, h, h_s, rfl, h_decode, h_decode', h_records, h_records'⟩

def benchServerName : Name :=
  PeerTable.nameOfTexts ["SoapyRemote @ bench", "_soapy", "_tcp", "local"]

def secondServerName : Name :=
  PeerTable.nameOfTexts ["SoapyRemote @ bench 2", "_soapy", "_tcp", "local"]

/-- A table that has heard of both servers. -/
def bothServers : PeerTable :=
  ((PeerTable.empty PeerTable.benchType serverType).after
    [.hears (serverRecords benchServerName 55132 120) benchSource,
      .hears (serverRecords secondServerName 55133 120) benchSource]).1

/-- The second server, as it is seen there. -/
def secondSighting : Sighting := sighting secondServer benchSource bothServers

/-- When one of two servers on a host takes its leave, it is reported, and the other stays. -/
theorem bench_leaves_second : ∃ host s f, hostNameOf "bench" = .ok host ∧
    create benchServer host benchAddresses 120 = .ok s ∧ Message.decode? s.farewell = some f ∧
    (bothServers.takeIn f.records benchSource).2 =
      [.vanished (sighting benchServer benchSource bothServers)] ∧
    ∃ peer, bothServers.peers[secondSighting]? = some peer ∧
      (bothServers.takeIn f.records benchSource).1.peers[secondSighting]? = some peer := by
  obtain ⟨host, h_host, -⟩ := exists_hostNameOf "bench" (by decide)
  obtain ⟨s, m, f, h, h_type, -, -, h_decode, -, -⟩ := exists_server benchServer
    (n := benchServerName) rfl rfl rfl (by decide) (by decide) h_host
  -- what the farewell does is known in general, whatever else was heard before
  obtain ⟨h_events, -, -, h_others⟩ := farewell_spares_others PeerTable.benchType serverType
    [.hears (serverRecords benchServerName 55132 120) benchSource,
      .hears (serverRecords secondServerName 55133 120) benchSource] h h_decode benchSource
  have h_mem : sighting benchServer benchSource bothServers ∈ bothServers.peers := by
    decide +kernel
  rw [if_pos ⟨by rw [h_type, Name.same_self], h_mem⟩] at h_events
  have h_second : (bothServers.peers[secondSighting]?).isSome = true := by decide +kernel
  obtain ⟨peer, h_peer⟩ := Option.isSome_iff_exists.mp h_second
  refine ⟨host, s, f, h_host, h, h_decode, h_events, peer, h_peer,
    (h_others _ peer h_peer fun h_reported => ?_).1⟩
  -- only the entry of the service that left is reported
  rw [h_events, List.mem_singleton] at h_reported
  have h_name := congrArg Sighting.name (Event.vanished.inj h_reported)
  exact absurd h_name (by decide)

/-- But it cannot be reached any more, as its host has taken back its address. -/
theorem second_is_not_reached : ∃ host s u m m' f, hostNameOf "bench" = .ok host ∧
    create benchServer host benchAddresses 120 = .ok s ∧
    create secondServer host benchAddresses 120 = .ok u ∧
    Message.decode? s.announcement = some m ∧ Message.decode? u.announcement = some m' ∧
    Message.decode? s.farewell = some f ∧ u.name.same s.name = false ∧
    let t := ((PeerTable.empty PeerTable.benchType serverType).after
      [.hears m.records benchSource, .hears m'.records benchSource]).1
    let k := sighting secondServer benchSource t
    k ∈ t.peers ∧ (t.contact? k .v4).isSome = true ∧
      (t.takeIn f.records benchSource).1.contact? k .v4 = none := by
  obtain ⟨host, h_host, -⟩ := exists_hostNameOf "bench" (by decide)
  obtain ⟨s, m, f, h, -, h_name, h_decode, h_decode', h_records, h_records'⟩ :=
    exists_server benchServer (n := benchServerName) rfl rfl rfl (by decide) (by decide) h_host
  obtain ⟨u, m', -, h', -, h_name', h_decode'', -, h_records'', -⟩ :=
    exists_server secondServer (n := secondServerName) rfl rfl rfl (by decide) (by decide) h_host
  -- the two names differ
  refine ⟨host, s, u, m, m', f, h_host, h, h', h_decode, h_decode'', h_decode', ?_, ?_⟩
  · rw [h_name, h_name']
    decide
  · -- before the farewell the second is reached, and after it no more
    rw [h_records, h_records', h_records'']
    have h_reached : (bothServers.contact? secondSighting .v4).isSome = true := by decide +kernel
    have h_gone : ((bothServers.takeIn (serverRecords benchServerName 55132 0) benchSource).1.contact?
      secondSighting .v4).isNone = true := by decide +kernel
    exact ⟨by decide +kernel, h_reached, Option.isNone_iff_eq_none.mp h_gone⟩

end LocalService
end ServiceDiscovery
