import ServiceDiscovery.Proofs.Multicast.Hearing
import ServiceDiscovery.Proofs.Multicast.Questions

/-!
# Claims to a name

Two hosts may publish services under one name.  Each finds out by reading what the other announces:
the name of a service is claimed in a packet if a record of it says that the service of that name
runs on another host (`LocalService.IsClaimedIn`).

The announcement of a service claims the name of any other that is called the same and runs on
another host, and no other name (`LocalService.isClaimedIn_announcement_iff`), and its farewell
claims none, be it cut or not (`LocalService.not_isClaimedIn_farewell`).  So of two services, each
is claimed by the other or neither is, and none by itself (`LocalService.claims_are_mutual`).

All of this holds of names that can be read.  A name that takes 255 octets is accepted and
announced, but two hosts that use it do not learn of each other
(`LocalService.long_name_is_not_claimed`). -/

namespace ServiceDiscovery
namespace LocalService

open Dns (Name Packet Record RecordData Message marksTruncation)

/-- Whoever publishes the service, and reads the packet, finds its name claimed. -/
def IsClaimedIn (p : Packet) (s : LocalService) : Prop :=
  ∃ m, Message.decode? p = some m ∧ m.records.any s.isClaimedBy = true

variable {ad ad' : Advertisement} {host host' : Name}
  {addresses addresses' : Std.ExtTreeSet IpAddress} {ttl ttl' : UInt32} {s u : LocalService}

/-! ### Records that claim -/

/-- A record that says farewell claims nothing. -/
theorem isClaimedBy_of_ttl {r : Record} (h : r.ttl = 0) : s.isClaimedBy r = false := by
  simp [isClaimedBy, h]

/-- Only service records claim. -/
theorem isClaimedBy_of_type {r : Record} (h : r.data.type ≠ .srv) : s.isClaimedBy r = false := by
  unfold isClaimedBy
  split
  · next h_data =>
    rw [h_data] at h
    exact absurd rfl h
  · exact Bool.and_false _

theorem type_addressRecord_ne (owner : Name) (ttl : UInt32) (x : IpAddress) :
    (addressRecord owner ttl x).data.type ≠ .srv := by
  cases x
  · exact show Dns.RecordType.a ≠ .srv by decide
  · exact show Dns.RecordType.aaaa ≠ .srv by decide

/-- Targets are written in lower case, which does not matter. -/
theorem lower_same (m n : Name) : m.lower.same n = m.same n := by
  rw [Bool.eq_iff_iff, Name.same_iff, Name.same_iff, Name.lower_lower]

/-- Of all that is said of a service, its service record alone claims a name: the name it is of, if
that is the name of a service on another host. -/
theorem any_isClaimedBy (type name target : Name) (port : UInt16) (texts : List (List UInt8))
    (reached : List IpAddress) (ttl : UInt32) (s : LocalService) :
    (response type name target port texts reached ttl).received.records.any s.isClaimedBy =
      (ttl != 0 && name.same s.name && !target.same s.host) := by
  -- only the record of the service claims anything
  have h_pointer : s.isClaimedBy { owner := type, ttl, cacheFlush := false, data := .ptr name } =
      false := isClaimedBy_of_type (show Dns.RecordType.ptr ≠ .srv by decide)
  have h_txt : Dns.RecordType.txt ≠ .srv := by decide
  have h_texts : s.isClaimedBy
      { owner := name, ttl, cacheFlush := true, data := (RecordData.txt texts).received } = false :=
    isClaimedBy_of_type (by rw [RecordData.received_type]; exact h_txt)
  have h_addresses : (reached.map (addressRecord target ttl)).any s.isClaimedBy = false := by
    rw [List.any_map, List.any_eq_false]
    intro x _
    rw [Function.comp_apply, isClaimedBy_of_type (type_addressRecord_ne target ttl x)]
    exact Bool.false_ne_true
  rw [received_response]
  simp only [Message.records, List.cons_append, List.nil_append, List.any_cons, h_pointer, h_texts,
    h_addresses, Bool.false_or, Bool.or_false]
  simp only [isClaimedBy, lower_same]

/-! ### Packets that claim -/

/-- **What an announcement claims.** An announcement that is not marked as truncated claims the name
of a service just if it is the same as the name that is announced, the hosts are not the same, and
the name can be read. -/
theorem isClaimedIn_announcement_iff (h : Accepted ad host addresses ttl u) (h_ttl : ttl ≠ 0)
    (h_clear : marksTruncation u.announcement = false) :
    s.IsClaimedIn u.announcement ↔
      u.name.same s.name = true ∧ u.host.same s.host = false ∧ u.name.length < 255 := by
  -- what is read of it is what was written, if the name can be read, and nothing otherwise
  have h_decode := decode?_response (type_length_lt h.name) h.texts h.announcement h_clear
  unfold IsClaimedIn
  rw [h_decode]
  by_cases h_short : u.name.length < 255
  · simp only [if_pos h_short, Option.some.injEq, exists_eq_left', any_isClaimedBy, h.host_eq]
    simp [h_short, h_ttl]
  · rw [if_neg h_short]
    simp [h_short]

/-- **Farewells claim nothing**, whatever is read of them. -/
theorem not_isClaimedIn_farewell (h : Accepted ad host addresses ttl u) (s : LocalService) :
    ¬ s.IsClaimedIn u.farewell := by
  rintro ⟨m, h_decode, h_any⟩
  obtain ⟨rest, h_records, h_rest⟩ := h.exists_records (.inr rfl) h_decode
  obtain ⟨r, hr, h_claims⟩ := List.any_eq_true.mp h_any
  -- each record of a farewell ends something, and what ends claims nothing
  have h_ttl : r.ttl = 0 := by
    rw [h_records] at hr
    rcases List.mem_cons.mp hr with rfl | hr
    · rfl
    · rcases h_rest r hr with rfl | rfl | ⟨x, -, rfl⟩ <;> rfl
  rw [isClaimedBy_of_ttl h_ttl] at h_claims
  exact Bool.false_ne_true h_claims

/-- **Claims are mutual.** Of two services that are announced for some time, in packets that are not
marked as truncated, one is claimed by the other just if their names are the same and can be read,
and their hosts are not the same.  So each is claimed by the other or neither is, none is claimed by
its own announcement, and none by any farewell. -/
theorem claims_are_mutual (h : create ad host addresses ttl = .ok s)
    (h' : create ad' host' addresses' ttl' = .ok u) (h_ttl : ttl ≠ 0) (h_ttl' : ttl' ≠ 0)
    (h_clear : marksTruncation s.announcement = false)
    (h_clear' : marksTruncation u.announcement = false) :
    (s.IsClaimedIn u.announcement ↔
      u.name.same s.name = true ∧ u.host.same s.host = false ∧ u.name.length < 255) ∧
    (s.IsClaimedIn u.announcement ↔ u.IsClaimedIn s.announcement) ∧
    ¬ s.IsClaimedIn s.announcement ∧
    ∀ v : LocalService, ¬ v.IsClaimedIn s.farewell := by
  have h_accepted := accepted_of_create h
  -- the claim is in the one record of the service
  have h_iff := isClaimedIn_announcement_iff (s := s) (accepted_of_create h') h_ttl' h_clear'
  refine ⟨h_iff, ?_, ?_, not_isClaimedIn_farewell h_accepted⟩
  · rw [h_iff, isClaimedIn_announcement_iff h_accepted h_ttl h_clear, Name.same_comm u.name,
      Name.same_comm u.host]
    -- names that are the same can both be read or not
    refine and_congr_right fun h_same => and_congr_right fun _ => ?_
    rw [Dns.Name.length_of_same h_same]
  · -- it does not claim its own name, as it has its own host
    rw [isClaimedIn_announcement_iff h_accepted h_ttl h_clear]
    rintro ⟨-, h_host, -⟩
    rw [Name.same_self] at h_host
    exact Bool.noConfusion h_host

/-! ### Two hosts -/

/-- The hosts are not the same. -/
theorem not_same_host (h : hostNameOf "bench" = .ok host) (h' : hostNameOf "attic" = .ok host') :
    host'.same host = false := by
  rw [Bool.eq_false_iff]
  intro h_same
  have h_labels := congrArg Name.labels (Name.same_iff.mp h_same)
  rw [Name.lower_labels, Name.lower_labels, labels_of_nameOf h, labels_of_nameOf h'] at h_labels
  exact absurd h_labels (by decide)

/-- Two services that are accepted for one advertisement have one name. -/
theorem name_eq_of_create (h : create ad host addresses ttl = .ok s)
    (h' : create ad host' addresses' ttl' = .ok u) : u.name = s.name := by
  have h_accepted := accepted_of_create h
  have h_accepted' := accepted_of_create h'
  have h_type : u.type = s.type :=
    Except.ok.inj (h_accepted'.type.symm.trans h_accepted.type)
  rw [Name.ext_iff', h_accepted.name, h_accepted'.name, h_type]

/-- Two hosts that publish a server under one name find each other's claim. -/
theorem benches_claim_each_other : ∃ host host' s u, hostNameOf "bench" = .ok host ∧
    hostNameOf "attic" = .ok host' ∧ create benchServer host benchAddresses 120 = .ok s ∧
    create benchServer host' benchAddresses 120 = .ok u ∧ s.IsClaimedIn u.announcement ∧
    u.IsClaimedIn s.announcement ∧ ¬ s.IsClaimedIn s.announcement := by
  obtain ⟨host, h_host, h_short⟩ := exists_hostNameOf "bench" (by decide)
  obtain ⟨host', h_host', h_short'⟩ := exists_hostNameOf "attic" (by decide)
  have h_address := advertised_benchAddresses benchServer (by decide)
  obtain ⟨s, h, h_name, h_clear⟩ := exists_clear_bench_on h_short h_address
  obtain ⟨u, h', -, h_clear'⟩ := exists_clear_bench_on h_short' h_address
  -- both have the name of the server, and different hosts
  have h_same := name_eq_of_create h h'
  obtain ⟨h_iff, h_mutual, h_self, -⟩ :=
    claims_are_mutual h h' (by decide) (by decide) h_clear h_clear'
  have h_claimed : s.IsClaimedIn u.announcement := by
    refine h_iff.mpr ⟨by rw [h_same, Name.same_self], ?_, by rw [h_same, h_name]; decide⟩
    rw [(accepted_of_create h).host_eq, (accepted_of_create h').host_eq]
    exact not_same_host h_host h_host'
  exact ⟨host, host', s, u, h_host, h_host', h, h', h_claimed, h_mutual.mp h_claimed, h_self⟩

/-- Two hosts that publish a server under a name of 255 octets do not. -/
theorem long_name_is_not_claimed : ∃ host host' s u, hostNameOf "bench" = .ok host ∧
    hostNameOf "attic" = .ok host' ∧ create longServer host benchAddresses 120 = .ok s ∧
    create longServer host' benchAddresses 120 = .ok u ∧
    marksTruncation s.announcement = false ∧ marksTruncation u.announcement = false ∧
    u.name.same s.name = true ∧ u.host.same s.host = false ∧ ¬ s.IsClaimedIn u.announcement := by
  obtain ⟨host, h_host, h_short⟩ := exists_hostNameOf "bench" (by decide)
  obtain ⟨host', h_host', h_short'⟩ := exists_hostNameOf "attic" (by decide)
  have h_address := advertised_benchAddresses longServer (by decide)
  obtain ⟨s, h, -, -, h_clear⟩ := exists_clear_long_on h_short h_address
  obtain ⟨u, h', -, h_name, h_clear'⟩ := exists_clear_long_on h_short' h_address
  have h_accepted := accepted_of_create h'
  refine ⟨host, host', s, u, h_host, h_host', h, h', h_clear, h_clear', ?_, ?_, ?_⟩
  · -- both names are the same
    rw [name_eq_of_create h h', Name.same_self]
  · -- and the hosts are not
    rw [(accepted_of_create h).host_eq, h_accepted.host_eq]
    exact not_same_host h_host h_host'
  · -- but the name is too long to be read
    rw [isClaimedIn_announcement_iff h_accepted (by decide) h_clear']
    rintro ⟨-, -, h_short⟩
    omega

end LocalService
end ServiceDiscovery
