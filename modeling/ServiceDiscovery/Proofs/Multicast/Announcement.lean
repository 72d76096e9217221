import Mathlib.Data.List.Nodup
import ServiceDiscovery.Multicast.LocalService
import ServiceDiscovery.Proofs.Dns.Cut

/-!
# What is announced

A service that is accepted is announced, and taken back, by a packet that was written when it was
accepted.  A packet is good if it is read as a message that says everything about the service: the
pointer to it, where it runs, its attributes, and every address in its scope, each once
(`LocalService.Tells`).

Both packets of an accepted service are good just if they are not marked as truncated and the name
of the service is shorter than 255 octets (`LocalService.tells_iff`).  Nothing that is checked when
a service is accepted sees to either.  The number of records is compared with what sixteen bits can
count, and not with the room they take: any number of addresses that can be counted is accepted
(`LocalService.exists_create`), so that a service with too many is accepted with packets that peers
do not look at (`LocalService.crowd_is_accepted`); it would have to be refused for having too many.
-/

namespace ServiceDiscovery

open Dns (Name Packet Record RecordData Message marksTruncation)

namespace LocalService

/-- The addresses that a service is announced with: those of the host in its scope, in order. -/
def advertised (ad : Advertisement) (addresses : Std.ExtTreeSet IpAddress) : List IpAddress :=
  addresses.toList.filter (ad.scope.includes ·.scope)

/-- The message says everything about the service, each record with this time to live. -/
structure Tells (ad : Advertisement) (addresses : Std.ExtTreeSet IpAddress) (s : LocalService)
    (ttl : UInt32) (m : Message) : Prop where
  whole : m.truncated = false
  pointer : m.answers = [{ owner := s.type, ttl, cacheFlush := false, data := .ptr s.name }]
  service : ∃ target, target.same s.host ∧
    { owner := s.name, ttl, cacheFlush := true, data := .srv 0 0 ad.port target } ∈ m.additionals
  /-- A text without entries is read as no data. -/
  attributes : ∃ data, data = (if ad.txt = ∅ then .other .txt else .txt (entries ad.txt)) ∧
    { owner := s.name, ttl, cacheFlush := true, data } ∈ m.additionals
  addresses : ∀ x ∈ addresses, ad.scope.includes x.scope →
    m.additionals.count (addressRecord s.host ttl x) = 1

/-! ### Reading a response -/

section Response

variable {type name host : Name} {port : UInt16} {texts : List (List UInt8)}
  {reached : List IpAddress} {ttl : UInt32} {p : Packet}

/-- What is read of the response that announces a service. -/
theorem received_response :
    (response type name host port texts reached ttl).received =
      { isResponse := true
        truncated := false
        questions := []
        answers := [{ owner := type, ttl, cacheFlush := false, data := .ptr name }]
        additionals :=
          { owner := name, ttl, cacheFlush := true, data := .srv 0 0 port host.lower } ::
            { owner := name, ttl, cacheFlush := true, data := (RecordData.txt texts).received } ::
              reached.map (addressRecord host ttl) } := by
  -- records of addresses are read as they were sent
  have h_addresses : (reached.map (addressRecord host ttl)).map Record.received =
      reached.map (addressRecord host ttl) := by
    rw [List.map_map]
    refine List.map_congr_left fun x _ => ?_
    cases x <;> rfl
  unfold response Message.response Message.received
  rw [List.map_append, h_addresses]
  rfl

/-- A response can be read if its names and texts are short enough. -/
theorem legible_response (h_type : type.length < 255) (h_name : name.length < 255)
    (h_host : host.length < 255) (h_texts : ∀ text ∈ texts, text.length ≤ 255) :
    (response type name host port texts reached ttl).Legible where
  questions := by simp [response, Message.response]
  answers := by
    intro r hr
    obtain rfl := List.mem_singleton.mp hr
    exact ⟨h_type, h_name⟩
  additionals := by
    intro r hr
    rcases List.mem_append.mp hr with hr | hr
    · -- of the additional records the first two are about the service, the others are addresses
      rcases List.mem_cons.mp hr with rfl | hr
      · exact ⟨h_name, h_host⟩
      · obtain rfl := List.mem_singleton.mp hr
        exact ⟨h_name, h_texts⟩
    · obtain ⟨x, -, rfl⟩ := List.mem_map.mp hr
      refine ⟨h_host, ?_⟩
      cases x <;> trivial

/-- The name of a service ends in its type, which is written first. -/
theorem shares_response (h_type : type.length < 255) (h_ne : type.labels ≠ [])
    (h_name : type.labels <:+ name.labels) (h_host : host.length < 255) :
    (response type name host port texts reached ttl).Shares
      { owner := type, ttl, cacheFlush := false, data := .ptr name } [] where
  questions := rfl
  answers := rfl
  owner := h_type
  owner_ne := h_ne
  data := .inr ⟨h_ne, h_name⟩
  others := by
    intro r hr
    rw [List.nil_append] at hr
    -- each is named like the service, or like the host
    rcases List.mem_append.mp hr with hr | hr
    · rcases List.mem_cons.mp hr with rfl | hr
      · exact ⟨.inr ⟨h_ne, h_name⟩, h_host⟩
      · obtain rfl := List.mem_singleton.mp hr
        exact ⟨.inr ⟨h_ne, h_name⟩, trivial⟩
    · obtain ⟨x, -, rfl⟩ := List.mem_map.mp hr
      refine ⟨.inl h_host, ?_⟩
      cases x <;> trivial

/-- **Reading a response.** A response that is not marked as truncated is read as what it says,
unless the name of the service is too long. -/
theorem decode?_response (h_type : type.length < 255) (h_texts : ∀ text ∈ texts, text.length ≤ 255)
    (h : (response type name host port texts reached ttl).encode = .ok p)
    (h_clear : marksTruncation p = false) :
    Message.decode? p = if name.length < 255
      then some (response type name host port texts reached ttl).received else none := by
  split
  · -- a target too long to be read would not have been written
    next h_name =>
    have h_host : host.length < 255 :=
      Dns.target_length_lt rfl h h_clear (List.mem_cons_self ..) rfl
    exact Message.decode?_encode (legible_response h_type h_name h_host h_texts) rfl h h_clear
  · -- the name in the pointer is too long to be read
    next h_name =>
    exact Message.decode?_eq_none_of_long_target rfl rfl rfl h_type (Nat.le_of_not_lt h_name) rfl h
      h_clear

end Response

/-! ### Accepting a service -/

/-- What is known of a service that has been accepted. -/
structure Accepted (ad : Advertisement) (host : Name) (addresses : Std.ExtTreeSet IpAddress)
    (ttl : UInt32) (s : LocalService) : Prop where
  reached : advertised ad addresses ≠ []
  texts : ∀ text ∈ entries ad.txt, text.length ≤ attributeLimit
  type : typeName ad.serviceType = .ok s.type
  name : s.name.labels = Utf8.bytes ad.name :: s.type.labels
  host_eq : s.host = host
  announcement : (response s.type s.name host ad.port (entries ad.txt) (advertised ad addresses)
    ttl).encode = .ok s.announcement
  farewell : (response s.type s.name host ad.port (entries ad.txt) (advertised ad addresses)
    0).encode = .ok s.farewell

variable {ad : Advertisement} {host : Name} {addresses : Std.ExtTreeSet IpAddress} {ttl : UInt32}
  {s : LocalService}

theorem labels_of_ofLabels {labels : List Dns.Label} {n : Name} (h : Name.ofLabels labels = .ok n) :
    n.labels = labels := by
  unfold Name.ofLabels at h
  -- the labels are checked, and then they are the name
  split at h
  · exact absurd h (by simp)
  · split at h
    · split at h
      · rw [← Except.ok.inj h]
      · exact absurd h (by simp)
    · exact absurd h (by simp)

/-- A complaint that is put differently is still a complaint. -/
theorem mapError_eq_ok {ε ε' α : Type} {x : Except ε α} {f : ε → ε'} {a : α} :
    x.mapError f = .ok a ↔ x = .ok a := by
  cases x <;> simp [Except.mapError]

theorem labels_of_nameOf {text : String} {labels : List Dns.Label} {n : Name}
    (h : nameOf text labels = .ok n) : n.labels = labels :=
  labels_of_ofLabels (mapError_eq_ok.mp h)

/-- Labels within the bounds make a name. -/
theorem exists_nameOf {text : String} {labels : List Dns.Label} (h_fit : ∀ l ∈ labels, l.Fits)
    (h_length : Dns.labelsLength labels ≤ 255) : ∃ n, nameOf text labels = .ok n := by
  -- a name has at most as many labels as octets
  have h_le : ∀ labels : List Dns.Label, labels.length ≤ Dns.labelsLength labels := by
    intro labels
    induction labels with
    | nil => exact Nat.le_refl _
    | cons l labels ih =>
      rw [List.length_cons, Dns.labelsLength]
      omega
  -- so its labels are few enough
  have h_count : ¬ 255 < labels.countP (fun l => (Name.labelFault? l).isNone) := by
    have h_all := List.countP_le_length (p := fun l => (Name.labelFault? l).isNone) (l := labels)
    have h_few := h_le labels
    omega
  -- and each of them fits
  have h_faults : labels.filterMap Name.labelFault? = [] :=
    List.filterMap_eq_nil_iff.mpr fun l h_l => Name.labelFault?_eq_none_iff.mpr (h_fit l h_l)
  refine ⟨⟨labels, h_fit, h_length⟩, ?_⟩
  unfold nameOf Name.ofLabels
  rw [if_neg h_count, dif_pos h_faults, dif_pos h_length]
  rfl

/-- The name of a host is a label of at most 63 octets in the local domain. -/
theorem length_lt_of_hostNameOf {text : String} {host : Name} (h : hostNameOf text = .ok host) :
    host.length < 255 := by
  have h_labels : host.labels = [Utf8.bytes text, domainLabel] := labels_of_nameOf h
  -- the host has one label of its own, and then the domain
  have h_fit := host.labels_fit (Utf8.bytes text) (h_labels ▸ List.mem_cons_self ..)
  have h_domain : domainLabel.length = 5 := by decide
  rw [Name.length, h_labels]
  simp only [Dns.labelsLength, h_domain]
  have h_le := h_fit.2
  omega

/-- A label within the bounds makes the name of a host. -/
theorem exists_hostNameOf (text : String) (h : Dns.Label.Fits (Utf8.bytes text)) :
    ∃ host, hostNameOf text = .ok host ∧ host.length < 255 := by
  have h_domain : domainLabel.length = 5 := by decide
  obtain ⟨host, h_host⟩ : ∃ host, hostNameOf text = .ok host := by
    -- a label that fits and the domain are short enough together
    refine exists_nameOf (List.forall_mem_cons.mpr ⟨h, List.forall_mem_singleton.mpr ?_⟩) ?_
    · decide
    · have h_le := h.2
      simp only [Dns.labelsLength, h_domain]
      omega
  exact ⟨host, h_host, length_lt_of_hostNameOf h_host⟩

theorem encode_of_responsePacket {type name host : Name} {port : UInt16} {texts : List (List UInt8)}
    {reached : List IpAddress} {ttl : UInt32} {p : Packet}
    (h : responsePacket type name host port texts reached ttl = .ok p) :
    (response type name host port texts reached ttl).encode = .ok p := by
  unfold responsePacket at h
  split at h
  · exact absurd h (by simp)
  · exact mapError_eq_ok.mp h

theorem accepted_of_create (h : create ad host addresses ttl = .ok s) :
    Accepted ad host addresses ttl s := by
  unfold create at h
  change (if advertised ad addresses = [] then _ else _) = _ at h
  -- each check that fails ends it, so what is created has passed them all
  split at h
  · exact absurd h (by simp [throw, throwThe, MonadExceptOf.throw, Bind.bind, Except.bind])
  next h_reached =>
  dsimp only at h
  split at h
  · exact absurd h (by simp [throw, throwThe, MonadExceptOf.throw, Bind.bind, Except.bind])
  next h_texts =>
  obtain ⟨type, h_type, h⟩ := Dns.bind_eq_ok.mp h
  obtain ⟨name, h_name, h⟩ := Dns.bind_eq_ok.mp h
  obtain ⟨announcement, h_announcement, h⟩ := Dns.bind_eq_ok.mp h
  obtain ⟨farewell, h_farewell, h⟩ := Dns.bind_eq_ok.mp h
  obtain rfl := Except.ok.inj h
  exact {
    reached := h_reached
    texts := by simpa using h_texts
    type := h_type
    name := labels_of_nameOf h_name
    host_eq := rfl
    announcement := encode_of_responsePacket h_announcement
    farewell := encode_of_responsePacket h_farewell }

theorem labels_ne_nil_of_typeName {text : String} {type : Name} (h : typeName text = .ok type) :
    type.labels ≠ [] := by
  rw [labels_of_nameOf h]
  exact List.append_ne_nil_of_right_ne_nil _ (List.cons_ne_nil _ _)

/-- A name is longer than its type. -/
theorem type_length_lt {type name : Name} {label : Dns.Label}
    (h : name.labels = label :: type.labels) : type.length < 255 := by
  have h_le : name.length ≤ 255 := name.length_le
  rw [Name.length, h, Dns.labelsLength] at h_le
  have h_type : Dns.labelsLength type.labels = type.length := rfl
  omega

theorem nodup_advertised (ad : Advertisement) (addresses : Std.ExtTreeSet IpAddress) :
    (advertised ad addresses).Nodup := by
  have h_order : addresses.toList.Pairwise (compare · · = .lt) := Std.ExtTreeSet.ordered_toList
  have h_nodup : addresses.toList.Nodup := h_order.imp fun {x y} h_lt h_eq => by
    subst h_eq
    exact absurd h_lt (by simp)
  exact h_nodup.filter _

theorem mem_advertised {x : IpAddress} :
    x ∈ advertised ad addresses ↔ x ∈ addresses ∧ ad.scope.includes x.scope = true := by
  rw [advertised, List.mem_filter, Std.ExtTreeSet.mem_toList]

theorem entries_eq_nil : entries ad.txt = [] ↔ ad.txt = ∅ := by
  rw [entries, List.map_eq_nil_iff, Std.ExtTreeMap.toList_eq_nil_iff]

theorem addressRecord_injective (host : Name) (ttl : UInt32) :
    Function.Injective (addressRecord host ttl) := by
  intro x y h
  have h_data := congrArg Record.data h
  cases x <;> cases y <;> simp_all [addressRecord]

/-- No record is told twice. -/
theorem nodup_additionals (port : UInt16) (host name target : Name) (ttl : UInt32)
    {data : RecordData}
    (h_data : data.type = .txt) {reached : List IpAddress} (h : reached.Nodup) :
    ({ owner := name, ttl, cacheFlush := true, data := .srv 0 0 port target } ::
      { owner := name, ttl, cacheFlush := true, data } ::
        reached.map (addressRecord host ttl) : List Record).Nodup := by
  -- no record of an address is one of a service or a text
  have h_address : ∀ r ∈ reached.map (addressRecord host ttl), r.data.type = .a ∨
      r.data.type = .aaaa := by
    intro r hr
    obtain ⟨x, -, rfl⟩ := List.mem_map.mp hr
    cases x
    · exact .inl rfl
    · exact .inr rfl
  refine List.nodup_cons.mpr ⟨?_, List.nodup_cons.mpr ⟨?_, ?_⟩⟩
  · -- the service has another type than the others
    intro h_mem
    rcases List.mem_cons.mp h_mem with h_eq | h_mem
    · have h_type : RecordData.type (.srv 0 0 port target) = data.type :=
        congrArg (fun r : Record => r.data.type) h_eq
      exact absurd (h_type.trans h_data) (show Dns.RecordType.srv ≠ Dns.RecordType.txt by decide)
    · exact absurd (h_address _ h_mem) (by simp [RecordData.type]; decide)
  · -- and so has the text
    intro h_mem
    have h_type := h_address _ h_mem
    rw [h_data] at h_type
    exact absurd h_type (by decide)
  · -- the addresses are told apart by what they say
    exact h.map (addressRecord_injective host ttl)

/-- What is read of a response that tells of an accepted service. -/
theorem tells_received (h : Accepted ad host addresses ttl s) (t : UInt32) :
    Tells ad addresses s t
      (response s.type s.name host ad.port (entries ad.txt) (advertised ad addresses)
        t).received := by
  rw [received_response, ← h.host_eq]
  refine ⟨rfl, rfl, ⟨s.host.lower, ?_, List.mem_cons_self ..⟩,
    ⟨_, ?_, List.mem_cons_of_mem _ (List.mem_cons_self ..)⟩, ?_⟩
  · -- the host is read in lower case
    rw [Name.same_iff, Name.lower_lower]
  · -- without attributes the text is read as unknown
    split
    · next h_empty =>
      rw [entries_eq_nil.mpr h_empty]
      rfl
    · next h_some =>
      cases h_entries : entries ad.txt with
      | nil => exact absurd (entries_eq_nil.mp h_entries) h_some
      | cons text texts => rfl
  · -- each address that is told is told once
    intro x h_mem h_scope
    have h_told := List.mem_map_of_mem (f := addressRecord s.host t)
      (mem_advertised.mpr ⟨h_mem, h_scope⟩)
    exact List.count_eq_one_of_mem
      (nodup_additionals _ _ _ _ _ (RecordData.received_type _) (nodup_advertised ad addresses))
      (List.mem_cons_of_mem _ (List.mem_cons_of_mem _ h_told))

/-- What is accepted: a type and a name that are names, attributes that are short enough, and any
number of addresses that can be counted. -/
theorem exists_create {type name : Name} (h_type : typeName ad.serviceType = .ok type)
    (h_name : nameInType ad.name type = .ok name) (h_host : host.length < 255)
    (h_texts : ∀ text ∈ entries ad.txt, text.length ≤ attributeLimit)
    (h_some : advertised ad addresses ≠ []) (h_count : (advertised ad addresses).length + 2 < 65536)
    (ttl : UInt32) : ∃ s, create ad host addresses ttl = .ok s := by
  -- the name ends in the type, so it can be shared
  have h_labels := labels_of_nameOf h_name
  have h_suffix : type.labels <:+ name.labels := by
    rw [h_labels]
    exact List.suffix_cons _ _
  -- both packets are written, as their names are shared
  have h_packet : ∀ t, ∃ p, responsePacket type name host ad.port (entries ad.txt)
      (advertised ad addresses) t = .ok p := by
    intro t
    have h_shares : (response type name host ad.port (entries ad.txt) (advertised ad addresses)
        t).Shares _ [] :=
      shares_response (type_length_lt h_labels) (labels_ne_nil_of_typeName h_type) h_suffix h_host
    obtain ⟨p, h_encode⟩ := Message.exists_encode h_shares
    refine ⟨p, ?_⟩
    unfold responsePacket
    rw [if_neg (Nat.not_le_of_lt h_count), h_encode]
    rfl
  -- one for the announcement and one for the farewell
  obtain ⟨announcement, h_announcement⟩ := h_packet ttl
  obtain ⟨farewell, h_farewell⟩ := h_packet 0
  have h_all : (!(entries ad.txt).all (·.length ≤ attributeLimit)) = false := by
    simpa using h_texts
  refine ⟨{ scope := ad.scope, name, type, host, announcement, farewell, established := false,
            collided := false }, ?_⟩
  -- the checks are passed one by one
  have h_reached : addresses.toList.filter (ad.scope.includes ·.scope) = advertised ad addresses :=
    rfl
  simp only [create, h_reached, if_neg h_some, h_all, h_type, h_name, h_announcement, h_farewell,
    Bind.bind, Except.bind, pure, Except.pure]
  rfl

/-- The packets of a service, and the time to live of the records in each. -/
theorem Accepted.encode (h : Accepted ad host addresses ttl s) {p : Packet} {t : UInt32}
    (h_packet : (p, t) = (s.announcement, ttl) ∨ (p, t) = (s.farewell, 0)) :
    (response s.type s.name host ad.port (entries ad.txt) (advertised ad addresses) t).encode =
      .ok p := by
  -- the packet is one of the two
  rcases h_packet with h_packet | h_packet
  · obtain ⟨rfl, rfl⟩ := Prod.mk.inj h_packet
    exact h.announcement
  · obtain ⟨rfl, rfl⟩ := Prod.mk.inj h_packet
    exact h.farewell

theorem Accepted.suffix (h : Accepted ad host addresses ttl s) :
    s.type.labels <:+ s.name.labels := by
  rw [h.name]
  exact List.suffix_cons _ _

/-- A response whose packet begins with its answer and says where the service runs has been written
with a target that can be read. -/
theorem host_length_lt_of_response {type name host : Name} {port : UInt16}
    {texts : List (List UInt8)} {reached : List IpAddress} {p : Packet} (h_type : type.length < 255)
    (h_ne : type.labels ≠ []) (h_name : type.labels <:+ name.labels)
    (h : (response type name host port texts reached ttl).encode = .ok p) : host.length < 255 := by
  refine Message.target_length_lt_of_room (m := response type name host port texts reached ttl)
    ⟨rfl, rfl, h_type, h_ne, .inr ⟨h_ne, h_name⟩, fun r hr => absurd hr List.not_mem_nil⟩ rfl rfl
    (.inr ⟨h_ne, h_name⟩) ?_ h
  -- a few names of at most 255 octets fit into a packet
  have h_name_le : name.length ≤ 255 := name.length_le
  have h_host_le : host.length ≤ 255 := host.length_le
  simp only [response, Message.response, List.map_cons, List.map_nil, List.sum_cons, List.sum_nil,
    Dns.Record.room, Dns.RecordData.room, Dns.packetLimit]
  omega

/-- The name of the host of a service that is accepted can be read. -/
theorem Accepted.host_length_lt (h : Accepted ad host addresses ttl s) : host.length < 255 :=
  host_length_lt_of_response (type_length_lt h.name) (labels_ne_nil_of_typeName h.type) h.suffix
    h.announcement

/-- A packet of a service is complete if there is room for all names in full. -/
theorem Accepted.clear_of_room (h : Accepted ad host addresses ttl s) {p : Packet} {t : UInt32}
    (h_packet : (p, t) = (s.announcement, ttl) ∨ (p, t) = (s.farewell, 0))
    (h_room : 12 + (response s.type s.name host ad.port (entries ad.txt) (advertised ad addresses)
      t).room ≤ Dns.packetLimit) : marksTruncation p = false :=
  Message.clear_of_room (shares_response (type_length_lt h.name) (labels_ne_nil_of_typeName h.type)
    h.suffix h.host_length_lt) rfl h_room (h.encode h_packet)

/-- A service with one attribute and one address is accepted on any host whose name can be read, and
there is room for all that is announced of it. -/
theorem exists_clear {type name : Name} {text : List UInt8} {x : IpAddress}
    (h_type : typeName ad.serviceType = .ok type) (h_name : nameInType ad.name type = .ok name)
    (h_host : host.length < 255) (h_text : entries ad.txt = [text])
    (h_short : text.length ≤ attributeLimit) (h_address : advertised ad addresses = [x])
    (ttl : UInt32) :
    ∃ s, create ad host addresses ttl = .ok s ∧ s.type = type ∧ s.name = name ∧
      marksTruncation s.announcement = false ∧ marksTruncation s.farewell = false := by
  obtain ⟨s, h_create⟩ := exists_create h_type h_name h_host (by simpa [h_text] using h_short)
    (by rw [h_address]; simp) (by rw [h_address, List.length_singleton]; decide) ttl
  have h_accepted := accepted_of_create h_create
  -- its names are those that were asked for
  obtain rfl : type = s.type := Except.ok.inj (h_type.symm.trans h_accepted.type)
  have h_same : s.name = name := by
    rw [Name.ext_iff', h_accepted.name, labels_of_nameOf h_name]
  -- a service with one text and one address is small
  have h_room : ∀ t, 12 + (response s.type s.name host ad.port (entries ad.txt)
      (advertised ad addresses) t).room ≤ Dns.packetLimit := by
    intro t
    -- every name takes 255 octets at most
    have h_type_le : s.type.length ≤ 255 := s.type.length_le
    have h_name_le : s.name.length ≤ 255 := s.name.length_le
    have h_text_le : text.length ≤ 255 := h_short
    have h_record : (addressRecord host t x).room ≤ host.length + 27 := by
      cases x <;> simp only [addressRecord, Dns.Record.room, Dns.RecordData.room] <;> omega
    rw [h_address, h_text]
    simp only [response, Message.response, Message.room, Dns.Record.room, Dns.RecordData.room,
      List.map_cons, List.map_nil, List.cons_append, List.nil_append, List.sum_cons, List.sum_nil,
      Dns.labelsLength, Dns.packetLimit] at h_record ⊢
    omega
  exact ⟨s, h_create, rfl, h_same, h_accepted.clear_of_room (.inl rfl) (h_room ttl),
    h_accepted.clear_of_room (.inr rfl) (h_room 0)⟩

/-! ### A server -/

/-- A server on a host called "bench". -/
def benchServer : Advertisement := .ofServer "bench" "7f0c" 55132 .any

theorem benchServer_name : benchServer.name = "SoapyRemote @ bench" := by decide

theorem entries_bench : entries benchServer.txt = [Utf8.bytes "uuid=7f0c"] := rfl

/-- Its type and its name are names, and short. -/
theorem exists_names_bench : ∃ type name, typeName benchServer.serviceType = .ok type ∧
    nameInType benchServer.name type = .ok name ∧ type.length = 18 ∧ name.length = 38 := by
  obtain ⟨type, name, h_type, h_name⟩ : ∃ type name, typeName "_soapy._tcp" = .ok type ∧
      nameInType "SoapyRemote @ bench" type = .ok name := ⟨_, _, rfl, rfl⟩
  -- the names of the server are computed, and so are their lengths
  refine ⟨type, name, h_type, by rw [benchServer_name]; exact h_name, ?_, ?_⟩
  · rw [Name.length, labels_of_nameOf h_type]
    decide
  · rw [Name.length, labels_of_nameOf h_name, labels_of_nameOf h_type]
    decide

/-- The server is accepted with any addresses that can be counted. -/
theorem exists_create_bench (h_some : advertised benchServer addresses ≠ [])
    (h_count : (advertised benchServer addresses).length + 2 < 65536) :
    ∃ host s, hostNameOf "bench" = .ok host ∧ create benchServer host addresses 120 = .ok s ∧
      s.type.length = 18 := by
  obtain ⟨type, name, h_type, h_name, h_type_length, -⟩ := exists_names_bench
  obtain ⟨host, h_host, h_short⟩ := exists_hostNameOf "bench" (by decide)
  -- with a host, a text and few addresses it is created
  obtain ⟨s, h_create⟩ := exists_create h_type h_name h_short
    (by rw [entries_bench]; decide) h_some h_count 120
  obtain rfl : type = s.type :=
    Except.ok.inj (h_type.symm.trans (accepted_of_create h_create).type)
  exact ⟨host, s, h_host, h_create, h_type_length⟩

/-- With one address there is room for everything in the announcement of the server, on any host. -/
theorem exists_clear_bench_on (h_host : host.length < 255) {x : IpAddress}
    (h_address : advertised benchServer addresses = [x]) :
    ∃ s, create benchServer host addresses 120 = .ok s ∧ s.name.length = 38 ∧
      marksTruncation s.announcement = false := by
  obtain ⟨type, name, h_type, h_name, -, h_length⟩ := exists_names_bench
  obtain ⟨s, h_create, -, h_same, h_clear, -⟩ :=
    exists_clear h_type h_name h_host entries_bench (by decide) h_address 120
  exact ⟨s, h_create, by rw [h_same, h_length], h_clear⟩

/-- One address of a host. -/
def benchAddresses : Std.ExtTreeSet IpAddress := .ofList [IpAddress.v4 ⟨192, 168, 1, 7⟩]

theorem advertised_benchAddresses (ad : Advertisement) (h : ad.scope.includes .v4 = true) :
    advertised ad benchAddresses = [.v4 ⟨192, 168, 1, 7⟩] := by
  have h_list : benchAddresses.toList = [.v4 ⟨192, 168, 1, 7⟩] := by decide
  rw [advertised, h_list]
  exact List.filter_eq_self.mpr fun x hx => List.mem_singleton.mp hx ▸ h

theorem exists_clear_bench : ∃ host s, hostNameOf "bench" = .ok host ∧
    create benchServer host benchAddresses 120 = .ok s ∧ s.name.length = 38 ∧
    marksTruncation s.announcement = false := by
  obtain ⟨host, h_host, h_short⟩ := exists_hostNameOf "bench" (by decide)
  obtain ⟨s, h_clear⟩ := exists_clear_bench_on h_short
    (advertised_benchAddresses benchServer (by decide))
  exact ⟨host, s, h_host, h_clear⟩

/-! ### Told in full -/

/-- **Told in full.** The announcement of an accepted service, and likewise its farewell, is read
as a message that tells everything about the service just if it is not marked as truncated and the
name of the service is shorter than 255 octets.  It is not marked if there is room for all names in
full, and marked if there is not room for eleven octets for each record. -/
theorem tells_iff (h : create ad host addresses ttl = .ok s) {p : Packet} {t : UInt32}
    (h_packet : (p, t) = (s.announcement, ttl) ∨ (p, t) = (s.farewell, 0)) :
    ((∃ m, Message.decode? p = some m ∧ Tells ad addresses s t m) ↔
      marksTruncation p = false ∧ s.name.length < 255) ∧
    (host.length < 255 → 12 + (response s.type s.name host ad.port
        (entries ad.txt) (advertised ad addresses) t).room ≤ Dns.packetLimit →
      marksTruncation p = false) ∧
    (marksTruncation p = false →
      12 + 11 * (3 + (advertised ad addresses).length) ≤ Dns.packetLimit) := by
  have h_accepted := accepted_of_create h
  have h_encode := h_accepted.encode h_packet
  -- what is written is read back, if the name is not too long
  have h_read := decode?_response (type_length_lt h_accepted.name) h_accepted.texts h_encode
  refine ⟨⟨?_, ?_⟩, ?_, ?_⟩
  · -- what tells of the service is not cut, and was read
    rintro ⟨m, h_decode, h_tells⟩
    have h_clear : marksTruncation p = false := by
      rw [← Message.truncated_of_decode? h_decode]
      exact h_tells.whole
    refine ⟨h_clear, Classical.byContradiction fun h_long => ?_⟩
    rw [h_read h_clear, if_neg h_long] at h_decode
    exact absurd h_decode (by simp)
  · -- what is not cut is read as it was written
    rintro ⟨h_clear, h_short⟩
    exact ⟨_, by rw [h_read h_clear, if_pos h_short], tells_received h_accepted t⟩
  · intro _ h_room
    exact h_accepted.clear_of_room h_packet h_room
  · -- each record takes at least eleven octets
    intro h_clear
    have h_count := Message.count_le_of_encode rfl h_encode h_clear
    simp only [response, Message.response, List.length_append, List.length_cons, List.length_nil,
      List.length_map] at h_count
    omega

/-- The server is told in full. -/
theorem bench_is_told : ∃ host s m, hostNameOf "bench" = .ok host ∧
    create benchServer host benchAddresses 120 = .ok s ∧
    Message.decode? s.announcement = some m ∧ Tells benchServer benchAddresses s 120 m := by
  obtain ⟨host, s, h_host, h_create, h_length, h_clear⟩ := exists_clear_bench
  obtain ⟨h_iff, -, -⟩ := tells_iff h_create (.inl rfl)
  obtain ⟨m, h_decode, h_told⟩ := h_iff.mpr ⟨h_clear, by omega⟩
  exact ⟨host, s, m, h_host, h_create, h_decode, h_told⟩

/-- Six thousand addresses of a host: 10.0.0.0, 10.0.0.1 and so on. -/
def crowd : List IpAddress :=
  (List.range 6000).map fun i => .v4 ⟨10, 0, UInt8.ofNat (i / 256), UInt8.ofNat (i % 256)⟩

theorem length_advertised_crowd :
    (advertised benchServer (.ofList crowd)).length = 6000 := by
  have h_filter : advertised benchServer (.ofList crowd) = (Std.ExtTreeSet.ofList crowd).toList :=
    List.filter_eq_self.mpr fun x _ => IpScope.any_includes x.scope
  -- the numbers are different, so the addresses are
  have h_distinct : crowd.Pairwise fun x y => ¬ compare x y = .eq := by
    refine List.pairwise_map.mpr (List.pairwise_lt_range.imp_of_mem ?_)
    intro i j hi hj h_lt h_eq
    have h_same := Std.LawfulEqOrd.eq_of_compare h_eq
    have h_lt_i := List.mem_range.mp hi
    have h_lt_j := List.mem_range.mp hj
    simp only [IpAddress.v4.injEq, Ipv4.mk.injEq, true_and, ← UInt8.toNat_inj,
      UInt8.toNat_ofNat'] at h_same
    omega
  rw [h_filter, Std.ExtTreeSet.length_toList, Std.ExtTreeSet.size_ofList h_distinct, crowd,
    List.length_map, List.length_range]

/-- With six thousand addresses the server is accepted too, although no message can tell of all of
them: its announcement is not read as a message that is whole. -/
theorem crowd_is_accepted : ∃ host s, hostNameOf "bench" = .ok host ∧
    create benchServer host (.ofList crowd) 120 = .ok s ∧
    ¬ ∃ m, Message.decode? s.announcement = some m ∧ m.truncated = false := by
  have h_length := length_advertised_crowd
  have h_some : advertised benchServer (.ofList crowd) ≠ [] :=
    List.ne_nil_of_length_pos (by omega)
  obtain ⟨host, s, h_host, h_create, -⟩ := exists_create_bench h_some (by omega)
  refine ⟨host, s, h_host, h_create, ?_⟩
  rintro ⟨m, h_decode, h_whole⟩
  -- a packet that is not cut would hold all of its records
  have h_clear : marksTruncation s.announcement = false := by
    rw [← Message.truncated_of_decode? h_decode]
    exact h_whole
  have h_count := Message.count_le_of_encode rfl (accepted_of_create h_create).announcement h_clear
  simp only [response, Message.response, List.length_append, List.length_cons, List.length_nil,
    List.length_map, h_length] at h_count
  exact absurd h_count (by decide)

/-! ### Addresses that are told -/

/-- The address that a record tells of its owner. -/
def address? (r : Record) : Option IpAddress :=
  match r.data with
  | .a x => some (.v4 x)
  | .aaaa x => some (.v6 x)
  | _ => none

/-- A response has room for its answer, so it says what was to be said up to some of its addresses,
or nothing at all. -/
theorem decode?_response_cutTo {type name : Name} {port : UInt16} {texts : List (List UInt8)}
    {reached : List IpAddress} {m : Message} {p : Packet} (h_type : type.length < 255)
    (h_ne : type.labels ≠ []) (h_name : type.labels <:+ name.labels) (h_host : host.length < 255)
    (h_texts : ∀ text ∈ texts, text.length ≤ 255)
    (h : (response type name host port texts reached ttl).encode = .ok p)
    (h_decode : Message.decode? p = some m) :
    ∃ cut count, m = ((response type name host port texts reached ttl).cutTo cut count).received := by
  -- the records share the name of the type
  have h_shares : (response type name host port texts reached ttl).Shares _ [] :=
    shares_response h_type h_ne h_name h_host
  -- two names of at most 255 octets and a little more fit into a packet
  obtain ⟨d, h_answer, -⟩ | ⟨left, -, h_room, -⟩ := Dns.takesAt_answers h_shares
  · -- the answer fits, and the rest is cut at some record
    obtain ⟨cut, count, h_size, h_holds⟩ := Message.holds_cutTo rfl h_answer h
    refine ⟨cut, count, ?_⟩
    -- what is cut is read as far as it goes
    by_cases h_short : name.length < 255
    · have h_legible : (response type name host port texts reached ttl).Legible :=
        legible_response h_type h_short h_host h_texts
      have h_read := Message.decode?_of_holds (m := (response ..).cutTo cut count)
        ⟨h_legible.questions, h_legible.answers,
          fun r hr => h_legible.additionals r (List.mem_of_mem_take hr)⟩ h_size h_holds
      exact Option.some.inj (h_decode.symm.trans h_read)
    · -- the name is too long to be read
      have h_none := Message.decode?_eq_none_of_holds (m := (response ..).cutTo cut count) rfl rfl rfl
        h_type (Nat.le_of_not_lt h_short) h_size h_holds
      rw [h_none] at h_decode
      exact absurd h_decode (by simp)
  · -- the answer is too short not to fit
    have h_name_le : name.length ≤ 255 := name.length_le
    have h_blank : Dns.blankDraft.size = 12 := rfl
    simp only [response, Message.response, List.map_cons, List.map_nil, List.sum_cons, List.sum_nil,
      Dns.Record.room, Dns.RecordData.room, h_blank, Dns.packetLimit] at h_room
    omega

namespace Accepted

variable {p : Packet} {t : UInt32} {m : Message}

/-- **Packets that are cut.** Whatever is read of a packet of an accepted service, be it cut or not,
is what it says up to some of its last records. -/
theorem exists_cut (h : Accepted ad host addresses ttl s)
    (h_packet : (p, t) = (s.announcement, ttl) ∨ (p, t) = (s.farewell, 0))
    (h_decode : Message.decode? p = some m) :
    ∃ count, m.records = { owner := s.type, ttl := t, cacheFlush := false, data := .ptr s.name } ::
      ({ owner := s.name, ttl := t, cacheFlush := true, data := .srv 0 0 ad.port s.host.lower } ::
        { owner := s.name, ttl := t, cacheFlush := true
          data := (RecordData.txt (entries ad.txt)).received } ::
        (advertised ad addresses).map (addressRecord s.host t)).take count := by
  rw [h.host_eq]
  -- what is read is the response, cut at some record
  obtain ⟨cut, count, rfl⟩ := decode?_response_cutTo (type_length_lt h.name)
    (labels_ne_nil_of_typeName h.type) h.suffix h.host_length_lt h.texts (h.encode h_packet) h_decode
  refine ⟨count, ?_⟩
  have h_received : (response s.type s.name host ad.port (entries ad.txt) (advertised ad addresses)
      t).received.additionals = _ := congrArg Message.additionals received_response
  dsimp only at h_received
  rw [← h_received, Message.records]
  simp only [Message.received, Message.cutTo, List.map_take]
  rfl

/-- So of what is read, the pointer is the first, and all others are of the service or tell an
address of its host. -/
theorem exists_records (h : Accepted ad host addresses ttl s)
    (h_packet : (p, t) = (s.announcement, ttl) ∨ (p, t) = (s.farewell, 0))
    (h_decode : Message.decode? p = some m) :
    ∃ rest, m.records =
        { owner := s.type, ttl := t, cacheFlush := false, data := .ptr s.name } :: rest ∧
      ∀ r ∈ rest,
        r = { owner := s.name, ttl := t, cacheFlush := true, data := .srv 0 0 ad.port s.host.lower } ∨
        r = { owner := s.name, ttl := t, cacheFlush := true
              data := (RecordData.txt (entries ad.txt)).received } ∨
        ∃ x ∈ advertised ad addresses, r = addressRecord s.host t x := by
  -- what is cut is a part of the whole
  obtain ⟨count, h_records⟩ := h.exists_cut h_packet h_decode
  refine ⟨_, h_records, fun r hr => ?_⟩
  rcases List.mem_cons.mp (List.mem_of_mem_take hr) with rfl | hr
  · exact .inl rfl
  rcases List.mem_cons.mp hr with rfl | hr
  · exact .inr (.inl rfl)
  obtain ⟨x, hx, rfl⟩ := List.mem_map.mp hr
  exact .inr (.inr ⟨x, hx, rfl⟩)

/-- **Addresses that are told.** The addresses that a packet of an accepted service tells are those
the service is announced with. -/
theorem mem_advertised_of_decode? (h : Accepted ad host addresses ttl s)
    (h_packet : (p, t) = (s.announcement, ttl) ∨ (p, t) = (s.farewell, 0))
    (h_decode : Message.decode? p = some m) {r : Record} (hr : r ∈ m.records) {x : IpAddress}
    (hx : address? r = some x) : x ∈ advertised ad addresses := by
  obtain ⟨rest, h_records, h_rest⟩ := h.exists_records h_packet h_decode
  rw [h_records] at hr
  -- the pointer, the service and its attributes tell no address
  rcases List.mem_cons.mp hr with rfl | hr
  · exact absurd hx (by simp [address?])
  rcases h_rest r hr with rfl | rfl | ⟨y, hy, rfl⟩
  · exact absurd hx (by simp [address?])
  · generalize entries ad.txt = texts at hx
    cases texts <;> exact absurd (show none = some x from hx) (by simp)
  · obtain rfl : y = x := by cases y <;> exact Option.some.inj hx
    exact hy

end Accepted

end LocalService

end ServiceDiscovery
