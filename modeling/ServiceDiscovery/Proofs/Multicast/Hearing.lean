import ServiceDiscovery.Proofs.Multicast.Announcement
import ServiceDiscovery.Proofs.Multicast.Reports
import ServiceDiscovery.Proofs.Text.Utf8

/-!
# What is heard of an announcement

The announcement of a service reaches a peer, whatever the peer has heard before: the peer takes it
for the appearance of the service unless it knows the service already, and knows then how to reach
it on every family on which the service has an address (`LocalService.is_heard`).

On the way the attributes become octets and are read again, which does not lose anything unless a
name has an equals sign in it (`Attributes.ofEntries_entries`); names lose the case of their
letters; and addresses join those that are known of the host, of which the least counts
(`PeerTable.contact?_least`).

A service whose name takes 255 octets is accepted and announced, but no peer can read its
announcement (`LocalService.long_name_is_not_heard`).
-/

namespace ServiceDiscovery

open Dns (Name Packet Record RecordData Message marksTruncation)

/-! ### Attributes -/

/-- An entry is cut at its first equals sign. -/
theorem cut_entry {name : List Char} (h : '=' ∉ name) (value : List Char) :
    (name ++ '=' :: value).takeWhile (· ≠ '=') = name ∧
      (name ++ '=' :: value).dropWhile (· ≠ '=') = '=' :: value := by
  -- the name ends where the first sign stands
  have h_name : ∀ c ∈ name, (decide (c ≠ '=')) = true := by
    intro c hc
    refine decide_eq_true ?_
    rintro rfl
    exact h hc
  constructor
  · rw [List.takeWhile_append_of_pos h_name]
    simp
  · rw [List.dropWhile_append_of_pos h_name]
    simp

theorem decodeLossy_entry (name value : String) :
    Utf8.decodeLossy (Utf8.bytes (name ++ "=" ++ value)) = name.toList ++ '=' :: value.toList := by
  rw [Utf8.bytes, Utf8.decodeLossy_encode, String.toList_append, String.toList_append,
    List.append_assoc]
  rfl

/-- The attributes of a map, added one by one, make up the map. -/
theorem foldl_insert_toList (txt : Attributes) :
    txt.toList.foldl (fun read entry => read.insert entry.1 entry.2) (∅ : Attributes) = txt := by
  -- entering the entries one by one is entering them all
  have h_many : ∀ (l : List (String × String)) (read : Attributes),
      l.foldl (fun read entry => read.insert entry.1 entry.2) read = read.insertMany l := by
    intro l
    induction l with
    | nil => exact fun read => Std.ExtTreeMap.insertMany_nil.symm
    | cons entry l ih =>
      intro read
      rw [List.foldl_cons, ih, ← Std.ExtTreeMap.insertMany_cons]
  rw [h_many]
  apply Std.ExtTreeMap.ext_getElem?
  intro name
  -- the keys are distinct, so each has its own value
  cases h_get : txt[name]? with
  | some value =>
    exact Std.ExtTreeMap.getElem?_insertMany_list_of_mem (Std.ReflCmp.compare_self)
      Std.ExtTreeMap.distinct_keys_toList
      (Std.ExtTreeMap.mem_toList_iff_getElem?_eq_some.mpr h_get)
  -- and what is no key is not entered
  | none =>
    have h_absent : (txt.toList.map Prod.fst).contains name = false := by
      rw [Std.ExtTreeMap.map_fst_toList_eq_keys, Std.ExtTreeMap.contains_keys,
        Std.ExtTreeMap.contains_eq_isSome_getElem?, h_get]
      rfl
    rw [Std.ExtTreeMap.getElem?_insertMany_list_of_contains_eq_false h_absent]
    rfl

/-- **Attributes survive.** Attributes are read as they were written, if no name has an equals sign
in it. -/
theorem Attributes.ofEntries_entries {txt : Attributes} (h : ∀ name ∈ txt, '=' ∉ name.toList) :
    Attributes.ofEntries (LocalService.entries txt) = txt := by
  unfold Attributes.ofEntries LocalService.entries
  rw [List.foldl_map]
  refine Eq.trans (List.foldl_ext _ (fun read entry => read.insert entry.1 entry.2) ∅ ?_)
    (foldl_insert_toList txt)
  -- each entry is cut at its first sign, which is behind the name
  rintro read ⟨name, value⟩ h_mem
  have h_get : txt[name]? = some value := Std.ExtTreeMap.mem_toList_iff_getElem?_eq_some.mp h_mem
  have h_name : name ∈ txt := by
    rw [Std.ExtTreeMap.mem_iff_isSome_getElem?, h_get]
    rfl
  obtain ⟨h_take, h_drop⟩ := cut_entry (h name h_name) value.toList
  dsimp only
  rw [decodeLossy_entry, h_take, h_drop]
  dsimp only
  rw [String.ofList_toList, String.ofList_toList]

/-! ### Addresses of a host -/

namespace PeerTable

/-- The address is known of the host. -/
def Has (t : PeerTable) (host : Name) (x : IpAddress) : Prop :=
  ∃ known, t.addresses[host]? = some known ∧ x ∈ known

variable {t : PeerTable} {host : Name} {ttl : UInt32}

/-- An address of a host on which a service runs is taken in, and nothing else changes. -/
theorem takeSecond_addressRecord {owner : Name} (h_runs : t.runsOn owner.lower) (h_ttl : ttl ≠ 0)
    (x : IpAddress) :
    t.takeSecond (LocalService.addressRecord owner ttl x) =
      { t with
        addresses := t.addresses.insert owner.lower
          ((t.addresses.getD owner.lower ∅).insert x) } := by
  -- the host runs a service, so its address is taken in
  have h_take : t.takeAddress owner x ttl =
      { t with
        addresses := t.addresses.insert owner.lower
          ((t.addresses.getD owner.lower ∅).insert x) } := by
    unfold takeAddress
    dsimp only
    rw [if_neg h_ttl, if_pos h_runs]
  cases x <;> exact h_take

/-- Addresses that are taken in join those that are known. -/
theorem foldl_takeSecond_addresses {owner : Name} (h_ttl : ttl ≠ 0) (reached : List IpAddress)
    (h_runs : t.runsOn owner.lower) :
    ((reached.map (LocalService.addressRecord owner ttl)).foldl takeSecond t).peers = t.peers ∧
      ((reached.map (LocalService.addressRecord owner ttl)).foldl takeSecond t).services =
        t.services ∧
      ∀ x, x ∈ reached ∨ t.Has owner.lower x →
        ((reached.map (LocalService.addressRecord owner ttl)).foldl takeSecond t).Has owner.lower
          x := by
  -- on the addresses: the services are not touched, and every address is kept
  induction reached generalizing t with
  | nil => exact ⟨rfl, rfl, fun x h => h.resolve_left List.not_mem_nil⟩
  | cons y reached ih =>
    rw [List.map_cons, List.foldl_cons, takeSecond_addressRecord h_runs h_ttl]
    -- the table with the first address
    generalize h_next : ({ t with
      addresses := t.addresses.insert owner.lower
        ((t.addresses.getD owner.lower ∅).insert y) } : PeerTable) = t'
    have h_runs' : t'.runsOn owner.lower := by
      rw [← h_next]
      exact h_runs
    obtain ⟨h_peers, h_services, h_has⟩ := ih h_runs'
    -- it is one of the host from now on
    have h_joined : ∀ x, x = y ∨ t.Has owner.lower x → t'.Has owner.lower x := by
      intro x h
      refine ⟨(t.addresses.getD owner.lower ∅).insert y, ?_, ?_⟩
      · rw [← h_next]
        exact Std.ExtTreeMap.getElem?_insert_self
      · rcases h with rfl | ⟨known, h_known, h_mem⟩
        · exact Std.ExtTreeSet.mem_insert_self
        · rw [Std.ExtTreeMap.getD_eq_getD_getElem?, h_known, Option.getD_some]
          exact Std.ExtTreeSet.mem_insert.mpr (.inr h_mem)
    refine ⟨by rw [h_peers, ← h_next], by rw [h_services, ← h_next], fun x h => h_has x ?_⟩
    -- those that come later are taken in as well
    rcases h with h_mem | h_old
    · rcases List.mem_cons.mp h_mem with rfl | h_mem
      · exact .inr (h_joined x (.inl rfl))
      · exact .inl h_mem
    · exact .inr (h_joined x (.inr h_old))

/-- Of the addresses that are known of a host, the least in the scope that is asked for. -/
structure Least (t : PeerTable) (host : Name) (q : IpScope) (x : IpAddress) : Prop where
  known : t.Has host x
  scope : q.includes x.scope = true
  le : ∀ y, t.Has host y → q.includes y.scope = true → (compare x y).isLE

/-- **The least address counts.** An instance that was heard from, whose service is known and runs
on a host of which an address in the scope is known, is reached at the least of these addresses. -/
theorem contact?_least {sighting : Sighting} {peer : Peer} {service : PeerService} {q : IpScope}
    (h_peer : t.peers[sighting]? = some peer) (h_service : t.services[peer.name]? = some service)
    {x : IpAddress} (h_has : t.Has service.host x) (h_scope : q.includes x.scope = true) :
    ∃ address, t.contact? sighting q = some { hostName := service.host.hostText, address
                                              port := service.port, txt := service.txt } ∧
      t.Least service.host q address := by
  -- some address of the host is in the scope
  obtain ⟨known, h_known, h_mem⟩ := h_has
  have h_find : (known.toList.find? (q.includes ·.scope)).isSome := by
    rw [List.find?_isSome]
    exact ⟨x, Std.ExtTreeSet.mem_toList.mpr h_mem, h_scope⟩
  obtain ⟨address, h_address⟩ := Option.isSome_iff_exists.mp h_find
  refine ⟨address, ?_, ?_⟩
  · simp only [contact?, h_peer, h_service, h_known, h_address, Option.bind_eq_bind,
      Option.bind_some]
    rfl
  · -- addresses are kept in order, so none before the one that is found is in the scope
    obtain ⟨h_in, before, after, h_split, h_before⟩ := List.find?_eq_some_iff_append.mp h_address
    have h_order : known.toList.Pairwise (compare · · = .lt) := Std.ExtTreeSet.ordered_toList
    have h_has : ∀ y, t.Has service.host y ↔ y ∈ before ++ address :: after := by
      intro y
      rw [← h_split, Std.ExtTreeSet.mem_toList]
      refine ⟨fun ⟨known', h_known', h_mem'⟩ => ?_, fun h_mem' => ⟨known, h_known, h_mem'⟩⟩
      rw [h_known] at h_known'
      rwa [Option.some.inj h_known']
    rw [h_split] at h_order
    refine ⟨(h_has address).mpr (List.mem_append_right _ (List.mem_cons_self ..)), h_in, ?_⟩
    intro y h_y h_scope_y
    rcases List.mem_append.mp ((h_has y).mp h_y) with h_mem' | h_mem'
    · have h_not := h_before y h_mem'
      rw [h_scope_y] at h_not
      exact absurd h_not (by decide)
    · rcases List.mem_cons.mp h_mem' with rfl | h_mem'
      · have h_self : compare y y = .eq := Std.ReflCmp.compare_self
        rw [h_self]
        rfl
      · have h_lt := List.rel_of_pairwise_cons (List.pairwise_append.mp h_order).2.1 h_mem'
        rw [h_lt]
        rfl

/-! ### Taking in an announcement -/

/-- Addresses are only taken in in the second pass. -/
theorem foldl_hear_addresses {source : SocketAddress} {owner : Name} {ttl : UInt32}
    (reached : List IpAddress) (s : PeerTable × List Event) :
    (reached.map (LocalService.addressRecord owner ttl)).foldl (hear source) s = s := by
  -- on the addresses: they are left for the second pass
  induction reached with
  | nil => rfl
  | cons x reached ih =>
    have h_hear : hear source s (LocalService.addressRecord owner ttl x) = s := by
      cases x <;> exact Prod.ext rfl (List.append_nil _)
    rw [List.map_cons, List.foldl_cons, h_hear, ih]

/-- A pointer to an instance makes it appear unless it is known. -/
theorem takePointer_hears {sighting : Sighting} {target : Name} {ttl : UInt32} {t : PeerTable}
    (h_ttl : ttl ≠ 0)
    (h_held : ∀ peer, t.peers[sighting]? = some peer → peer.name = target.lower) :
    ∃ peers peer, t.takePointer sighting target ttl =
        ({ t with peers }, if sighting ∈ t.peers then [] else [.appeared sighting]) ∧
      peers[sighting]? = some peer ∧ peer.name = target.lower := by
  unfold takePointer
  rw [if_neg h_ttl]
  -- an instance that was known stays, and is no news
  cases h_peer : t.peers[sighting]? with
  | some peer =>
    have h_mem : sighting ∈ t.peers := by
      rw [Std.ExtTreeMap.mem_iff_isSome_getElem?, h_peer]
      rfl
    rw [if_pos h_mem]
    exact ⟨_, _, rfl, Std.ExtTreeMap.getElem?_insert_self, h_held peer h_peer⟩
  -- a new one is entered, and is news
  | none =>
    have h_mem : sighting ∉ t.peers := by
      rw [Std.ExtTreeMap.mem_iff_isSome_getElem?, h_peer]
      exact Bool.false_ne_true
    rw [if_neg h_mem]
    exact ⟨_, _, rfl, Std.ExtTreeMap.getElem?_insert_self, rfl⟩

theorem takeAttributes_eq {name : Name} {txt : Attributes} {t : PeerTable} {service : PeerService}
    (h : t.services[name.lower]? = some service) :
    t.takeAttributes name txt =
      { t with services := t.services.insert name.lower { service with txt } } := by
  unfold takeAttributes
  rw [h]

theorem runsOn_of_services {name host : Name} {t : PeerTable} {service : PeerService}
    (h : t.services[name]? = some service) (h_host : service.host = host) : t.runsOn host := by
  refine List.any_eq_true.mpr ⟨(name, service), ?_, beq_iff_eq.mpr h_host⟩
  exact Std.ExtTreeMap.mem_toList_iff_getElem?_eq_some.mpr h

/-- **Taking in an announcement.** A table that is told of an instance of its type knows it then,
where it runs, its attributes and every address that it was told. -/
theorem takeIn_announcement {t : PeerTable} {type name host : Name} {port : UInt16}
    {texts : List (List UInt8)} {reached : List IpAddress} {ttl : UInt32} {source : SocketAddress}
    {sighting : Sighting} (h_ttl : ttl ≠ 0) (h_type : type.same t.type) (h_of : t.isOfType name)
    (h_sighting : t.sighting? source.interface source.scope name = some sighting)
    (h_held : ∀ peer, t.peers[sighting]? = some peer → peer.name = name.lower) :
    ∃ t', t.takeIn
        ({ owner := type, ttl, cacheFlush := false, data := .ptr name } ::
          { owner := name, ttl, cacheFlush := true, data := .srv 0 0 port host.lower } ::
            { owner := name, ttl, cacheFlush := true, data := .txt texts } ::
              reached.map (LocalService.addressRecord host ttl)) source =
        (t', if sighting ∈ t.peers then [] else [.appeared sighting]) ∧
      (∃ peer, t'.peers[sighting]? = some peer ∧ peer.name = name.lower) ∧
      t'.services[name.lower]? = some { port, host := host.lower, txt := .ofEntries texts } ∧
      ∀ x ∈ reached, t'.Has host.lower x := by
  obtain ⟨peers, peer, h_pointer, h_peer, h_name⟩ := takePointer_hears h_ttl h_held
  generalize (if sighting ∈ t.peers then [] else [Event.appeared sighting]) = events at h_pointer ⊢
  -- the first pass takes in the pointer, then the service
  generalize h₁ : ({ t with peers } : PeerTable) = t₁ at h_pointer
  have h_hear₁ : hear source (t, [])
      { owner := type, ttl, cacheFlush := false, data := .ptr name } = (t₁, events) := by
    simp only [hear, takeFirst, if_pos h_type, h_sighting, h_pointer, List.nil_append]
  have h_of₁ : t₁.isOfType name := by rw [← h₁]; exact h_of
  obtain ⟨txt, h_txt⟩ : ∃ txt, (t₁.services[name.lower]?.map (·.txt)).getD ∅ = txt := ⟨_, rfl⟩
  generalize h₂ : ({ t₁ with
    services := t₁.services.insert name.lower { port, host := host.lower, txt } } : PeerTable) = t₂
  have h_hear₂ : hear source (t₁, events)
      { owner := name, ttl, cacheFlush := true, data := .srv 0 0 port host.lower } =
        (t₂, events) := by
    simp only [hear, takeFirst, if_pos h_of₁, takeService, if_neg h_ttl, h_txt, Name.lower_lower,
      h₂, List.append_nil]
  have h_hear₃ : hear source (t₂, events)
      { owner := name, ttl, cacheFlush := true, data := .txt texts } = (t₂, events) :=
    Prod.ext rfl (List.append_nil _)
  -- the second pass takes in the attributes, then the addresses
  have h_of₂ : t₂.isOfType name := by rw [← h₂]; exact h_of₁
  have h_service₂ : t₂.services[name.lower]? = some { port, host := host.lower, txt } := by
    rw [← h₂]
    exact Std.ExtTreeMap.getElem?_insert_self
  generalize h₃ : ({ t₂ with
    services := t₂.services.insert name.lower
      { port, host := host.lower, txt := .ofEntries texts } } : PeerTable) = t₃
  have h_second : t₂.takeSecond { owner := name, ttl, cacheFlush := true, data := .txt texts } =
      t₃ := by
    simp only [takeSecond, if_pos h_of₂, takeAttributes_eq h_service₂, h₃]
  have h_service₃ : t₃.services[name.lower]? =
      some { port, host := host.lower, txt := .ofEntries texts } := by
    rw [← h₃]
    exact Std.ExtTreeMap.getElem?_insert_self
  obtain ⟨h_peers, h_services, h_has⟩ := foldl_takeSecond_addresses h_ttl reached
    (runsOn_of_services h_service₃ rfl)
  refine ⟨_, ?_, ⟨peer, ?_, h_name⟩, ?_, fun x hx => h_has x (.inl hx)⟩
  · rw [takeIn_eq]
    simp only [List.foldl_cons, h_hear₁, h_hear₂, h_hear₃, foldl_hear_addresses]
    rw [← h_second]
    rfl
  · rw [h_peers, ← h₃, ← h₂, ← h₁]
    exact h_peer
  · rw [h_services]
    exact h_service₃

/-! ### Instances of a type -/

/-- Only an asterisk is an asterisk in lower case. -/
theorem lowerOctet_eq_asterisk {b : UInt8} : Dns.lowerOctet b = 42 ↔ b = 42 := by
  unfold Dns.lowerOctet
  split
  · next h_letter =>
    simp only [UInt8.le_iff_toNat_le, UInt8.reduceToNat] at h_letter
    simp only [← UInt8.toNat_inj, UInt8.toNat_add, UInt8.reduceToNat]
    omega
  · exact Iff.rfl

/-- Of names that are the same, both or none begin with an asterisk. -/
theorem head?_of_same {m n : Name} (h : m.same n = true) (h_head : n.head? = some [42]) :
    m.head? = some [42] := by
  have h_labels : m.labels.map (·.map Dns.lowerOctet) = n.labels.map (·.map Dns.lowerOctet) :=
    congrArg Name.labels (Name.same_iff.mp h)
  have h_lower := congrArg List.head? h_labels
  rw [List.head?_map, List.head?_map] at h_lower
  unfold Name.head? at h_head ⊢
  rw [h_head] at h_lower
  obtain ⟨label, h_label, h_map⟩ := Option.map_eq_some_iff.mp h_lower
  obtain ⟨b, h_single, h_b⟩ := List.map_eq_singleton_iff.mp h_map
  rw [h_label, h_single, lowerOctet_eq_asterisk.mp h_b]

/-- A name with one label before its type is that of an instance if both of them begin with an
asterisk, or neither does. -/
theorem isOfType_iff {t : PeerTable} {type name : Name} {label : Dns.Label}
    (h_labels : name.labels = label :: type.labels) (h_same : type.same t.type = true) :
    t.isOfType name = true ↔ (label = [42] ↔ type.head? = some [42]) := by
  -- both types have as many labels
  have h_count : type.labels.length = t.type.labels.length := by
    have h_lower := congrArg (List.length ∘ Name.labels) (Name.same_iff.mp h_same)
    simpa using h_lower
  -- behind its label the name is the type
  have h_base : name.base = type := by
    rw [Name.ext_iff', Name.base_labels, h_labels, List.tail_cons]
  have h_head : t.type.head? = some [42] ↔ type.head? = some [42] :=
    ⟨head?_of_same h_same, head?_of_same (by rwa [Name.same_comm])⟩
  have h_some : type.head? = some [42] → 1 ≤ t.type.labels.length := by
    intro h
    rw [← h_count]
    exact List.length_pos_of_ne_nil fun h_nil => by simp [Name.head?, h_nil] at h
  -- either of the two labels may not count
  have h_name : name.head? = some [42] ↔ label = [42] := by
    rw [Name.head?, h_labels, List.head?_cons, Option.some_inj]
  unfold isOfType Name.depth
  rw [h_base, h_same, Bool.and_true, beq_iff_eq]
  -- the count is right if neither label is an asterisk, or both are
  simp only [h_name, h_head, h_labels, List.length_cons, h_count]
  by_cases h_label : label = [42]
  · rw [if_pos h_label]
    by_cases h_type : type.head? = some [42]
    · have h_pos := h_some h_type
      rw [if_pos h_type]
      exact iff_of_true (by omega) (iff_of_true h_label h_type)
    · rw [if_neg h_type]
      exact iff_of_false (by omega) fun h => h_type (h.mp h_label)
  · rw [if_neg h_label]
    by_cases h_type : type.head? = some [42]
    · have h_pos := h_some h_type
      rw [if_pos h_type]
      exact iff_of_false (by omega) fun h => h_label (h.mpr h_type)
    · rw [if_neg h_type]
      exact iff_of_true rfl (iff_of_false h_label h_type)

/-- A name with one label before its type is that of an instance, unless one of them begins with an
asterisk. -/
theorem isOfType_of_labels {t : PeerTable} {type name : Name} {label : Dns.Label}
    (h_labels : name.labels = label :: type.labels) (h_label : label ≠ [42])
    (h_head : type.head? ≠ some [42]) (h_same : type.same t.type = true) :
    t.isOfType name = true :=
  (isOfType_iff h_labels h_same).mpr (iff_of_false h_label h_head)

end PeerTable

/-! ### Hearing of a service -/

namespace LocalService

/-- As what a service is seen by someone who hears from it. -/
def sighting (ad : Advertisement) (source : SocketAddress) (t : PeerTable) : Sighting where
  interface := source.interface
  protocol := source.scope
  name := ad.name
  serviceType := t.typeText
  domain := domain

variable {ad : Advertisement} {host : Name} {addresses : Std.ExtTreeSet IpAddress} {ttl : UInt32}
  {s : LocalService} {t : PeerTable} {source : SocketAddress}

theorem bytes_ne_asterisk {text : String} (h : text ≠ "*") : Utf8.bytes text ≠ [42] := by
  intro h_bytes
  have h_text := Utf8.textLossy_bytes text
  rw [h_bytes] at h_text
  exact h (h_text.symm.trans (by decide))

/-- **A service is heard.** Whatever a peer has heard before, the announcement of a service makes it
appear unless it is known, and makes it known how to reach it: by its port, its attributes, and the
least address in the scope asked for, for every scope in which an address is announced. -/
theorem is_heard (h : create ad host addresses ttl = .ok s) (h_ttl : ttl ≠ 0)
    (h_clear : marksTruncation s.announcement = false) (h_short : s.name.length < 255)
    (h_txt : ad.txt ≠ ∅) (h_keys : ∀ name ∈ ad.txt, '=' ∉ name.toList) (h_name : ad.name ≠ "*")
    (h_type : s.type.head? ≠ some (Utf8.bytes "*")) (h_same : s.type.same t.type = true)
    (h_held : ∀ peer, t.peers[sighting ad source t]? = some peer → peer.name = s.name.lower) :
    ∃ m t', Message.decode? s.announcement = some m ∧ m.isResponse = true ∧ m.truncated = false ∧
      t.takeIn m.records source =
        (t', if sighting ad source t ∈ t.peers then [] else [.appeared (sighting ad source t)]) ∧
      ∀ q : IpScope,
        (∃ x ∈ addresses, ad.scope.includes x.scope = true ∧ q.includes x.scope = true) →
        ∃ c, t'.contact? (sighting ad source t) q = some c ∧ c.port = ad.port ∧ c.txt = ad.txt ∧
          t'.Least s.host.lower q c.address ∧
          ∀ x ∈ addresses, ad.scope.includes x.scope = true → q.includes x.scope = true →
            (compare c.address x).isLE := by
  -- what is announced is decoded
  have h_accepted := accepted_of_create h
  have h_entries : entries ad.txt ≠ [] := fun h_nil => h_txt (entries_eq_nil.mp h_nil)
  have h_received : (RecordData.txt (entries ad.txt)).received = .txt (entries ad.txt) := by
    cases h_case : entries ad.txt with
    | nil => exact absurd h_case h_entries
    | cons text texts => rfl
  have h_decode := decode?_response (type_length_lt h_accepted.name) h_accepted.texts
    h_accepted.announcement h_clear
  rw [if_pos h_short, received_response, h_received, ← h_accepted.host_eq] at h_decode
  -- its name is recognised as one of the type
  have h_of : t.isOfType s.name = true :=
    PeerTable.isOfType_of_labels h_accepted.name (bytes_ne_asterisk h_name) h_type h_same
  have h_sighting : t.sighting? source.interface source.scope s.name =
      some (sighting ad source t) := by
    rw [PeerTable.sighting?, if_pos h_of, instanceText?, Name.head?, h_accepted.name,
      List.head?_cons, Option.map_some, Utf8.textLossy_bytes]
    rfl
  -- the table takes in the whole of it
  obtain ⟨t', h_take, ⟨peer, h_peer, h_peer_name⟩, h_service, h_has⟩ :=
    PeerTable.takeIn_announcement h_ttl h_same h_of h_sighting h_held
  refine ⟨_, t', h_decode, rfl, rfl, h_take, ?_⟩
  -- with an address in the scope there is a contact, and no address of the scope is less
  rintro q ⟨x, h_mem, h_scope, h_q⟩
  have h_known : t'.Has s.host.lower x := h_has x (mem_advertised.mpr ⟨h_mem, h_scope⟩)
  rw [← h_peer_name] at h_service
  obtain ⟨address, h_contact, h_least⟩ := PeerTable.contact?_least h_peer h_service h_known h_q
  refine ⟨_, h_contact, rfl, Attributes.ofEntries_entries h_keys, h_least, ?_⟩
  intro y h_mem_y h_scope_y h_q_y
  exact h_least.le y (h_has y (mem_advertised.mpr ⟨h_mem_y, h_scope_y⟩)) h_q_y

/-- Someone from whom an announcement comes. -/
def benchSource : SocketAddress := .v4 ⟨192, 168, 1, 7⟩ 5353

theorem bench_txt_ne_empty : benchServer.txt ≠ ∅ := by
  intro h_empty
  have h_nil := entries_eq_nil.mpr h_empty
  exact absurd h_nil (by decide)

theorem bench_keys : ∀ name ∈ benchServer.txt, '=' ∉ name.toList := by
  intro name h_mem
  rcases Std.ExtTreeMap.mem_insert.mp h_mem with h_eq | h_empty
  · rw [← Std.LawfulEqOrd.eq_of_compare h_eq]
    decide
  · exact absurd h_empty Std.ExtTreeMap.not_mem_empty

/-- A peer that has heard nothing yet hears of the server. -/
theorem bench_is_heard : ∃ host s m t', hostNameOf "bench" = .ok host ∧
    create benchServer host benchAddresses 120 = .ok s ∧
    Message.decode? s.announcement = some m ∧
    (PeerTable.empty s.type serverType).takeIn m.records benchSource =
      (t', [.appeared (sighting benchServer benchSource (.empty s.type serverType))]) ∧
    ∃ c, t'.contact? (sighting benchServer benchSource (.empty s.type serverType)) .v4 = some c ∧
      c.port = 55132 ∧ c.txt = benchServer.txt := by
  -- the announcement of the server is clear, and its name is short
  obtain ⟨host, s, h_host, h_create, h_length, h_clear⟩ := exists_clear_bench
  have h_type : s.type.head? ≠ some (Utf8.bytes "*") := by
    rw [Name.head?, labels_of_nameOf (accepted_of_create h_create).type]
    decide
  -- nothing is known at first
  have h_absent : sighting benchServer benchSource (.empty s.type serverType) ∉
      (PeerTable.empty s.type serverType).peers := Std.ExtTreeMap.not_mem_empty
  have h_held : ∀ peer, (PeerTable.empty s.type serverType).peers[sighting benchServer benchSource
      (.empty s.type serverType)]? = some peer → peer.name = s.name.lower := by
    intro peer h_peer
    rw [Std.ExtTreeMap.mem_iff_isSome_getElem?, h_peer] at h_absent
    exact absurd rfl h_absent
  obtain ⟨m, t', h_decode, -, -, h_take, h_contact⟩ :=
    is_heard h_create (by decide) h_clear (by omega) bench_txt_ne_empty bench_keys (by decide)
      h_type (Name.same_self _) h_held
  rw [if_neg h_absent] at h_take
  have h_address : IpAddress.v4 ⟨192, 168, 1, 7⟩ ∈ benchAddresses := by decide
  obtain ⟨c, h_some, h_port, h_same, -⟩ := h_contact .v4 ⟨_, h_address, by decide, by decide⟩
  exact ⟨host, s, m, t', h_host, h_create, h_decode, h_take, c, h_some, h_port, h_same⟩

/-! ### A name that is too long -/

/-- A server whose name, with its type, takes 255 octets. -/
def longServer : Advertisement where
  name := String.ofList (List.replicate 63 'a')
  serviceType := String.ofList
    (List.replicate 63 'b' ++ '.' :: List.replicate 63 'c' ++ '.' :: List.replicate 56 'd')
  port := 55132
  txt := benchServer.txt
  scope := .any

theorem labelsOf_long_type : labelsOf longServer.serviceType =
    [List.replicate 63 98, List.replicate 63 99, List.replicate 56 100] := by
  unfold labelsOf longServer
  rw [String.toList_ofList]
  decide

theorem bytes_long_name : Utf8.bytes longServer.name = List.replicate 63 97 := by
  unfold Utf8.bytes longServer
  rw [String.toList_ofList]
  decide

/-- The server is accepted on any host, and there is room for everything in its announcement. -/
theorem exists_clear_long_on (h_host : host.length < 255) {x : IpAddress}
    (h_address : advertised longServer addresses = [x]) :
    ∃ s, create longServer host addresses 120 = .ok s ∧
      s.type.labels = labelsOf longServer.serviceType ++ [domainLabel] ∧ s.name.length = 255 ∧
      marksTruncation s.announcement = false := by
  -- both names are as long as they may be
  obtain ⟨type, h_type⟩ : ∃ type, typeName longServer.serviceType = .ok type := by
    refine exists_nameOf ?_ ?_
    · rw [labelsOf_long_type]
      decide
    · rw [labelsOf_long_type]
      decide
  have h_type_labels := labels_of_nameOf h_type
  obtain ⟨name, h_name⟩ : ∃ name, nameInType longServer.name type = .ok name := by
    refine exists_nameOf ?_ ?_
    · rw [h_type_labels, labelsOf_long_type, bytes_long_name]
      decide
    · rw [h_type_labels, labelsOf_long_type, bytes_long_name]
      decide
  have h_texts : entries longServer.txt = [Utf8.bytes "uuid=7f0c"] := rfl
  -- with these names a service is created, and its announcement is clear
  obtain ⟨s, h_create, rfl, rfl, h_clear, -⟩ :=
    exists_clear h_type h_name h_host h_texts (by decide) h_address 120
  refine ⟨s, h_create, h_type_labels, ?_, h_clear⟩
  rw [Name.length, labels_of_nameOf h_name, h_type_labels, labelsOf_long_type, bytes_long_name]
  decide

theorem exists_clear_long : ∃ host s, hostNameOf "bench" = .ok host ∧
    create longServer host benchAddresses 120 = .ok s ∧
    s.type.labels = labelsOf longServer.serviceType ++ [domainLabel] ∧ s.name.length = 255 ∧
    marksTruncation s.announcement = false := by
  obtain ⟨host, h_host, h_short⟩ := exists_hostNameOf "bench" (by decide)
  obtain ⟨s, h_clear⟩ := exists_clear_long_on h_short
    (advertised_benchAddresses longServer (by decide))
  exact ⟨host, s, h_host, h_clear⟩

/-- The server is accepted, and its announcement is complete, but cannot be read. -/
theorem long_name_is_not_heard : ∃ host s, hostNameOf "bench" = .ok host ∧
    create longServer host benchAddresses 120 = .ok s ∧
    marksTruncation s.announcement = false ∧ longServer.txt ≠ ∅ ∧
    (∀ name ∈ longServer.txt, '=' ∉ name.toList) ∧ longServer.name ≠ "*" ∧
    s.type.head? ≠ some (Utf8.bytes "*") ∧ Message.decode? s.announcement = none := by
  -- the name has 255 octets, and nothing else is wrong with it
  obtain ⟨host, s, h_host, h_create, h_labels, h_length, h_clear⟩ := exists_clear_long
  have h_accepted := accepted_of_create h_create
  have h_name : longServer.name ≠ "*" := by
    intro h_eq
    have h_bytes := bytes_long_name
    rw [h_eq] at h_bytes
    exact absurd h_bytes (by decide)
  have h_head : s.type.head? ≠ some (Utf8.bytes "*") := by
    rw [Name.head?, h_labels, labelsOf_long_type]
    decide
  refine ⟨host, s, h_host, h_create, h_clear, bench_txt_ne_empty, bench_keys, h_name, h_head, ?_⟩
  rw [decode?_response (type_length_lt h_accepted.name) h_accepted.texts h_accepted.announcement
    h_clear, if_neg (by omega)]

end LocalService

end ServiceDiscovery
