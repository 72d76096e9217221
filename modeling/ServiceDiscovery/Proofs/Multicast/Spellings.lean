import ServiceDiscovery.Proofs.Multicast.Attributes

/-!
# Names and their spellings

For DNS two names are the same if they differ at most in the case of letters, and services and hosts
are looked up by names in lower case.  An instance that is heard from is kept under a sighting, and
that has its name as text: the first label as it was spelled, read as UTF-8.  So two names of
instances lead to one sighting if their first labels read the same, and they are the same if their
first labels differ at most in the case of letters (`PeerTable.sighting?_eq_iff`).

The two agree where names are spelled uniformly (`PeerTable.Uniform`): first labels are valid UTF-8,
and no name comes in two spellings.  Otherwise one instance is kept twice, and a farewell in another
spelling does not reach it; and two instances whose labels are no text may be kept as one.
-/

namespace ServiceDiscovery
namespace PeerTable

open Dns (Name Label Record lowerOctet)

variable {t : PeerTable} {interface : UInt32} {protocol : IpScope} {a b : Name} {k : Sighting}

/-! ### Names of instances -/

/-- A name of an instance is a label before a name that is the type's. -/
theorem labels_of_isOfType (h : t.isOfType a = true) :
    ∃ label, a.head? = some label ∧
      a.lower.labels = label.map lowerOctet :: t.type.lower.labels := by
  unfold isOfType at h
  obtain ⟨h_depth, h_base⟩ := Bool.and_eq_true_iff.mp h
  have h_base' := congrArg Name.labels (Name.same_iff.mp h_base)
  have h_labels : a.labels ≠ [] := by
    -- otherwise the type had no label either, and there is one label less in it
    intro h_nil
    rw [Name.lower_labels, Name.base_labels, h_nil] at h_base'
    have h_type : t.type.labels = [] := List.map_eq_nil_iff.mp h_base'.symm
    simp [Name.depth, Name.head?, h_nil, h_type] at h_depth
  obtain ⟨label, rest, h_cons⟩ := List.exists_cons_of_ne_nil h_labels
  refine ⟨label, by rw [Name.head?, h_cons]; rfl, ?_⟩
  rw [Name.lower_labels, Name.base_labels, h_cons] at h_base'
  rw [Name.lower_labels, h_cons, List.map_cons]
  exact congrArg _ h_base'

/-- The sighting of an instance has its name as text. -/
theorem sighting?_eq_some_iff :
    t.sighting? interface protocol a = some k ↔
      t.isOfType a = true ∧ ∃ label, a.head? = some label ∧
        k = { interface, protocol, name := Utf8.textLossy label, serviceType := t.typeText
              domain } := by
  unfold sighting? instanceText?
  by_cases h_of : t.isOfType a = true
  · -- for a name of the type the two sides say the same of its first label
    rw [if_pos h_of, and_iff_right h_of, Option.map_map, Option.map_eq_some_iff]
    exact exists_congr fun label => and_congr_right fun _ => eq_comm
  · rw [if_neg h_of]
    exact iff_of_false (by simp) fun h => h_of h.1

/-- Names that differ in their first labels alone are both names of instances, or neither is, unless
one of these labels is an asterisk. -/
theorem isOfType_congr (h_head : a.head? = some [42] ↔ b.head? = some [42])
    (h_length : a.labels.length = b.labels.length) (h_base : a.base.same b.base = true) :
    t.isOfType a = t.isOfType b := by
  have h_depth : a.depth = b.depth := by
    unfold Name.depth
    simp only [h_head, h_length]
  unfold isOfType Name.same
  rw [h_depth, Name.same_iff.mp h_base]

/-- **Sightings tell apart what reads differently.** -/
theorem sighting?_eq_iff {k' : Sighting} (ha : t.sighting? interface protocol a = some k)
    (hb : t.sighting? interface protocol b = some k') :
    ∃ l m, a.head? = some l ∧ b.head? = some m ∧
      (k = k' ↔ Utf8.textLossy l = Utf8.textLossy m) ∧
      (a.same b = true ↔ l.map lowerOctet = m.map lowerOctet) := by
  obtain ⟨h_a, l, hl, rfl⟩ := sighting?_eq_some_iff.mp ha
  obtain ⟨h_b, m, hm, rfl⟩ := sighting?_eq_some_iff.mp hb
  -- the instance names differ only in the first label, as the rest is the type
  refine ⟨l, m, hl, hm, by simp, ?_⟩
  obtain ⟨l', hl', h_lower⟩ := labels_of_isOfType h_a
  obtain ⟨m', hm', h_lower'⟩ := labels_of_isOfType h_b
  obtain rfl := Option.some.inj (hl.symm.trans hl')
  obtain rfl := Option.some.inj (hm.symm.trans hm')
  rw [Name.same_iff, Name.ext_iff', h_lower, h_lower']
  exact ⟨List.head_eq_of_cons_eq, fun h => by rw [h]⟩

/-! ### Uniform spelling -/

/-- Octets that are valid UTF-8 can be told from what they read as. -/
theorem eq_of_textLossy_eq {l m : Label} (hl : (Utf8.decode? l).isSome = true)
    (hm : (Utf8.decode? m).isSome = true) (h : Utf8.textLossy l = Utf8.textLossy m) : l = m := by
  -- bytes that are text are the bytes of that text
  have h_bytes : ∀ {l : Label}, (Utf8.decode? l).isSome = true →
      Utf8.bytes (Utf8.textLossy l) = l := by
    intro l hl
    unfold Utf8.bytes Utf8.textLossy
    rw [String.toList_ofList]
    by_contra h_not
    -- bytes that are no text decode to nothing
    rw [Utf8.decode?, if_neg h_not] at hl
    exact Bool.noConfusion hl
  rw [← h_bytes hl, h, h_bytes hm]

/-- Names are spelled uniformly: their first labels are valid UTF-8, and no name comes in two
spellings. -/
structure Uniform (names : Name → Prop) : Prop where
  valid {a : Name} {l : Label} : names a → a.head? = some l → (Utf8.decode? l).isSome = true
  spelled {a b : Name} : names a → names b → a.same b = true → a.head? = b.head?

/-- Of names that are spelled uniformly, those that are the same have the same sighting, and no
others do. -/
theorem Uniform.sighting?_eq_iff {names : Name → Prop} (h : Uniform names) (h_a : names a)
    (h_b : names b) {k' : Sighting} (ha : t.sighting? interface protocol a = some k)
    (hb : t.sighting? interface protocol b = some k') : k = k' ↔ a.same b = true := by
  obtain ⟨l, m, hl, hm, h_text, h_same⟩ := PeerTable.sighting?_eq_iff ha hb
  rw [h_text, h_same]
  constructor
  · -- the same text, so the same bytes
    intro h_eq
    rw [eq_of_textLossy_eq (h.valid h_a hl) (h.valid h_b hm) h_eq]
  · -- names that are the same begin with the same spelling
    intro h_lower
    have h_head := h.spelled h_a h_b (h_same.mpr h_lower)
    rw [hl, hm] at h_head
    rw [Option.some.inj h_head]

/-! ### Where entries come from -/

/-- Every entry is kept under the sighting of a name with which it was heard from. -/
def Filed (names : Name → Prop) (t : PeerTable) : Prop :=
  ∀ (k : Sighting) (peer : Peer), t.peers[k]? = some peer →
    ∃ a, names a ∧ t.sighting? k.interface k.protocol a = some k ∧ peer.name = a.lower

/-- A pointer keeps the names of the peers, and enters its own where there is none. -/
theorem name_takePointer {ttl : UInt32} {k' : Sighting} {peer' : Peer}
    (h : (t.takePointer k a ttl).1.peers[k']? = some peer') :
    (∃ peer, t.peers[k']? = some peer ∧ peer'.name = peer.name) ∨
      k = k' ∧ t.peers[k']? = none ∧ ttl ≠ 0 ∧ peer'.name = a.lower := by
  unfold takePointer at h
  by_cases h_ttl : ttl = 0
  · -- a goodbye only takes an entry away
    rw [if_pos h_ttl] at h
    split at h
    · simp only [Std.ExtTreeMap.getElem?_erase] at h
      split at h
      · exact absurd h (by simp)
      · exact .inl ⟨peer', h, rfl⟩
    · exact .inl ⟨peer', h, rfl⟩
  · rw [if_neg h_ttl] at h
    -- a renewed entry keeps the name that it has
    cases h_peer : t.peers[k]? with
    | some peer =>
      simp only [h_peer, Std.ExtTreeMap.getElem?_insert, Std.LawfulEqOrd.compare_eq_iff_eq] at h
      split at h
      · next hk =>
        subst hk
        exact .inl ⟨peer, h_peer, by rw [← Option.some.inj h]⟩
      · exact .inl ⟨peer', h, rfl⟩
    -- a new entry gets its name from the pointer
    | none =>
      simp only [h_peer, Std.ExtTreeMap.getElem?_insert, Std.LawfulEqOrd.compare_eq_iff_eq] at h
      split at h
      · next hk => exact .inr ⟨hk, hk ▸ h_peer, h_ttl, by rw [← Option.some.inj h]⟩
      · exact .inl ⟨peer', h, rfl⟩

/-- So does the first pass over a record. -/
theorem name_takeFirst {r : Record} {peer' : Peer}
    (h : (t.takeFirst interface protocol r).1.peers[k]? = some peer') :
    (∃ peer, t.peers[k]? = some peer ∧ peer'.name = peer.name) ∨
      t.peers[k]? = none ∧ r.ttl ≠ 0 ∧ ∃ a, r.data = .ptr a ∧ r.owner.same t.type = true ∧
        t.sighting? interface protocol a = some k ∧ peer'.name = a.lower := by
  unfold takeFirst at h
  split at h
  · next target h_data =>
    split at h
    · next h_owner =>
      -- the pointer is about the type that is browsed, and leads to an instance
      split at h
      · next k' h_k' =>
        refine (name_takePointer h).imp_right ?_
        rintro ⟨rfl, h_none, h_ttl, h_name⟩
        exact ⟨h_none, h_ttl, target, h_data, h_owner, h_k', h_name⟩
      · exact .inl ⟨peer', h, rfl⟩
    · exact .inl ⟨peer', h, rfl⟩
  · -- service records and everything else leave the peers alone
    split at h
    · unfold takeService at h
      split at h <;> exact .inl ⟨peer', h, rfl⟩
    · exact .inl ⟨peer', h, rfl⟩
  · exact .inl ⟨peer', h, rfl⟩

/-- An entry that lets a query pass keeps its name. -/
theorem name_age {tolerated : UInt8} {peer' : Peer}
    (h : (t.age tolerated).1.peers[k]? = some peer') :
    ∃ peer, t.peers[k]? = some peer ∧ peer'.name = peer.name := by
  unfold age at h
  split at h
  · exact ⟨peer', h, rfl⟩
  · -- aging changes how long an entry has been silent, or drops it
    simp only [Std.ExtTreeMap.getElem?_filterMap] at h
    cases h_peer : t.peers[k]? with
    | none => simp [h_peer] at h
    | some peer =>
      simp only [h_peer, Option.pbind_eq_bind, Option.bind_some, Option.ite_none_right_eq_some,
        Option.some.injEq] at h
      exact ⟨peer, rfl, by rw [← h.2]⟩

namespace Filed

variable {names : Name → Prop} {t' : PeerTable}

theorem mono {names' : Name → Prop} (h : t.Filed names) (h_names : ∀ a, names a → names' a) :
    t.Filed names' := by
  intro k peer h_peer
  obtain ⟨a, h_a, h_sighting, h_lower⟩ := h k peer h_peer
  exact ⟨a, h_names a h_a, h_sighting, h_lower⟩

/-- The peers of a table of the same type have the names they had. -/
theorem of_names (h : t.Filed names) (h_alike : t.Alike t')
    (h_names : ∀ (k : Sighting) (peer' : Peer), t'.peers[k]? = some peer' →
      ∃ peer, t.peers[k]? = some peer ∧ peer'.name = peer.name) : t'.Filed names := by
  intro k peer' h_peer'
  obtain ⟨peer, h_peer, h_name⟩ := h_names k peer' h_peer'
  obtain ⟨a, h_a, h_sighting, h_lower⟩ := h k peer h_peer
  exact ⟨a, h_a, (h_alike.sighting? _ _ a).trans h_sighting, h_name.trans h_lower⟩

/-- The first pass over a record files its pointer, if it is one to an instance. -/
theorem takeFirst (h : t.Filed names) (interface : UInt32) (protocol : IpScope) (r : Record)
    (h_r : ∀ a, r.data = .ptr a → r.owner.same t.type = true → t.isOfType a = true → names a) :
    (t.takeFirst interface protocol r).1.Filed names := by
  have h_alike := alike_takeFirst t interface protocol r
  intro k peer' h_peer'
  obtain ⟨peer, h_peer, h_name⟩ | ⟨-, -, a, h_data, h_owner, h_k, h_name⟩ := name_takeFirst h_peer'
  · obtain ⟨a, h_a, h_sighting, h_lower⟩ := h k peer h_peer
    exact ⟨a, h_a, (h_alike.sighting? _ _ a).trans h_sighting, h_name.trans h_lower⟩
  · -- the sighting has the interface and family of the source
    obtain ⟨h_of, label, -, h_eq⟩ := sighting?_eq_some_iff.mp h_k
    refine ⟨a, h_r a h_data h_owner h_of, (h_alike.sighting? _ _ a).trans ?_, h_name⟩
    rw [h_eq] at h_k ⊢
    exact h_k

theorem foldl_hear {source : SocketAddress} {records : List Record} {s : PeerTable × List Event}
    (h : s.1.Filed names)
    (h_records : ∀ r ∈ records, ∀ a, r.data = .ptr a → r.owner.same s.1.type = true →
      s.1.isOfType a = true → names a) : (records.foldl (hear source) s).1.Filed names := by
  induction records generalizing s with
  | nil => exact h
  | cons r records ih =>
    -- the type of the table is the same for all records
    have h_alike := alike_takeFirst s.1 source.interface source.scope r
    have h_r := h.takeFirst source.interface source.scope r
      (h_records r (List.mem_cons_self ..))
    refine ih (s := hear source s r) h_r fun r' h_r' a h_data h_owner h_of => ?_
    rw [hear, h_alike.type] at h_owner
    rw [hear, h_alike.isOfType] at h_of
    exact h_records r' (List.mem_cons_of_mem r h_r') a h_data h_owner h_of

/-- The second pass does not touch the peers. -/
theorem foldl_takeSecond (h : t.Filed names) (records : List Record) :
    (records.foldl takeSecond t).Filed names := by
  induction records generalizing t with
  | nil => exact h
  | cons r records ih =>
    refine ih (h.of_names (alike_takeSecond t r) fun k peer' h_peer' => ?_)
    rw [peers_takeSecond] at h_peer'
    exact ⟨peer', h_peer', rfl⟩

theorem takeIn (h : t.Filed names) (records : List Record) (source : SocketAddress)
    (h_records : ∀ r ∈ records, ∀ a, r.data = .ptr a → r.owner.same t.type = true →
      t.isOfType a = true → names a) : (t.takeIn records source).1.Filed names := by
  rw [takeIn_eq]
  exact (h.foldl_hear (s := (t, [])) h_records).foldl_takeSecond records

theorem age (h : t.Filed names) (tolerated : UInt8) : (t.age tolerated).1.Filed names :=
  h.of_names (alike_age t tolerated) fun _ _ => name_age

end Filed

/-- A name of an instance that some pointer to it was heard with. -/
def HeardOf (t : PeerTable) (inputs : List Input) (a : Name) : Prop :=
  t.isOfType a = true ∧ ∃ records source, .hears records source ∈ inputs ∧
    ∃ r ∈ records, r.data = .ptr a ∧ r.owner.same t.type = true

/-- Every entry comes from a pointer that was heard. -/
theorem filed_after (type : Name) (typeText : String) (inputs : List Input) :
    ((empty type typeText).after inputs).1.Filed ((empty type typeText).HeardOf inputs) := by
  induction inputs using List.reverseRecOn with
  | nil =>
    intro k peer h_peer
    -- nothing is filed at first
    exact absurd (h_peer.symm.trans Std.ExtTreeMap.getElem?_empty) (by simp)
  | append_singleton inputs input ih =>
    have h_alike := alike_after (empty type typeText) inputs
    -- what was heard before is part of what has been heard
    have h_before : ((empty type typeText).after inputs).1.Filed
        ((empty type typeText).HeardOf (inputs ++ [input])) :=
      ih.mono fun a ⟨h_of, records, source, h_mem, h_r⟩ =>
        ⟨h_of, records, source, List.mem_append_left [input] h_mem, h_r⟩
    rw [after_concat]
    cases input with
    | hears records source =>
      refine h_before.takeIn records source fun r h_r a h_data h_owner h_of => ?_
      rw [h_alike.isOfType] at h_of
      rw [h_alike.type] at h_owner
      exact ⟨h_of, records, source, List.mem_append_right inputs (List.mem_singleton_self _), r,
        h_r, h_data, h_owner⟩
    | asks tolerated => exact h_before.age tolerated

/-! ### Farewells -/

/-- A farewell removes the entry under the sighting of the name that it is spelled with. -/
theorem mem_takeIn_farewell {r : Record} (h_data : r.data = .ptr a)
    (h_owner : r.owner.same t.type = true) (h_ttl : r.ttl = 0) (source : SocketAddress) :
    k ∈ (t.takeIn [r] source).1.peers ↔
      k ∈ t.peers ∧ t.sighting? source.interface source.scope a ≠ some k := by
  -- whatever else the response does, the peers are settled by the pointer
  have h_peers : (t.takeIn [r] source).1.peers =
      (t.takeFirst source.interface source.scope r).1.peers :=
    peers_takeSecond _ r
  rw [h_peers]
  unfold takeFirst
  rw [h_data]
  dsimp only
  rw [if_pos h_owner]
  cases h_k : t.sighting? source.interface source.scope a with
  -- the name is of another type
  | none => simp
  | some k' =>
    dsimp only
    unfold takePointer
    rw [if_pos h_ttl]
    -- the entry goes, if there was one
    by_cases h_mem : k' ∈ t.peers
    · rw [if_pos h_mem]
      simp only [Std.ExtTreeMap.mem_erase, Std.LawfulEqOrd.compare_eq_iff_eq, ne_eq,
        Option.some.injEq]
      tauto
    · rw [if_neg h_mem]
      refine (and_iff_left_of_imp ?_).symm
      rintro hk ⟨⟩
      exact h_mem hk

/-! ### One entry for each instance -/

/-- The entries of a table stand for the instances that have these names. -/
structure Faithful (names : Name → Prop) (t : PeerTable) : Prop where
  /-- Two of the names have the same sighting exactly if they are the same. -/
  sightings (interface : UInt32) (protocol : IpScope) {a b : Name} {k k' : Sighting} :
    names a → names b → t.sighting? interface protocol a = some k →
      t.sighting? interface protocol b = some k' → (k = k' ↔ a.same b = true)
  /-- An entry is that of the instance of a name exactly if it is kept under the sighting of the
  name. -/
  entries {k : Sighting} {peer : Peer} {a : Name} : t.peers[k]? = some peer → names a →
    t.isOfType a = true →
      (peer.name = a.lower ↔ t.sighting? k.interface k.protocol a = some k)
  /-- No instance has two entries on one interface and family. -/
  unique {k k' : Sighting} {peer peer' : Peer} : t.peers[k]? = some peer →
    t.peers[k']? = some peer' → k.interface = k'.interface → k.protocol = k'.protocol →
      (k = k' ↔ peer.name = peer'.name)
  /-- A farewell removes the entry of its instance on the interface and family, and no other
  there. -/
  farewells {k : Sighting} {peer : Peer} {a : Name} {r : Record} {source : SocketAddress} :
    t.peers[k]? = some peer → k.interface = source.interface → k.protocol = source.scope →
      names a → t.isOfType a = true → r.data = .ptr a → r.owner.same t.type = true → r.ttl = 0 →
        (k ∉ (t.takeIn [r] source).1.peers ↔ peer.name = a.lower)

/-- Every name of an instance has a sighting. -/
theorem exists_sighting? (h : t.isOfType a = true) (interface : UInt32) (protocol : IpScope) :
    ∃ k, t.sighting? interface protocol a = some k := by
  obtain ⟨label, h_head, -⟩ := labels_of_isOfType h
  exact ⟨_, sighting?_eq_some_iff.mpr ⟨h, label, h_head, rfl⟩⟩

/-- **Uniform spelling is faithful.** Where the entries have names that are spelled uniformly, they
stand for the instances of these names. -/
theorem Filed.faithful {names : Name → Prop} (h : t.Filed names) (h_uniform : Uniform names) :
    t.Faithful names := by
  have h_entries : ∀ {k : Sighting} {peer : Peer} {a : Name}, t.peers[k]? = some peer → names a →
      t.isOfType a = true →
        (peer.name = a.lower ↔ t.sighting? k.interface k.protocol a = some k) := by
    intro k peer a h_peer h_a h_of
    -- the entry was filed under a name of its own, so two names are to be compared
    obtain ⟨b, h_b, h_kb, h_name⟩ := h k peer h_peer
    obtain ⟨k', h_ka⟩ := exists_sighting? h_of k.interface k.protocol
    have h_iff := h_uniform.sighting?_eq_iff h_b h_a h_kb h_ka
    rw [h_name, ← Name.same_iff, ← h_iff, h_ka, Option.some.injEq, eq_comm]
  refine ⟨?_, h_entries, ?_, ?_⟩
  · intro interface protocol a b k k' h_a h_b ha hb
    exact h_uniform.sighting?_eq_iff h_a h_b ha hb
  · -- the second entry has a name of its own, and the first is compared with that
    intro k k' peer peer' h_peer h_peer' h_interface h_protocol
    obtain ⟨b, h_b, h_kb, h_name⟩ := h k' peer' h_peer'
    rw [h_name, h_entries h_peer h_b (sighting?_eq_some_iff.mp h_kb).1, h_interface, h_protocol,
      h_kb, Option.some.injEq, eq_comm]
  · intro k peer a r source h_peer h_interface h_protocol h_a h_of h_data h_owner h_ttl
    have h_mem : k ∈ t.peers := by
      rw [Std.ExtTreeMap.mem_iff_isSome_getElem?, h_peer]
      rfl
    rw [mem_takeIn_farewell h_data h_owner h_ttl, h_entries h_peer h_a h_of, h_interface,
      h_protocol]
    tauto

/-- **Entries are spellings.** A table that knew nothing takes in any responses from any sources,
with any queries in between.

* Two names of instances lead to the same sighting exactly if their first labels read the same, and
  they are the same name exactly if their first labels differ at most in the case of letters.
* Every entry is kept under the sighting of a name with which it was heard from.
* If these names, and whichever are looked at besides, are spelled uniformly, then the entries stand
  for the instances: sightings tell apart what DNS tells apart, no instance has two entries on one
  interface and family, no two share one, and a farewell removes the entry of its instance. -/
theorem entries_are_spellings (type : Name) (typeText : String) (inputs : List Input) :
    let t := ((empty type typeText).after inputs).1
    (∀ interface protocol a b k k', t.sighting? interface protocol a = some k →
      t.sighting? interface protocol b = some k' →
        ∃ l m, a.head? = some l ∧ b.head? = some m ∧
          (k = k' ↔ Utf8.textLossy l = Utf8.textLossy m) ∧
          (a.same b = true ↔ l.map lowerOctet = m.map lowerOctet)) ∧
    t.Filed ((empty type typeText).HeardOf inputs) ∧
    ∀ names, Uniform names → (∀ a, (empty type typeText).HeardOf inputs a → names a) →
      t.Faithful names := by
  intro t
  have h_filed := filed_after type typeText inputs
  refine ⟨fun interface protocol a b k k' ha hb => sighting?_eq_iff ha hb, h_filed, ?_⟩
  -- the filing is the same for any names among which those heard are
  intro names h_uniform h_names
  exact (h_filed.mono h_names).faithful h_uniform

/-! ### A server that is spelled in several ways -/

/-- A pointer to an instance of the type. -/
def benchPointer (target : Name) (ttl : UInt32) : Record :=
  { owner := benchType, ttl, cacheFlush := false, data := .ptr target }

/-- The farewell of a server in the spelling in which it was heard from removes its entry. -/
theorem bench_leaves :
    (benchTable benchPlace).peers[benchSighting]?.isSome = true ∧
      benchSighting ∉ ((benchTable benchPlace).takeIn [benchPointer benchName 0]
        LocalService.benchSource).1.peers := by
  have h_some : (benchTable benchPlace).peers[benchSighting]?.map (·.name) =
      some benchName.lower := by decide +kernel
  obtain ⟨peer, h_peer, h_name⟩ := Option.map_eq_some_iff.mp h_some
  -- there is one name only, so every two agree
  have h_uniform : Uniform (· = benchName) := by
    refine ⟨?_, ?_⟩
    · rintro _ l rfl h_head
      have h_valid : (benchName.head?.bind Utf8.decode?).isSome = true := by decide +kernel
      rw [h_head] at h_valid
      exact h_valid
    · rintro _ _ rfl rfl -
      rfl
  have h_heard : ∀ a, (empty benchType serverType).HeardOf
      [.hears benchPlace LocalService.benchSource] a → a = benchName := by
    rintro a ⟨-, records, source, h_mem, r, h_r, h_data, -⟩
    obtain ⟨rfl, rfl⟩ := Input.hears.inj (List.mem_singleton.mp h_mem)
    -- there is one pointer in the response
    simp only [benchPlace, List.mem_cons, List.not_mem_nil, or_false] at h_r
    rcases h_r with rfl | rfl | rfl
    · exact (Dns.RecordData.ptr.inj h_data).symm
    · exact absurd h_data (by simp)
    · exact absurd h_data (by simp)
  have h_faithful := (entries_are_spellings benchType serverType
    [.hears benchPlace LocalService.benchSource]).2.2 (· = benchName) h_uniform h_heard
  refine ⟨by rw [h_peer]; rfl, ?_⟩
  exact (h_faithful.farewells h_peer rfl rfl rfl (by decide +kernel) rfl (Name.same_self _)
    rfl).mpr h_name

/-- A server that is heard from in two spellings of one name is kept twice, and a farewell in a
third spelling reaches neither entry.  Two names that differ in an octet that is no text are kept
as one. -/
theorem bench_is_kept_twice :
    let capital := nameOfTexts ["Bench", "_soapy", "_tcp", "local"]
    let shouted := nameOfTexts ["BENCH", "_soapy", "_tcp", "local"]
    let t := benchTable [benchPointer benchName 120, benchPointer capital 120]
    let later := (t.takeIn [benchPointer shouted 0] LocalService.benchSource).1
    let octet := fun b : UInt8 => (Name.ofLabels? ([b] :: benchType.labels)).getD .root
    benchName.same capital = true ∧ benchName.same shouted = true ∧
      t.sighting? 0 .v4 benchName = some benchSighting ∧
      t.sighting? 0 .v4 capital = some { benchSighting with name := "Bench" } ∧
      later.peers[benchSighting]?.map (·.name) = some benchName.lower ∧
      later.peers[{ benchSighting with name := "Bench" }]?.map (·.name) = some benchName.lower ∧
      (octet 0xff).same (octet 0xfe) = false ∧
      (t.sighting? 0 .v4 (octet 0xff)).isSome = true ∧
      t.sighting? 0 .v4 (octet 0xff) = t.sighting? 0 .v4 (octet 0xfe) := by
  decide +kernel

end PeerTable
end ServiceDiscovery
