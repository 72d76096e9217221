import ServiceDiscovery.Proofs.Multicast.Spellings

/-!
# Where entries come from

An entry is created by the pointer that is the first to be kept under its sighting, and has the name
of this pointer for as long as it is there.  Later pointers only renew it, also those to other names
that read the same.  So what is asked about an instance is asked about the name in the pointer that
created its entry (`PeerTable.CreatedBy.name?`).

Every entry of a table that began empty has such a pointer (`PeerTable.Traced`), and if pointers
were read from packets, the name is one that can be asked about.
-/

namespace ServiceDiscovery
namespace PeerTable

open Dns (Name Message Record)

variable {t : PeerTable} {a b : Name} {k : Sighting}

/-- The entry that a table has under a sighting was created by a pointer to a name. -/
inductive CreatedBy (a : Name) (k : Sighting) : PeerTable → Prop
  /-- A pointer creates an entry where there is none. -/
  | pointer {t : PeerTable} {interface : UInt32} {protocol : IpScope} {r : Record} :
      r.data = .ptr a → r.owner.same t.type = true → r.ttl ≠ 0 →
      t.sighting? interface protocol a = some k → k ∉ t.peers →
      CreatedBy a k (t.takeFirst interface protocol r).1
  /-- Then other records come up in the first pass over a response. -/
  | first {t : PeerTable} {interface : UInt32} {protocol : IpScope} {r : Record} :
      CreatedBy a k t → k ∈ (t.takeFirst interface protocol r).1.peers →
      CreatedBy a k (t.takeFirst interface protocol r).1
  /-- Or in the second. -/
  | second {t : PeerTable} {r : Record} : CreatedBy a k t → CreatedBy a k (t.takeSecond r)
  /-- And queries go out. -/
  | age {t : PeerTable} {tolerated : UInt8} :
      CreatedBy a k t → k ∈ (t.age tolerated).1.peers → CreatedBy a k (t.age tolerated).1

/-- What is there has an entry. -/
theorem exists_peer (h : k ∈ t.peers) : ∃ peer, t.peers[k]? = some peer :=
  Option.isSome_iff_exists.mp (Std.ExtTreeMap.mem_iff_isSome_getElem?.mp h)

theorem mem_of_peer {peer : Peer} (h : t.peers[k]? = some peer) : k ∈ t.peers := by
  rw [Std.ExtTreeMap.mem_iff_isSome_getElem?, h]
  rfl

/-- The name of an entry is that of what is there. -/
theorem name?_eq_some (h : k ∈ t.peers)
    (h_name : ∀ peer, t.peers[k]? = some peer → peer.name = a) : t.name? k = some a := by
  obtain ⟨peer, h_peer⟩ := exists_peer h
  rw [name?, h_peer, Option.map_some, h_name peer h_peer]

/-- A pointer to an instance that is not known yet creates an entry with its name. -/
theorem peer_takeFirst {interface : UInt32} {protocol : IpScope} {r : Record}
    (h_data : r.data = .ptr a) (h_owner : r.owner.same t.type = true) (h_ttl : r.ttl ≠ 0)
    (h_sighting : t.sighting? interface protocol a = some k) (h_new : k ∉ t.peers) :
    (t.takeFirst interface protocol r).1.peers[k]? = some { name := a.lower, ignored := 0 } := by
  have h_none : t.peers[k]? = none := Std.ExtTreeMap.getElem?_eq_none h_new
  unfold takeFirst
  simp [h_data, h_owner, h_sighting, takePointer, h_ttl, h_none]

namespace CreatedBy

/-- An entry has the name of the pointer that created it. -/
theorem name? (h : CreatedBy a k t) : t.name? k = some a.lower := by
  induction h with
  | pointer h_data h_owner h_ttl h_sighting h_new =>
    rw [PeerTable.name?, peer_takeFirst h_data h_owner h_ttl h_sighting h_new, Option.map_some]
  | @first t _ _ _ _ h_mem ih =>
    obtain ⟨peer, h_peer, h_name⟩ := Option.map_eq_some_iff.mp ih
    refine name?_eq_some h_mem fun peer' h_peer' => ?_
    -- it has an entry before, so no pointer creates one
    obtain ⟨old, h_old, h_same⟩ | ⟨h_none, -⟩ := name_takeFirst h_peer'
    · rw [h_same, ← h_name, Option.some.inj (h_old.symm.trans h_peer)]
    · exact absurd (h_none.symm.trans h_peer) (by simp)
  | second _ ih => rwa [PeerTable.name?, peers_takeSecond]
  | age _ h_mem ih =>
    obtain ⟨peer, h_peer, h_name⟩ := Option.map_eq_some_iff.mp ih
    refine name?_eq_some h_mem fun peer' h_peer' => ?_
    obtain ⟨old, h_old, h_same⟩ := name_age h_peer'
    rw [h_same, ← h_name, Option.some.inj (h_old.symm.trans h_peer)]

/-- So all pointers that could have created it lead to the same name. -/
theorem same (h : CreatedBy a k t) (h' : CreatedBy b k t) : a.same b = true :=
  Name.same_iff.mpr (Option.some.inj (h.name?.symm.trans h'.name?))

end CreatedBy

/-! ### Tables that began empty -/

/-- Every entry was created by a pointer to a name that is short enough to be asked about. -/
def Traced (t : PeerTable) : Prop :=
  ∀ k ∈ t.peers, ∃ a, a.length < 255 ∧ CreatedBy a k t

namespace Traced

theorem empty (type : Name) (typeText : String) : (PeerTable.empty type typeText).Traced :=
  fun _ h_mem => absurd h_mem Std.ExtTreeMap.not_mem_empty

/-- The first pass over a record creates an entry for its pointer at most. -/
theorem takeFirst (h : t.Traced) (interface : UInt32) (protocol : IpScope) {r : Record}
    (h_short : r.data.PointsShort) : (t.takeFirst interface protocol r).1.Traced := by
  intro k h_mem
  obtain ⟨peer', h_peer'⟩ := exists_peer h_mem
  -- the instance was known before, or this record has made it known
  obtain ⟨peer, h_peer, -⟩ | ⟨h_none, h_ttl, a, h_data, h_owner, h_sighting, -⟩ :=
    name_takeFirst h_peer'
  · obtain ⟨a, h_length, h_created⟩ := h k (mem_of_peer h_peer)
    exact ⟨a, h_length, .first h_created h_mem⟩
  · refine ⟨a, h_short a h_data, .pointer h_data h_owner h_ttl h_sighting fun h_old => ?_⟩
    obtain ⟨peer, h_peer⟩ := exists_peer h_old
    exact absurd (h_none.symm.trans h_peer) (by simp)

theorem takeSecond (h : t.Traced) (r : Record) : (t.takeSecond r).Traced := by
  intro k h_mem
  rw [peers_takeSecond] at h_mem
  obtain ⟨a, h_length, h_created⟩ := h k h_mem
  exact ⟨a, h_length, .second h_created⟩

theorem takeIn (h : t.Traced) {records : List Record} (source : SocketAddress)
    (h_short : ∀ r ∈ records, r.data.PointsShort) : (t.takeIn records source).1.Traced := by
  rw [takeIn_eq]
  have h_first : (records.foldl (hear source) (t, [])).1.Traced :=
    List.foldlRecOn (motive := fun s => s.1.Traced) records (hear source) h
      fun s hs r hr => hs.takeFirst source.interface source.scope (h_short r hr)
  exact List.foldlRecOn records PeerTable.takeSecond h_first fun t ht r _ => ht.takeSecond r

theorem age (h : t.Traced) (tolerated : UInt8) : (t.age tolerated).1.Traced := by
  intro k h_mem
  obtain ⟨peer', h_peer'⟩ := exists_peer h_mem
  obtain ⟨peer, h_peer, -⟩ := name_age h_peer'
  obtain ⟨a, h_length, h_created⟩ := h k (mem_of_peer h_peer)
  exact ⟨a, h_length, .age h_created h_mem⟩

end Traced

end PeerTable
end ServiceDiscovery
