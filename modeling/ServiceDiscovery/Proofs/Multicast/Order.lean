import Mathlib.Data.Multiset.AddSub
import ServiceDiscovery.Proofs.Multicast.Attributes

/-!
# The order of records in a response

What a table makes of a response does not depend on the order of its records, if no two of them
contradict each other (`PeerTable.Agree`): where an instance runs and its attributes are said once,
pointers that are kept under one sighting point to one instance and either all of them say farewell
or none does, and the same holds of records of one address of a host.

Each record changes a single place in one of the three maps of a table, and says so by events that
depend on this place alone.  So two records that agree can be taken in in either order
(`PeerTable.takeFirst_comm`, `PeerTable.takeSecond_comm`), and any order of a response leads to any
other by exchanging two neighbours (`PeerTable.order_is_irrelevant`).  That addresses are only kept
for hosts on which some service runs does no harm, as no service begins or ends in the second pass.
-/

namespace ServiceDiscovery

open Dns (Name Message Record)

/-! ### Changes at one place of a map -/

section Maps

variable {α β : Type} [DecidableEq α] [Ord α] [Std.TransOrd α] [Std.LawfulEqOrd α]

/-- A map in which one place is changed. -/
theorem eq_alter {m m' : Std.ExtTreeMap α β} {a : α} {f : Option β → Option β}
    (h : ∀ b, m'[b]? = if a = b then f m[a]? else m[b]?) : m' = m.alter a f := by
  apply Std.ExtTreeMap.ext_getElem?
  intro b
  rw [h, Std.ExtTreeMap.getElem?_alter]
  simp only [Std.LawfulEqOrd.compare_eq_iff_eq]

/-- Changes at two places of a map can be made in either order, and so can changes at one place
that do not get in each other's way. -/
theorem alter_comm (m : Std.ExtTreeMap α β) {a b : α} {f g : Option β → Option β}
    (h : a = b → ∀ v, f (g v) = g (f v)) :
    (m.alter a f).alter b g = (m.alter b g).alter a f := by
  apply Std.ExtTreeMap.ext_getElem?
  -- at one key both changes come together, and at any other there is one of them at most
  intro c
  simp only [Std.ExtTreeMap.getElem?_alter, Std.LawfulEqOrd.compare_eq_iff_eq]
  by_cases h_ab : a = b
  · subst h_ab
    by_cases h_ac : a = c <;> simp [h_ac, h rfl]
  · have h_ba : ¬ b = a := Ne.symm h_ab
    simp only [if_neg h_ab, if_neg h_ba]
    by_cases h_ac : a = c
    · subst h_ac
      simp [h_ba]
    · simp [h_ac]

end Maps

/-- A fold leads to the same from any order of a list, if any two of its steps can be exchanged
where they are made. -/
theorem foldl_eq_of_perm {σ ρ : Type} {f : σ → ρ → σ} {P : σ → Prop}
    (h_keeps : ∀ s r, P s → P (f s r)) {l l' : List ρ} (h : l.Perm l')
    (h_comm : ∀ r ∈ l, ∀ r' ∈ l, ∀ s, P s → f (f s r) r' = f (f s r') r) {s : σ} (hs : P s) :
    l.foldl f s = l'.foldl f s := by
  -- on the permutation; `P` goes along with the state, as steps need not commute elsewhere
  induction h generalizing s with
  | nil => rfl
  | cons r h ih =>
    refine ih (fun r₁ h₁ r₂ h₂ => ?_) (h_keeps s r hs)
    exact h_comm r₁ (List.mem_cons_of_mem r h₁) r₂ (List.mem_cons_of_mem r h₂)
  | swap r r' l =>
    have h_swap : f (f s r') r = f (f s r) r' :=
      h_comm r' (by simp) r (by simp) s hs
    rw [List.foldl_cons, List.foldl_cons, List.foldl_cons, List.foldl_cons, h_swap]
  | trans h₁ _ ih₁ ih₂ =>
    refine (ih₁ h_comm hs).trans (ih₂ (fun r hr r' hr' => ?_) hs)
    exact h_comm r (h₁.mem_iff.mpr hr) r' (h₁.mem_iff.mpr hr')

namespace PeerTable

variable {t z : PeerTable} {interface : UInt32} {protocol : IpScope} {source : SocketAddress}
  {r r' : Record}

/-! ### Records that agree -/

/-- Two records of a response from a source do not contradict each other. -/
def Agree (t : PeerTable) (source : SocketAddress) (r r' : Record) : Prop :=
  match r.data, r'.data with
  | .srv .., .srv .. => r.owner.same r'.owner = false
  | .txt _, .txt _ => r.owner.same r'.owner = false
  | .ptr a, .ptr a' =>
    r.owner.same t.type = true → r'.owner.same t.type = true →
      ∀ k, t.sighting? source.interface source.scope a = some k →
        t.sighting? source.interface source.scope a' = some k →
          a.same a' = true ∧ (r.ttl = 0 ↔ r'.ttl = 0)
  | _, _ =>
    r.owner.same r'.owner = true → ∀ x, LocalService.address? r = some x →
      LocalService.address? r' = some x → (r.ttl = 0 ↔ r'.ttl = 0)

theorem Agree.symm (h : t.Agree source r r') : t.Agree source r' r := by
  unfold Agree at h ⊢
  -- only for two pointers do the hypotheses change places
  cases h_data : r.data <;> cases h_data' : r'.data <;>
    simp only [h_data, h_data', Name.same_comm r'.owner] at h ⊢
  case ptr.ptr a a' =>
    intro h_owner' h_owner k h_k' h_k
    obtain ⟨h_same, h_ttl⟩ := h h_owner h_owner' k h_k h_k'
    exact ⟨by rwa [Name.same_comm], h_ttl.symm⟩
  all_goals first
    | exact h
    | exact fun h_owner x h_x' h_x => (h h_owner x h_x h_x').symm

/-- Records of one address of a host both say farewell, or neither does. -/
theorem Agree.farewell (h : t.Agree source r r') (h_owner : r.owner.same r'.owner = true)
    {x : IpAddress} (h_x : LocalService.address? r = some x)
    (h_x' : LocalService.address? r' = some x) : r.ttl = 0 ↔ r'.ttl = 0 := by
  unfold Agree at h
  -- service records, attributes and pointers tell no address
  split at h
  · next h_data _ => simp [LocalService.address?, h_data] at h_x
  · next h_data _ => simp [LocalService.address?, h_data] at h_x
  · next h_data _ => simp [LocalService.address?, h_data] at h_x
  · exact h h_owner x h_x h_x'

/-! ### The first pass -/

/-- What a pointer makes of an entry. -/
def renewed (name : Name) (farewell : Bool) (entry : Option Peer) : Option Peer :=
  if farewell then none else some { name := (entry.map (·.name)).getD name, ignored := 0 }

/-- What a pointer reports, if this is the entry before. -/
def changes (k : Sighting) (farewell : Bool) (entry : Option Peer) : List Event :=
  match farewell, entry with
  | true, some _ => [.vanished k]
  | false, none => [.appeared k]
  | _, _ => []

/-- A pointer changes one entry. -/
theorem takePointer_eq (k : Sighting) (target : Name) (ttl : UInt32) (t : PeerTable) :
    t.takePointer k target ttl =
      ({ t with peers := t.peers.alter k (renewed target.lower (ttl = 0)) },
        changes k (ttl = 0) t.peers[k]?) := by
  have h_mem : k ∈ t.peers ↔ t.peers[k]?.isSome = true := Std.ExtTreeMap.mem_iff_isSome_getElem?
  unfold takePointer
  -- a goodbye or a renewal, of an entry that is there or not
  by_cases h_ttl : ttl = 0
  · rw [if_pos h_ttl]
    cases h_peer : t.peers[k]? with
    | some peer =>
      have h_peers : t.peers.erase k = t.peers.alter k (renewed target.lower (ttl = 0)) :=
        eq_alter fun k' => by simp [Std.ExtTreeMap.getElem?_erase, renewed, h_ttl]
      rw [if_pos (h_mem.mpr (by rw [h_peer]; rfl)), h_peers]
      simp [changes, h_ttl]
    | none =>
      -- nobody takes leave
      have h_peers : t.peers = t.peers.alter k (renewed target.lower (ttl = 0)) := by
        refine eq_alter fun k' => ?_
        split
        · next hk => subst hk; simp [renewed, h_ttl, h_peer]
        · rfl
      rw [if_neg (fun h => by rw [h_mem, h_peer] at h; exact Bool.noConfusion h), ← h_peers]
      simp [changes, h_ttl]
  · rw [if_neg h_ttl]
    cases h_peer : t.peers[k]? with
    -- the entry is heard of again
    | some peer =>
      have h_peers : t.peers.insert k { peer with ignored := 0 } =
          t.peers.alter k (renewed target.lower (ttl = 0)) :=
        eq_alter fun k' => by simp [Std.ExtTreeMap.getElem?_insert, renewed, h_ttl, h_peer]
      dsimp only
      rw [h_peers]
      simp [changes, h_ttl]
    -- the entry is new
    | none =>
      have h_peers : t.peers.insert k { name := target.lower, ignored := 0 } =
          t.peers.alter k (renewed target.lower (ttl = 0)) :=
        eq_alter fun k' => by simp [Std.ExtTreeMap.getElem?_insert, renewed, h_ttl, h_peer]
      dsimp only
      rw [h_peers]
      simp [changes, h_ttl]

/-- Two pointers to one instance, of which both say farewell or none does, do the same. -/
theorem takePointer_congr {k : Sighting} {a a' : Name} {ttl ttl' : UInt32} (h_same : a.same a' = true)
    (h_ttl : ttl = 0 ↔ ttl' = 0) (t : PeerTable) :
    t.takePointer k a ttl = t.takePointer k a' ttl' := by
  rw [takePointer_eq, takePointer_eq, Name.same_iff.mp h_same]
  simp only [h_ttl]

/-- A service record changes what is known of one service. -/
theorem takeService_eq (name : Name) (port : UInt16) (target : Name) (ttl : UInt32) (t : PeerTable) :
    t.takeService name port target ttl =
      { t with
        services := t.services.alter name.lower fun known =>
          (if ttl = 0 then Word.ends else .runs port target.lower).learn known } := by
  have h_services : (t.takeService name port target ttl).services =
      t.services.alter name.lower fun known =>
        (if ttl = 0 then Word.ends else .runs port target.lower).learn known := by
    -- at the name of the service, and nowhere else
    refine eq_alter fun n => ?_
    rw [services_takeService]
    split
    · next h_name => rw [h_name]
    · rfl
  rw [← h_services]
  unfold takeService
  split <;> rfl

/-- What a record can do in the first pass: nothing, or what a pointer to an instance does, or what
a service record of an instance does. -/
theorem takeFirst_cases (t : PeerTable) (interface : UInt32) (protocol : IpScope) (r : Record) :
    (∀ z, t.Alike z → z.takeFirst interface protocol r = (z, [])) ∨
    (∃ k a, r.data = .ptr a ∧ r.owner.same t.type = true ∧
      t.sighting? interface protocol a = some k ∧
      ∀ z, t.Alike z → z.takeFirst interface protocol r = z.takePointer k a r.ttl) ∨
    ∃ priority weight port target, r.data = .srv priority weight port target ∧
      ∀ z, t.Alike z → z.takeFirst interface protocol r =
        (z.takeService r.owner port target r.ttl, []) := by
  -- which of these it is depends on the type of the table alone, and that never changes
  unfold takeFirst
  cases h_data : r.data with
  | ptr a =>
    by_cases h_owner : r.owner.same t.type = true
    · -- a pointer of the type, to one of its instances
      cases h_k : t.sighting? interface protocol a with
      | none =>
        refine .inl fun z hz => ?_
        simp only [hz.type, hz.sighting?, h_owner, h_k, if_true]
      | some k =>
        refine .inr (.inl ⟨k, a, rfl, h_owner, h_k, fun z hz => ?_⟩)
        simp only [hz.type, hz.sighting?, h_owner, h_k, if_true]
    · refine .inl fun z hz => ?_
      simp only [hz.type, if_neg h_owner]
  | srv priority weight port target =>
    -- where a service of the type runs
    by_cases h_of : t.isOfType r.owner = true
    · refine .inr (.inr ⟨priority, weight, port, target, rfl, fun z hz => ?_⟩)
      simp only [hz.isOfType, if_pos h_of]
    · refine .inl fun z hz => ?_
      simp only [hz.isOfType, if_neg h_of]
  -- no other record is looked at in the first pass
  | _ => exact .inl fun z _ => rfl

/-- The first pass over a record, with what has happened before in any order. -/
def hearSome (source : SocketAddress) (s : PeerTable × Multiset Event) (r : Record) :
    PeerTable × Multiset Event :=
  ((s.1.takeFirst source.interface source.scope r).1,
    s.2 + (s.1.takeFirst source.interface source.scope r).2)

/-- What the first pass reports, in any order. -/
theorem foldl_hearSome (records : List Record) (s : PeerTable × List Event) :
    records.foldl (hearSome source) (s.1, (s.2 : Multiset Event)) =
      ((records.foldl (hear source) s).1,
        ((records.foldl (hear source) s).2 : Multiset Event)) := by
  induction records generalizing s with
  | nil => rfl
  | cons r records ih =>
    -- the events are joined at the end in both, and only their order is forgotten
    rw [List.foldl_cons, List.foldl_cons, ← ih (hear source s r)]
    rfl

/-- Two records commute in the first pass if what they do to tables of the type does, and their
reports are the same taken together. -/
theorem hearSome_comm {f f' : PeerTable → PeerTable × List Event}
    (hf : ∀ z, t.Alike z → z.takeFirst source.interface source.scope r = f z)
    (hf' : ∀ z, t.Alike z → z.takeFirst source.interface source.scope r' = f' z)
    (h : ∀ z, t.Alike z → (f' (f z).1).1 = (f (f' z).1).1 ∧
      ((f z).2 ++ (f' (f z).1).2).Perm ((f' z).2 ++ (f (f' z).1).2))
    {s : PeerTable × Multiset Event} (hs : t.Alike s.1) :
    hearSome source (hearSome source s r) r' = hearSome source (hearSome source s r') r := by
  -- the type stays as the records are taken in
  have h_alike := hs.trans (alike_takeFirst s.1 source.interface source.scope r)
  have h_alike' := hs.trans (alike_takeFirst s.1 source.interface source.scope r')
  rw [hf s.1 hs] at h_alike
  rw [hf' s.1 hs] at h_alike'
  obtain ⟨h_table, h_events⟩ := h s.1 hs
  unfold hearSome
  dsimp only
  rw [hf s.1 hs, hf' s.1 hs, hf _ h_alike', hf' _ h_alike, h_table, Multiset.add_assoc,
    Multiset.add_assoc, Multiset.coe_add, Multiset.coe_add, Multiset.coe_eq_coe.mpr h_events]

/-- Pointers to different entries commute. -/
theorem takePointer_comm {k k' : Sighting} (hk : k ≠ k') (a a' : Name) (ttl ttl' : UInt32)
    (t : PeerTable) :
    ((t.takePointer k a ttl).1.takePointer k' a' ttl').1 =
        ((t.takePointer k' a' ttl').1.takePointer k a ttl).1 ∧
      ((t.takePointer k a ttl).1.takePointer k' a' ttl').2 = (t.takePointer k' a' ttl').2 ∧
      ((t.takePointer k' a' ttl').1.takePointer k a ttl).2 = (t.takePointer k a ttl).2 := by
  -- different entries, so neither change sees the other
  simp only [takePointer_eq, Std.ExtTreeMap.getElem?_alter, Std.LawfulEqOrd.compare_eq_iff_eq,
    if_neg hk, if_neg (Ne.symm hk), and_true]
  rw [alter_comm t.peers fun h => absurd h hk]

/-- **Records that agree commute in the first pass.** -/
theorem takeFirst_comm (h : t.Agree source r r') {s : PeerTable × Multiset Event}
    (hs : t.Alike s.1) :
    hearSome source (hearSome source s r) r' = hearSome source (hearSome source s r') r := by
  obtain h_r | ⟨k, a, h_data, h_owner, h_k, h_r⟩ | ⟨_, _, port, target, h_data, h_r⟩ :=
    takeFirst_cases t source.interface source.scope r
  · refine hearSome_comm h_r (fun _ _ => rfl) (fun z _ => ?_) hs
    simp
  · obtain h_r' | ⟨k', a', h_data', h_owner', h_k', h_r'⟩ | ⟨_, _, port, target, h_data', h_r'⟩ :=
      takeFirst_cases t source.interface source.scope r'
    · refine hearSome_comm h_r h_r' (fun z _ => ?_) hs
      simp
    · refine hearSome_comm h_r h_r' (fun z _ => ?_) hs
      by_cases hk : k = k'
      · -- two pointers that are kept under one sighting do the same
        subst hk
        simp only [Agree, h_data, h_data'] at h
        obtain ⟨h_same, h_ttl⟩ := h h_owner h_owner' k h_k h_k'
        simp [takePointer_congr h_same h_ttl]
      · obtain ⟨h_table, h_events, h_events'⟩ := takePointer_comm hk a a' r.ttl r'.ttl z
        rw [h_events, h_events']
        exact ⟨h_table, List.perm_append_comm⟩
    · -- a pointer and a service record change different maps
      refine hearSome_comm h_r h_r' (fun z _ => ?_) hs
      simp [takePointer_eq, takeService_eq]
  · obtain h_r' | ⟨k', a', h_data', h_owner', h_k', h_r'⟩ | ⟨_, _, port', target', h_data', h_r'⟩ :=
      takeFirst_cases t source.interface source.scope r'
    · refine hearSome_comm h_r h_r' (fun z _ => ?_) hs
      simp
    · refine hearSome_comm h_r h_r' (fun z _ => ?_) hs
      simp [takePointer_eq, takeService_eq]
    · -- two service records are about different services
      simp only [Agree, h_data, h_data'] at h
      have h_lower : r.owner.lower ≠ r'.owner.lower := by
        intro h_eq
        rw [Name.same_iff.mpr h_eq] at h
        exact Bool.noConfusion h
      refine hearSome_comm h_r h_r' (fun z _ => ?_) hs
      simp only [takeService_eq]
      exact ⟨by rw [alter_comm z.services fun h_eq => absurd h_eq h_lower], .refl _⟩

/-! ### The second pass -/

/-- What a record makes of the addresses of a host. -/
def readdressed (x : IpAddress) (farewell runs : Bool) (known : Option (Std.ExtTreeSet IpAddress)) :
    Option (Std.ExtTreeSet IpAddress) :=
  if farewell then known.map (·.erase x)
  else if runs then some ((known.getD ∅).insert x)
  else known

/-- An address changes what is known of one host. -/
theorem takeAddress_eq (name : Name) (x : IpAddress) (ttl : UInt32) (t : PeerTable) :
    t.takeAddress name x ttl =
      { t with
        addresses := t.addresses.alter name.lower
          (readdressed x (ttl = 0) (t.runsOn name.lower)) } := by
  have h_addresses : (t.takeAddress name x ttl).addresses =
      t.addresses.alter name.lower (readdressed x (ttl = 0) (t.runsOn name.lower)) := by
    -- at the name of the host, and nowhere else
    refine eq_alter fun host => ?_
    unfold takeAddress readdressed
    dsimp only
    by_cases h_ttl : ttl = 0
    · rw [if_pos h_ttl, decide_eq_true h_ttl, if_pos rfl]
      -- a goodbye takes the address back, where any of the host are known
      cases h_known : t.addresses[name.lower]? with
      | none =>
        dsimp only
        split
        · next h_name => rw [← h_name, h_known]; rfl
        · rfl
      | some known => simp [Std.ExtTreeMap.getElem?_insert]
    · rw [if_neg h_ttl, decide_eq_false h_ttl, if_neg Bool.false_ne_true]
      split
      · -- the address is added to those that are known
        simp [Std.ExtTreeMap.getElem?_insert, Std.ExtTreeMap.getD_eq_getD_getElem?]
      · split
        · -- the host is not served here, and nothing is kept for it
          next h_name => rw [h_name]
        · rfl
  rw [← h_addresses]
  unfold takeAddress
  dsimp only
  split <;> split <;> rfl

/-- Addresses that are told of one host can be told in either order, unless one tells and the other
takes back the same. -/
theorem readdressed_comm {x x' : IpAddress} {farewell farewell' : Bool}
    (h : x = x' → farewell = farewell') (runs : Bool) (known : Option (Std.ExtTreeSet IpAddress)) :
    readdressed x farewell runs (readdressed x' farewell' runs known) =
      readdressed x' farewell' runs (readdressed x farewell runs known) := by
  by_cases h_x : x = x'
  · -- the same address twice, and both times it comes or goes
    subst h_x
    rw [h rfl]
  · have h_x' : ¬ x' = x := Ne.symm h_x
    -- each set has the same addresses in it
    have h_insert : ∀ s : Std.ExtTreeSet IpAddress,
        (s.insert x').insert x = (s.insert x).insert x' := fun s =>
      Std.ExtTreeSet.ext_mem fun y => by simp only [Std.ExtTreeSet.mem_insert]; tauto
    have h_erase : ∀ s : Std.ExtTreeSet IpAddress, (s.erase x').erase x = (s.erase x).erase x' :=
      fun s => Std.ExtTreeSet.ext_mem fun y => by simp only [Std.ExtTreeSet.mem_erase]; tauto
    have h_both : ∀ {x x' : IpAddress}, ¬ x = x' → ∀ s : Std.ExtTreeSet IpAddress,
        (s.insert x).erase x' = (s.erase x').insert x := by
      intro x x' h_ne s
      apply Std.ExtTreeSet.ext_mem
      intro y
      simp only [Std.ExtTreeSet.mem_erase, Std.ExtTreeSet.mem_insert,
        Std.LawfulEqOrd.compare_eq_iff_eq, ne_eq]
      constructor
      · tauto
      · rintro (rfl | h)
        · exact ⟨Ne.symm h_ne, .inl rfl⟩
        · tauto
    cases farewell <;> cases farewell' <;> cases runs <;> cases known <;>
      simp [readdressed, h_insert, h_erase, h_both h_x, h_both h_x']

/-- Attributes change what is known of one service. -/
theorem takeAttributes_eq_alter (name : Name) (txt : Attributes) (t : PeerTable) :
    t.takeAttributes name txt =
      { t with services := t.services.alter name.lower fun known => (Word.tells txt).learn known } := by
  have h_services : (t.takeAttributes name txt).services =
      t.services.alter name.lower fun known => (Word.tells txt).learn known := by
    -- at the name of the service, and nowhere else
    refine eq_alter fun n => ?_
    rw [services_takeAttributes]
    split
    · next h_name => rw [h_name]
    · rfl
  rw [← h_services]
  unfold takeAttributes
  split <;> rfl

/-- Where services run is not a matter of attributes. -/
theorem runsOn_iff {host : Name} : t.runsOn host = true ↔
    ∃ (n : Name) (service : PeerService), t.services[n]? = some service ∧ service.host = host := by
  simp only [runsOn, List.any_eq_true, Prod.exists, Std.ExtTreeMap.mem_toList_iff_getElem?_eq_some,
    beq_iff_eq]

theorem runsOn_takeAttributes (name : Name) (txt : Attributes) (host : Name) :
    (t.takeAttributes name txt).runsOn host = t.runsOn host := by
  rw [Bool.eq_iff_iff, runsOn_iff, runsOn_iff]
  refine exists_congr fun n => ?_
  rw [services_takeAttributes]
  split
  · cases t.services[n]? <;> simp [Word.learn]
  · rfl

/-- What a record can do in the second pass: nothing, or what attributes of an instance do, or what
an address does. -/
theorem takeSecond_cases (t : PeerTable) (r : Record) :
    (∀ z, t.Alike z → z.takeSecond r = z) ∨
    (∃ entries, r.data = .txt entries ∧
      ∀ z, t.Alike z → z.takeSecond r = z.takeAttributes r.owner (.ofEntries entries)) ∨
    ∃ x, LocalService.address? r = some x ∧ (∀ entries, r.data ≠ .txt entries) ∧
      ∀ z, t.Alike z → z.takeSecond r = z.takeAddress r.owner x r.ttl := by
  unfold takeSecond LocalService.address?
  cases h_data : r.data with
  | txt entries =>
    -- attributes of an instance of the type
    by_cases h_of : t.isOfType r.owner = true
    · refine .inr (.inl ⟨entries, rfl, fun z hz => ?_⟩)
      simp only [hz.isOfType, if_pos h_of]
    · refine .inl fun z hz => ?_
      simp only [hz.isOfType, if_neg h_of]
  | a x => exact .inr (.inr ⟨.v4 x, rfl, by simp, fun z _ => rfl⟩)
  | aaaa x => exact .inr (.inr ⟨.v6 x, rfl, by simp, fun z _ => rfl⟩)
  | _ => exact .inl fun z _ => rfl

/-- **Records that agree commute in the second pass.** -/
theorem takeSecond_comm (h : t.Agree source r r') (hz : t.Alike z) :
    (z.takeSecond r).takeSecond r' = (z.takeSecond r').takeSecond r := by
  have h_second := hz.trans (alike_takeSecond z r)
  have h_second' := hz.trans (alike_takeSecond z r')
  obtain h_r | ⟨entries, h_data, h_r⟩ | ⟨x, h_x, h_data, h_r⟩ := takeSecond_cases t r
  · rw [h_r z hz, h_r _ h_second']
  · obtain h_r' | ⟨entries', h_data', h_r'⟩ | ⟨x', h_x', h_data', h_r'⟩ := takeSecond_cases t r'
    · rw [h_r' z hz, h_r' _ h_second]
    · -- attributes of different services
      rw [h_r _ h_second', h_r' _ h_second, h_r z hz, h_r' z hz]
      simp only [Agree, h_data, h_data'] at h
      have h_lower : r.owner.lower ≠ r'.owner.lower := by
        intro h_eq
        rw [Name.same_iff.mpr h_eq] at h
        exact Bool.noConfusion h
      simp only [takeAttributes_eq_alter]
      rw [alter_comm z.services fun h_eq => absurd h_eq h_lower]
    · -- attributes do not change which addresses are kept
      rw [h_r _ h_second', h_r' _ h_second, h_r z hz, h_r' z hz]
      simp only [takeAddress_eq, runsOn_takeAttributes]
      simp only [takeAttributes_eq_alter]
  · obtain h_r' | ⟨entries', h_data', h_r'⟩ | ⟨x', h_x', h_data', h_r'⟩ := takeSecond_cases t r'
    · rw [h_r' z hz, h_r' _ h_second]
    · rw [h_r _ h_second', h_r' _ h_second, h_r z hz, h_r' z hz]
      simp only [takeAddress_eq, runsOn_takeAttributes]
      simp only [takeAttributes_eq_alter]
    · -- two addresses, which may be of one host
      rw [h_r _ h_second', h_r' _ h_second, h_r z hz, h_r' z hz]
      have h_runs : ∀ addresses host, ({ z with addresses } : PeerTable).runsOn host =
          z.runsOn host := fun _ _ => rfl
      simp only [takeAddress_eq, h_runs]
      rw [alter_comm z.addresses fun h_host known => ?_]
      rw [h_host]
      refine readdressed_comm (fun h_eq => ?_) _ known
      subst h_eq
      exact decide_eq_decide.mpr (h.farewell (Name.same_iff.mpr h_host) h_x h_x')

/-! ### Any order of a response -/

/-- **The order of records is irrelevant.** Two messages with the same records in any order, no two
of which contradict each other, lead from one table to the same instances, services and addresses,
so that the same instances are reached in the same way, and report the same in some order. -/
theorem order_is_irrelevant (t : PeerTable) (source : SocketAddress) {m m' : Message}
    (h : m.records.Perm m'.records) (h_agree : m.records.Pairwise (t.Agree source)) :
    let u := t.takeIn m.records source
    let u' := t.takeIn m'.records source
    u.1.peers = u'.1.peers ∧ u.1.services = u'.1.services ∧ u.1.addresses = u'.1.addresses ∧
      (∀ k q, u.1.contact? k q = u'.1.contact? k q) ∧ u.2.Perm u'.2 := by
  have h_symm : Std.Symm (t.Agree source) := ⟨fun _ _ => Agree.symm⟩
  -- each pass is a fold in which any two records commute, also a record with itself if it comes
  -- twice
  have h_first : m.records.foldl (hearSome source) (t, ([] : List Event)) =
      m'.records.foldl (hearSome source) (t, ([] : List Event)) := by
    refine foldl_eq_of_perm (P := fun s => t.Alike s.1)
      (fun s r hs => hs.trans (alike_takeFirst s.1 _ _ r)) h (fun r hr r' hr' s hs => ?_) (.refl t)
    by_cases h_eq : r = r'
    · rw [h_eq]
    · exact takeFirst_comm (h_agree.forall hr hr' h_eq) hs
  have h_second : ∀ z, t.Alike z →
      m.records.foldl takeSecond z = m'.records.foldl takeSecond z := by
    refine fun z hz => foldl_eq_of_perm (P := t.Alike)
      (fun z r hz => hz.trans (alike_takeSecond z r)) h (fun r hr r' hr' z hz => ?_) hz
    by_cases h_eq : r = r'
    · rw [h_eq]
    · exact takeSecond_comm (h_agree.forall hr hr' h_eq) hz
  rw [foldl_hearSome m.records (t, []), foldl_hearSome m'.records (t, []), Prod.mk.injEq,
    Multiset.coe_eq_coe] at h_first
  -- the second pass goes on from the same table in both
  have h_table : (t.takeIn m.records source).1 = (t.takeIn m'.records source).1 := by
    rw [takeIn_eq, takeIn_eq]
    dsimp only
    rw [h_second _ (alike_hears m.records source (t, [])), h_first.1]
  intro u u'
  rw [show u.1 = u'.1 from h_table]
  exact ⟨rfl, rfl, rfl, fun _ _ => rfl, h_first.2⟩

/-- A server that has moved to another address says so in a packet with this order of records or
the opposite one, and is reached in the same way. -/
theorem bench_is_reached_in_any_order :
    let moved : Record :=
      { owner := nameOfTexts ["bench", "local"], ttl := 0, cacheFlush := true
        data := .a ⟨192, 168, 1, 8⟩ }
    let m : Message := .response benchPlace [benchText, moved]
    let m' : Message := .response [moved] (benchText :: benchPlace.reverse)
    let t := empty benchType serverType
    m.records.Perm m'.records ∧ m.records.Pairwise (t.Agree LocalService.benchSource) ∧
      ((t.takeIn m'.records LocalService.benchSource).1.contact? benchSighting .v4).isSome = true ∧
      (t.takeIn m.records LocalService.benchSource).1.contact? benchSighting .v4 =
        (t.takeIn m'.records LocalService.benchSource).1.contact? benchSighting .v4 := by
  intro moved m m' t
  have h_perm : m.records.Perm m'.records := (List.reverse_perm m.records).symm
  have h_agree : m.records.Pairwise (t.Agree LocalService.benchSource) := by
    simp [m, Message.records, Message.response, benchPlace, benchText, moved, Agree,
      LocalService.address?]
  refine ⟨h_perm, h_agree, by decide +kernel, ?_⟩
  exact (order_is_irrelevant t LocalService.benchSource h_perm h_agree).2.2.2.1 benchSighting .v4

end PeerTable
end ServiceDiscovery
