import Mathlib.Data.List.Infix
import ServiceDiscovery.Proofs.Multicast.Order

/-!
# Which addresses are known of a host

A table takes in an address only if some service runs on its host by then.  What it has taken in it
keeps until the address is taken back (`PeerTable.has_after`), and this is all that decides: when
the last service ends that runs on the host, or moves elsewhere, the addresses stay.  Whoever is
said to run on the host later is reached at one of them.

So it may be that addresses are known of a host on which nothing runs.  This comes about in one way
only, when an input strands an address (`PeerTable.Strands`): it ends the last service on the host,
and does not take the address back.  Where no input does so, a service runs on every host of which
an address is known, and each such address was learnt since the host last began to be served
(`PeerTable.addresses_outlive_services`).
-/

namespace ServiceDiscovery
namespace PeerTable

open Dns (Name Record)

variable {t : PeerTable} {host : Name} {x : IpAddress} {r : Record}

/-! ### What is said of an address -/

/-- The record is about an address of a host, given in lower case. -/
def About (host : Name) (x : IpAddress) (r : Record) : Prop :=
  r.owner.lower = host ∧ LocalService.address? r = some x

/-- The last that some records say of the address is that the host has it. -/
def Gives (host : Name) (x : IpAddress) (records : List Record) : Prop :=
  Since (fun _ r => About host x r ∧ r.ttl ≠ 0) (fun _ r => About host x r ∧ r.ttl = 0) records

/-- Some record says that the host has the address no more. -/
def TakesBack (host : Name) (x : IpAddress) (records : List Record) : Prop :=
  ∃ r ∈ records, About host x r ∧ r.ttl = 0

theorem gives_concat {records : List Record} :
    Gives host x (records ++ [r]) ↔
      About host x r ∧ r.ttl ≠ 0 ∨ Gives host x records ∧ ¬ (About host x r ∧ r.ttl = 0) :=
  since_concat

theorem takesBack_concat {records : List Record} :
    TakesBack host x (records ++ [r]) ↔
      TakesBack host x records ∨ About host x r ∧ r.ttl = 0 := by
  simp [TakesBack, or_and_right, exists_or]

/-! ### One response -/

/-- Addresses are not touched in the first pass. -/
theorem addresses_takeFirst (interface : UInt32) (protocol : IpScope) (r : Record) (t : PeerTable) :
    (t.takeFirst interface protocol r).1.addresses = t.addresses := by
  obtain h | ⟨k, a, -, -, -, h⟩ | ⟨priority, weight, port, target, -, h⟩ :=
    takeFirst_cases t interface protocol r
  · rw [h t (.refl t)]
  · rw [h t (.refl t), takePointer_eq]
  · rw [h t (.refl t), takeService_eq]

theorem addresses_foldl_hear (source : SocketAddress) (records : List Record)
    (s : PeerTable × List Event) :
    (records.foldl (hear source) s).1.addresses = s.1.addresses := by
  induction records generalizing s with
  | nil => rfl
  | cons r records ih =>
    rw [List.foldl_cons, ih]
    exact addresses_takeFirst source.interface source.scope r s.1

/-- No service begins, ends or moves in the second pass. -/
theorem runsOn_takeSecond (t : PeerTable) (r : Record) (host : Name) :
    (t.takeSecond r).runsOn host = t.runsOn host := by
  obtain h | ⟨entries, -, h⟩ | ⟨x, -, -, h⟩ := takeSecond_cases t r
  · rw [h t (.refl t)]
  · rw [h t (.refl t), runsOn_takeAttributes]
  · rw [h t (.refl t), runsOn, runsOn, services_takeAddress]

theorem runsOn_foldl_takeSecond (records : List Record) (t : PeerTable) (host : Name) :
    (records.foldl takeSecond t).runsOn host = t.runsOn host := by
  induction records generalizing t with
  | nil => rfl
  | cons r records ih => rw [List.foldl_cons, ih, runsOn_takeSecond]

/-- What is known of a host when an address of some host is told or taken back. -/
theorem has_takeAddress {owner : Name} {y : IpAddress} {ttl : UInt32} :
    (t.takeAddress owner y ttl).Has host x ↔
      t.runsOn host = true ∧ (owner.lower = host ∧ y = x) ∧ ttl ≠ 0 ∨
        t.Has host x ∧ ¬ ((owner.lower = host ∧ y = x) ∧ ttl = 0) := by
  rw [takeAddress_eq]
  simp only [Has, Std.ExtTreeMap.getElem?_alter, Std.LawfulEqOrd.compare_eq_iff_eq]
  by_cases h_owner : owner.lower = host
  · subst h_owner
    rw [if_pos rfl]
    -- what is taken back leaves those that are known, and what is told joins them or is the first
    by_cases h_ttl : ttl = 0
    · cases t.addresses[owner.lower]? with
      | none => simp [readdressed, h_ttl]
      | some known => simp [readdressed, h_ttl, Std.ExtTreeSet.mem_erase, and_comm]
    · cases t.runsOn owner.lower <;> cases t.addresses[owner.lower]? <;>
        simp [readdressed, h_ttl, Std.ExtTreeSet.mem_insert]
  · simp [h_owner]

/-- What is known of a host after a record of the second pass. -/
theorem has_takeSecond :
    (t.takeSecond r).Has host x ↔
      t.runsOn host = true ∧ About host x r ∧ r.ttl ≠ 0 ∨
        t.Has host x ∧ ¬ (About host x r ∧ r.ttl = 0) := by
  -- only the data of the record decides
  obtain ⟨owner, ttl, cacheFlush, data⟩ := r
  unfold About LocalService.address?
  cases data with
  | a y => exact has_takeAddress.trans (by simp)
  | aaaa y => exact has_takeAddress.trans (by simp)
  -- attributes are no address
  | txt entries =>
    have h_addresses : (t.takeSecond ⟨owner, ttl, cacheFlush, .txt entries⟩).addresses =
        t.addresses := by
      unfold takeSecond
      dsimp only
      split
      · rw [takeAttributes_eq_alter]
      · rfl
    simp [Has, h_addresses]
  | _ => simp [takeSecond]

/-- What is known of a host after the second pass. -/
theorem has_foldl_takeSecond {records : List Record} :
    (records.foldl takeSecond t).Has host x ↔
      t.runsOn host = true ∧ Gives host x records ∨ t.Has host x ∧ ¬ TakesBack host x records := by
  induction records using List.reverseRecOn with
  | nil =>
    have h_gives : ¬ Gives host x [] := not_since_nil
    simp [h_gives, TakesBack]
  | append_singleton records r ih =>
    -- the last record decides what is known if it is about the address
    rw [List.foldl_append, List.foldl_cons, List.foldl_nil, has_takeSecond, ih,
      runsOn_foldl_takeSecond, gives_concat, takesBack_concat]
    tauto

/-- **What a response makes of the addresses of a host.** It is the services that are known in the
end which decide whether those that it gives are taken in. -/
theorem has_takeIn {records : List Record} {source : SocketAddress} :
    (t.takeIn records source).1.Has host x ↔
      (t.takeIn records source).1.runsOn host = true ∧ Gives host x records ∨
        t.Has host x ∧ ¬ TakesBack host x records := by
  -- the first pass changes services alone
  have h_first : (records.foldl (hear source) (t, [])).1.Has host x ↔ t.Has host x := by
    rw [Has, addresses_foldl_hear]
    rfl
  rw [takeIn_eq]
  dsimp only
  rw [has_foldl_takeSecond, runsOn_foldl_takeSecond, h_first]

/-! ### Any number of inputs -/

/-- Some service was last said to run on the host. -/
def Serves (t : PeerTable) (host : Name) (inputs : List Input) : Prop :=
  ∃ n port, RunsAt port host (t.words n inputs)

/-- The address is learnt of the host: a response gives it, and the host serves by then. -/
def Learns (t : PeerTable) (host : Name) (x : IpAddress) (before : List Input) (input : Input) :
    Prop :=
  ∃ records source, input = .hears records source ∧ Gives host x records ∧
    t.Serves host (before ++ [input])

/-- A response takes the address back. -/
def Revokes (host : Name) (x : IpAddress) (input : Input) : Prop :=
  ∃ records source, input = .hears records source ∧ TakesBack host x records

/-- The address was learnt of the host, and has not been taken back since. -/
def Known (t : PeerTable) (host : Name) (x : IpAddress) (inputs : List Input) : Prop :=
  Since (t.Learns host x) (fun _ input => Revokes host x input) inputs

@[simp] theorem learns_hears {before : List Input} {records : List Record}
    {source : SocketAddress} :
    t.Learns host x before (.hears records source) ↔
      t.Serves host (before ++ [.hears records source]) ∧ Gives host x records := by
  simp [Learns, and_comm]

@[simp] theorem learns_asks {before : List Input} {tolerated : UInt8} :
    ¬ t.Learns host x before (.asks tolerated) := by
  simp [Learns]

@[simp] theorem revokes_hears {records : List Record} {source : SocketAddress} :
    Revokes host x (.hears records source) ↔ TakesBack host x records := by
  simp [Revokes]

@[simp] theorem revokes_asks {tolerated : UInt8} : ¬ Revokes host x (.asks tolerated) := by
  simp [Revokes]

theorem known_concat {inputs : List Input} {input : Input} :
    t.Known host x (inputs ++ [input]) ↔
      t.Learns host x inputs input ∨ t.Known host x inputs ∧ ¬ Revokes host x input :=
  since_concat

variable {type : Name} {typeText : String} {inputs : List Input}

theorem not_has_empty : ¬ (empty type typeText).Has host x := by
  rintro ⟨known, h_known, -⟩
  exact absurd (h_known.symm.trans Std.ExtTreeMap.getElem?_empty) (by simp)

/-- A service runs on a host exactly if it was last said to. -/
theorem runsOn_after :
    ((empty type typeText).after inputs).1.runsOn host = true ↔
      (empty type typeText).Serves host inputs := by
  -- that some service runs on the host, at whatever port
  rw [runsOn_iff]
  refine exists_congr fun n => ?_
  rw [services_after]
  constructor
  · rintro ⟨service, h_service, h_host⟩
    exact ⟨service.port, (learnt_runsAt _ _ _).mp ⟨service, h_service, rfl, h_host⟩⟩
  · rintro ⟨port, h_runs⟩
    obtain ⟨service, h_service, -, h_host⟩ := (learnt_runsAt _ _ _).mpr h_runs
    exact ⟨service, h_service, h_host⟩

/-- **An address is known from when it is learnt until it is taken back.** -/
theorem has_after :
    ((empty type typeText).after inputs).1.Has host x ↔
      (empty type typeText).Known host x inputs := by
  induction inputs using List.reverseRecOn with
  -- a table that has heard nothing has no addresses
  | nil => exact iff_of_false not_has_empty not_since_nil
  | append_singleton inputs input ih =>
    rw [known_concat, ← ih]
    have h_serves : ((empty type typeText).after (inputs ++ [input])).1.runsOn host = true ↔
        (empty type typeText).Serves host (inputs ++ [input]) := runsOn_after
    rw [after_concat] at h_serves ⊢
    cases input with
    -- a response tells and takes back in its second pass, for the hosts that it knows by then
    | hears records source =>
      rw [learns_hears, revokes_hears, ← h_serves]
      exact has_takeIn
    | asks tolerated =>
      -- a query that goes unanswered touches the peers alone
      have h_addresses : (((empty type typeText).after inputs).1.age tolerated).1.addresses =
          ((empty type typeText).after inputs).1.addresses := by
        unfold age
        split <;> rfl
      simp [step, Has, h_addresses]

/-! ### Addresses of hosts that serve -/

/-- A service runs on every host of which an address is known. -/
def Backed (t : PeerTable) : Prop := ∀ host x, t.Has host x → t.runsOn host = true

/-- Whether this is so can be read off the addresses that are kept. -/
theorem backed_iff :
    t.Backed ↔ ∀ p ∈ t.addresses.toList, ∀ x ∈ p.2.toList, t.runsOn p.1 = true := by
  -- by the entries of the table, one address after another
  constructor
  · rintro h ⟨host, known⟩ h_mem x hx
    exact h host x ⟨known, Std.ExtTreeMap.mem_toList_iff_getElem?_eq_some.mp h_mem,
      Std.ExtTreeSet.mem_toList.mp hx⟩
  · rintro h host x ⟨known, h_known, hx⟩
    exact h (host, known) (Std.ExtTreeMap.mem_toList_iff_getElem?_eq_some.mpr h_known) x
      (Std.ExtTreeSet.mem_toList.mpr hx)

instance : Decidable t.Backed := decidable_of_iff _ backed_iff.symm

/-- An input strands an address of a host: the host serves no more, and still has the address. -/
structure Strands (t : PeerTable) (host : Name) (x : IpAddress) (before : List Input)
    (input : Input) : Prop where
  served : t.Serves host before
  deserted : ¬ t.Serves host (before ++ [input])
  known : t.Known host x before
  kept : ¬ Revokes host x input

/-- No input strands an address. -/
def Tidy (t : PeerTable) (inputs : List Input) : Prop :=
  ∀ before input, before ++ [input] <+: inputs → ∀ host x, ¬ t.Strands host x before input

/-- The address was learnt of the host, and since then it was not taken back, and the host has
served all the time. -/
def Current (t : PeerTable) (host : Name) (x : IpAddress) (inputs : List Input) : Prop :=
  Since (t.Learns host x)
    (fun before input => Revokes host x input ∨ ¬ t.Serves host (before ++ [input])) inputs

/-- An address that is current is known. -/
theorem Current.known (h : t.Current host x inputs) : t.Known host x inputs := by
  obtain ⟨before, input, later, h_inputs, h_learns, h_kept⟩ := h
  exact ⟨before, input, later, h_inputs, h_learns, fun l b r h_later h_revokes =>
    h_kept l b r h_later (.inl h_revokes)⟩

/-- Where a service ran on every host of which an address was known, this stays so exactly if no
address is stranded. -/
theorem backed_concat {before : List Input} {input : Input}
    (h : ((empty type typeText).after before).1.Backed) :
    ((empty type typeText).after (before ++ [input])).1.Backed ↔
      ∀ host x, ¬ (empty type typeText).Strands host x before input := by
  simp only [Backed, has_after, runsOn_after] at h ⊢
  refine forall_congr' fun host => forall_congr' fun x => ⟨fun h_next h_strands => ?_, ?_⟩
  · -- a stranded address is still known, and its host does not serve
    exact h_strands.deserted (h_next (known_concat.mpr (.inr ⟨h_strands.known, h_strands.kept⟩)))
  · intro h_strands h_known
    rcases known_concat.mp h_known with ⟨records, source, -, -, h_serves⟩ | ⟨h_before, h_kept⟩
    · -- it is learnt just now, which takes a host that serves
      exact h_serves
    · by_contra h_deserted
      exact h_strands ⟨h host x h_before, h_deserted, h_before, h_kept⟩

/-- A service runs on every host of which an address is known, all the time, exactly if no input
strands an address. -/
theorem backed_iff_tidy :
    (∀ before, before <+: inputs → ((empty type typeText).after before).1.Backed) ↔
      (empty type typeText).Tidy inputs := by
  constructor
  · intro h before input h_begins
    exact (backed_concat (h before ((List.prefix_append _ _).trans h_begins))).mp
      (h (before ++ [input]) h_begins)
  · intro h before h_begins
    -- the beginnings of a beginning are beginnings, so each is backed up to its last input
    induction before using List.reverseRecOn with
    | nil => exact fun host x h_has => absurd h_has not_has_empty
    | append_singleton before input ih =>
      exact (backed_concat (ih ((List.prefix_append _ _).trans h_begins))).mpr
        (h before input h_begins)

/-- Where no address is stranded, those that are known are current. -/
theorem Tidy.current (h : (empty type typeText).Tidy inputs)
    (h_known : (empty type typeText).Known host x inputs) :
    (empty type typeText).Current host x inputs := by
  induction inputs using List.reverseRecOn with
  | nil => exact absurd h_known not_since_nil
  | append_singleton inputs input ih =>
    -- the host serves in the end, as the address is known in the end
    have h_serves : (empty type typeText).Serves host (inputs ++ [input]) :=
      runsOn_after.mp
        (backed_iff_tidy.mpr h (inputs ++ [input]) List.prefix_rfl host x (has_after.mpr h_known))
    refine since_concat.mpr ?_
    rcases known_concat.mp h_known with h_learns | ⟨h_before, h_kept⟩
    · exact .inl h_learns
    · have h_current := ih (fun before input' h_begins =>
        h before input' (h_begins.trans (List.prefix_append _ _))) h_before
      refine .inr ⟨h_current, ?_⟩
      rintro (h_revokes | h_deserted)
      · exact h_kept h_revokes
      · exact h_deserted h_serves

/-! ### Where an instance is reached -/

theorem Least.unique {q : IpScope} {y : IpAddress} (hx : t.Least host q x)
    (hy : t.Least host q y) : x = y := by
  have h_xy := hx.le y hy.known hy.scope
  have h_yx := hy.le x hx.known hx.scope
  exact Std.LawfulEqOrd.eq_of_compare (Std.OrientedCmp.isLE_antisymm h_xy h_yx)

/-- An instance is reached at the least address of the host on which it was last said to run. -/
theorem reached_after {k : Sighting} {q : IpScope} :
    ((((empty type typeText).after inputs).1.contact? k q).map (·.address) = some x) ↔
      ∃ peer port host, ((empty type typeText).after inputs).1.peers[k]? = some peer ∧
        RunsAt port host ((empty type typeText).words peer.name inputs) ∧
        ((empty type typeText).after inputs).1.Least host q x := by
  constructor
  · intro h
    obtain ⟨c, h_contact, rfl⟩ := Option.map_eq_some_iff.mp h
    obtain ⟨peer, service, h_peer, h_service, -, -, -, h_least⟩ := contact?_eq_some h_contact
    rw [services_after] at h_service
    exact ⟨peer, service.port, service.host, h_peer,
      (learnt_runsAt _ _ _).mp ⟨service, h_service, rfl, rfl⟩, h_least⟩
  · -- some address of the host is known, so there is a least one, and there is one least only
    rintro ⟨peer, port, host, h_peer, h_runs, h_least⟩
    obtain ⟨service, h_service, -, rfl⟩ := (learnt_runsAt _ _ _).mpr h_runs
    rw [← services_after] at h_service
    obtain ⟨y, h_some, h_least'⟩ := contact?_least h_peer h_service h_least.known h_least.scope
    rw [h_some, Option.map_some, h_least'.unique h_least]

/-- **Addresses outlive services.** A table that knew nothing takes in any responses from any
sources, with any queries in between.

* An address is known of a host exactly if some response gave it when the host served, and none has
  taken it back since, whether or not the host has served all the time.
* An instance is reached at the least of the addresses known of the host on which it was last said
  to run, and at none other.
* A service runs on every host of which an address is known, at every point, exactly if no input
  strands an address.
* If none does, an address is known exactly if it was learnt, and since then it was not taken back
  and the host has served all the time; so nothing that was learnt before a host ceased to serve is
  used after. -/
theorem addresses_outlive_services (type : Name) (typeText : String) (inputs : List Input) :
    let s := empty type typeText
    let t := (s.after inputs).1
    (∀ host x, t.Has host x ↔ s.Known host x inputs) ∧
    (∀ k q x, (t.contact? k q).map (·.address) = some x ↔
      ∃ peer port host, t.peers[k]? = some peer ∧ RunsAt port host (s.words peer.name inputs) ∧
        t.Least host q x) ∧
    ((∀ before, before <+: inputs → (s.after before).1.Backed) ↔ s.Tidy inputs) ∧
    (s.Tidy inputs → ∀ host x, t.Has host x ↔ s.Current host x inputs) := by
  intro s t
  refine ⟨fun host x => has_after, fun k q x => reached_after, backed_iff_tidy, ?_⟩
  intro h_tidy host x
  exact ⟨fun h => h_tidy.current (has_after.mp h), fun h => has_after.mpr h.known⟩

/-! ### A server that comes back -/

/-- What is said of the server on the bench: that it is there and where it runs, or that it is
there no more. -/
def benchSays (ttl : UInt32) : List Record := [
  { owner := benchType, ttl, cacheFlush := false, data := .ptr benchName },
  { owner := benchName, ttl, cacheFlush := true,
    data := .srv 0 0 55132 (nameOfTexts ["bench", "local"]) }]

/-- What is said of an address of the bench. -/
def benchHas (address : Ipv4) (ttl : UInt32) : Record :=
  { owner := nameOfTexts ["bench", "local"], ttl, cacheFlush := true, data := .a address }

/-- The server takes its leave, saying some more as it does, and is announced again when its host
has got another address. -/
def benchReturns (more : List Record) : List Input := [
  .hears (benchSays 120 ++ [benchText, benchHas ⟨192, 168, 1, 7⟩ 120]) LocalService.benchSource,
  .hears (benchSays 0 ++ more) LocalService.benchSource,
  .hears (benchSays 120 ++ [benchText, benchHas ⟨192, 168, 1, 8⟩ 120])
    (.v4 ⟨192, 168, 1, 8⟩ 5353)]

/-- A server that takes back its address when it leaves is reached at the other one, which was told
since it is back. -/
theorem bench_is_reached_where_it_is :
    let s := empty benchType serverType
    let inputs := benchReturns [benchHas ⟨192, 168, 1, 7⟩ 0]
    s.Tidy inputs ∧
      ((s.after inputs).1.contact? benchSighting .v4).map (·.address) =
        some (.v4 ⟨192, 168, 1, 8⟩) ∧
      ∃ host, s.Current host (.v4 ⟨192, 168, 1, 8⟩) inputs := by
  intro s inputs
  obtain ⟨-, h_reached, h_backed, h_current⟩ :=
    addresses_outlive_services benchType serverType inputs
  -- there are four beginnings, and each of their tables can be looked at
  have h_beginnings : ∀ before ∈ inputs.inits, (s.after before).1.Backed := by decide +kernel
  have h_tidy : s.Tidy inputs :=
    h_backed.mp fun before h => h_beginnings before ((List.mem_inits before inputs).mpr h)
  have h_address : ((s.after inputs).1.contact? benchSighting .v4).map (·.address) =
      some (.v4 ⟨192, 168, 1, 8⟩) := by decide +kernel
  obtain ⟨peer, port, host, -, -, h_least⟩ := (h_reached _ _ _).mp h_address
  exact ⟨h_tidy, h_address, host, (h_current h_tidy host _).mp h_least.known⟩

/-- One that does not leaves its address behind: it is known when no service is left, and the server
is reached at it when it is back. -/
theorem bench_is_reached_where_it_was :
    let s := empty benchType serverType
    let left := (s.after ((benchReturns []).take 2)).1
    left.peers.isEmpty = true ∧ left.services.isEmpty = true ∧ ¬ left.Backed ∧
      ((s.after (benchReturns [])).1.contact? benchSighting .v4).map (·.address) =
        some (.v4 ⟨192, 168, 1, 7⟩) := by
  decide +kernel

end PeerTable
end ServiceDiscovery
