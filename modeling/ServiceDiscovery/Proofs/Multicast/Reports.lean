import Mathlib.Data.List.Chain
import Mathlib.Data.List.Induction
import ServiceDiscovery.Multicast.PeerTable

/-!
# What a table reports

Whoever browses sees the instances of a type only through the events of a `PeerTable`, so these have
to tell every change of who is there, and nothing else.  Of one instance they say, again and again,
that it is there or that it is gone (`PeerTable.reports`).  Such reports lead from what is so before
to what is so after if each of them contradicts what was so until then (`PeerTable.Alternate`).

`PeerTable.Reports t t' events` says this of every instance at once.  It is closed under doing one
thing after the other (`PeerTable.Reports.trans`), so it is enough to look at a pointer, which is
all that a response can change about who is there, and at a query that goes unanswered.  So the
events of any number of responses and queries rebuild the table of instances
(`PeerTable.events_rebuild_peers`).
-/

namespace ServiceDiscovery
namespace PeerTable

open Dns (Name Record)

/-! ### Reports of an instance -/

/-- What an event says of an instance: that it is there, that it is gone, or nothing. -/
def report? (k : Sighting) : Event → Option Bool
  | .appeared k' => if k' = k then some true else none
  | .vanished k' => if k' = k then some false else none
  | _ => none

/-- What is neither that it is there nor that it is gone says nothing of it. -/
theorem report?_eq_none_iff {k : Sighting} {event : Event} :
    report? k event = none ↔ event ≠ .appeared k ∧ event ≠ .vanished k := by
  cases event <;> simp [report?]

/-- What some events say of an instance, in order. -/
def reports (k : Sighting) (events : List Event) : List Bool := events.filterMap (report? k)

theorem reports_append (k : Sighting) (a b : List Event) :
    reports k (a ++ b) = reports k a ++ reports k b :=
  List.filterMap_append

@[simp] theorem reports_appeared (k k' : Sighting) :
    reports k [.appeared k'] = if k' = k then [true] else [] := by
  by_cases h : k' = k <;> simp [reports, report?, h]

@[simp] theorem reports_vanished (k k' : Sighting) :
    reports k [.vanished k'] = if k' = k then [false] else [] := by
  by_cases h : k' = k <;> simp [reports, report?, h]

theorem reports_eq_nil_iff {k : Sighting} {events : List Event} :
    reports k events = [] ↔ ∀ event ∈ events, report? k event = none :=
  List.filterMap_eq_nil_iff

/-- What says nothing of an instance may be left out. -/
theorem reports_filter {k : Sighting} {p : Event → Bool} {events : List Event}
    (h : ∀ event ∈ events, p event = false → report? k event = none) :
    reports k (events.filter p) = reports k events := by
  unfold reports
  rw [List.filterMap_filter]
  refine List.filterMap_congr fun event h_mem => ?_
  -- a report stays, and what is dropped was none
  cases hp : p event with
  | true => rfl
  | false => exact (h event h_mem hp).symm

/-- What is said of an instance is said by an event about it. -/
theorem mem_reports_false {k : Sighting} {events : List Event} (h : false ∈ reports k events) :
    .vanished k ∈ events := by
  obtain ⟨event, h_mem, h_report⟩ := List.mem_filterMap.mp h
  unfold report? at h_report
  split at h_report <;> (try split at h_report) <;> simp_all

/-- Reports lead from what is so before to what is so after, and each of them tells a change. -/
def Alternate : (before : Bool) → List Bool → (after : Bool) → Prop
  | before, [], after => before = after
  | before, b :: reports, after => b ≠ before ∧ Alternate b reports after

theorem Alternate.append {a b c : Bool} {l r : List Bool} (h : Alternate a l b)
    (h' : Alternate b r c) : Alternate a (l ++ r) c := by
  induction l generalizing a with
  | nil => obtain rfl : a = b := h; exact h'
  | cons x l ih => exact ⟨h.1, ih h.2⟩

theorem Alternate.isChain {a b : Bool} {l : List Bool} (h : Alternate a l b) :
    List.IsChain (· ≠ ·) (a :: l) := by
  induction l generalizing a with
  | nil => exact List.isChain_singleton a
  | cons x l ih => exact List.isChain_cons_cons.mpr ⟨h.1.symm, ih h.2⟩

/-- The last report is true. -/
theorem Alternate.getLastD {a b : Bool} {l : List Bool} (h : Alternate a l b) :
    l.getLastD a = b := by
  induction l generalizing a with
  | nil => exact h
  | cons x l ih => rw [List.getLastD_cons]; exact ih h.2

/-! ### Reports of a table -/

/-- From one table to another, some events tell every change of who is there, and nothing else. -/
structure Reports (t t' : PeerTable) (events : List Event) : Prop where
  /-- They say of somebody that it is there or that it is gone. -/
  about : ∀ event ∈ events, ∃ k, event = .appeared k ∨ event = .vanished k
  alternate : ∀ k, Alternate (decide (k ∈ t.peers)) (reports k events) (decide (k ∈ t'.peers))

namespace Reports

variable {t t' t'' : PeerTable} {events events' : List Event}

/-- Where the peers stay, there is nothing to report. -/
theorem of_peers (h : ∀ k, k ∈ t'.peers ↔ k ∈ t.peers) : Reports t t' [] where
  about event h_event := absurd h_event List.not_mem_nil
  alternate k := by
    change decide (k ∈ t.peers) = decide (k ∈ t'.peers)
    simp [h k]

/-- One thing is reported after the other. -/
theorem trans (h : Reports t t' events) (h' : Reports t' t'' events') :
    Reports t t'' (events ++ events') where
  about event h_event := (List.mem_append.mp h_event).elim (h.about event) (h'.about event)
  alternate k := by
    rw [reports_append]
    exact (h.alternate k).append (h'.alternate k)

/-- Nothing that is reported ends a resolution. -/
theorem resolution? (h : Reports t t' events) {event : Event} (h_event : event ∈ events) :
    event.resolution? = none := by
  obtain ⟨k, rfl | rfl⟩ := h.about event h_event <;> rfl

/-- Whoever is not there any more is reported gone. -/
theorem stays_or_vanished (h : Reports t t' events) {k : Sighting} (hk : k ∈ t.peers) :
    k ∈ t'.peers ∨ .vanished k ∈ events := by
  by_cases hk' : k ∈ t'.peers
  · exact .inl hk'
  · -- the last report says that it is gone, and it is not the state before
    have h_last := (h.alternate k).getLastD
    rw [decide_eq_true hk, decide_eq_false hk'] at h_last
    refine .inr (mem_reports_false ?_)
    cases h_reports : reports k events with
    | nil => rw [h_reports] at h_last; exact absurd h_last (by simp)
    | cons b l =>
      rw [h_reports, List.getLastD_cons, List.getLastD_eq_getLast?] at h_last
      rw [← h_last]
      cases h_tail : l.getLast? with
      | none => exact List.mem_cons_self ..
      | some b' => exact List.mem_cons_of_mem _ (List.mem_of_getLast? h_tail)

end Reports

/-! ### Responses -/

/-- A pointer is reported if it changes who is there. -/
theorem reports_takePointer (k : Sighting) (target : Name) (ttl : UInt32) (t : PeerTable) :
    Reports t (t.takePointer k target ttl).1 (t.takePointer k target ttl).2 := by
  unfold takePointer
  split
  · split
    · next h_mem =>
      -- a farewell of an instance that is there
      refine ⟨by simp, fun k' => ?_⟩
      rw [reports_vanished]
      split
      · next hk => subst hk; simp [Alternate, h_mem]
      · next hk => simp [Alternate, Std.ExtTreeMap.mem_erase, hk]
    · exact .of_peers fun _ => Iff.rfl
  · cases h_peer : t.peers[k]? with
    | some peer =>
      -- one that is there is only refreshed
      have h_mem : k ∈ t.peers := by
        rw [Std.ExtTreeMap.mem_iff_isSome_getElem?, h_peer]
        rfl
      refine .of_peers fun k' => ?_
      rw [Std.ExtTreeMap.mem_insert, Std.LawfulEqOrd.compare_eq_iff_eq]
      exact or_iff_right_of_imp fun hk => hk ▸ h_mem
    | none =>
      -- a new one
      have h_mem : k ∉ t.peers := by
        rw [Std.ExtTreeMap.mem_iff_isSome_getElem?, h_peer]
        exact Bool.false_ne_true
      refine ⟨by simp, fun k' => ?_⟩
      rw [reports_appeared]
      split
      · next hk => subst hk; simp [Alternate, h_mem]
      · next hk => simp [Alternate, Std.ExtTreeMap.mem_insert, hk]

/-- Of the records of a response only pointers change who is there. -/
theorem reports_takeFirst (interface : UInt32) (protocol : IpScope) (r : Record) (t : PeerTable) :
    Reports t (t.takeFirst interface protocol r).1 (t.takeFirst interface protocol r).2 := by
  have h_same : Reports t t [] := .of_peers fun _ => Iff.rfl
  unfold takeFirst
  split
  · split
    · split
      · exact reports_takePointer _ _ _ t
      · exact h_same
    · exact h_same
  · split
    · -- a service record changes the services alone
      refine .of_peers fun k => ?_
      unfold takeService
      split <;> exact Iff.rfl
    · exact h_same
  · exact h_same

@[simp] theorem peers_takeAttributes (name : Name) (txt : Attributes) (t : PeerTable) :
    (t.takeAttributes name txt).peers = t.peers := by
  unfold takeAttributes
  split <;> rfl

@[simp] theorem peers_takeAddress (name : Name) (address : IpAddress) (ttl : UInt32)
    (t : PeerTable) : (t.takeAddress name address ttl).peers = t.peers := by
  unfold takeAddress
  dsimp only
  split
  · split <;> rfl
  · split <;> rfl

@[simp] theorem peers_takeSecond (t : PeerTable) (r : Record) :
    (t.takeSecond r).peers = t.peers := by
  unfold takeSecond
  split
  · split <;> simp
  · simp
  · simp
  · rfl

/-- The first pass over a record, with what has happened before. -/
def hear (source : SocketAddress) (s : PeerTable × List Event) (r : Record) :
    PeerTable × List Event :=
  ((s.1.takeFirst source.interface source.scope r).1,
    s.2 ++ (s.1.takeFirst source.interface source.scope r).2)

theorem takeIn_eq (records : List Record) (source : SocketAddress) (t : PeerTable) :
    t.takeIn records source =
      (records.foldl takeSecond (records.foldl (hear source) (t, [])).1,
        (records.foldl (hear source) (t, [])).2) :=
  rfl

/-- A response is reported as far as it changes who is there. -/
theorem reports_takeIn (records : List Record) (source : SocketAddress) (t : PeerTable) :
    Reports t (t.takeIn records source).1 (t.takeIn records source).2 := by
  have h_first : ∀ (records : List Record) (s : PeerTable × List Event), Reports t s.1 s.2 →
      Reports t (records.foldl (hear source) s).1 (records.foldl (hear source) s).2 := by
    intro records
    induction records with
    | nil => exact fun _ h => h
    | cons r records ih => exact fun s h => ih _ (h.trans (reports_takeFirst _ _ r s.1))
  -- the second pass does not touch the peers
  have h_second : ∀ (records : List Record) (t : PeerTable),
      (records.foldl takeSecond t).peers = t.peers := by
    intro records
    induction records with
    | nil => exact fun _ => rfl
    | cons r records ih => exact fun t => (ih _).trans (peers_takeSecond t r)
  rw [takeIn_eq]
  have h := (h_first records (t, []) (.of_peers fun _ => Iff.rfl)).trans
    (.of_peers fun k => by rw [h_second records])
  rwa [List.append_nil] at h

/-! ### Queries that go unanswered -/

/-- Of peers each of which is there once, those that are dropped are reported once. -/
theorem reports_map_vanished (k : Sighting) {l : List (Sighting × Peer)}
    (h_distinct : (l.map (·.1)).Nodup) :
    reports k (l.map fun p => .vanished p.1) = if k ∈ l.map (·.1) then [false] else [] := by
  induction l with
  | nil => rfl
  | cons p l ih =>
    rw [List.map_cons, List.nodup_cons] at h_distinct
    rw [List.map_cons, ← List.singleton_append, reports_append, reports_vanished,
      ih h_distinct.2]
    by_cases hk : p.1 = k
    · -- it is dropped here, and nowhere behind
      subst hk
      simp [h_distinct.1]
    · have h_iff : k ∈ p.1 :: l.map (·.1) ↔ k ∈ l.map (·.1) := by
        rw [List.mem_cons]
        exact or_iff_right (Ne.symm hk)
      rw [if_neg hk, List.nil_append, List.map_cons]
      simp only [h_iff]

/-- The peers that have let pass as many queries as are tolerated. -/
def overdue (tolerated : UInt8) (t : PeerTable) : List (Sighting × Peer) :=
  t.peers.toList.filter fun (_, peer) => !(peer.ignored < tolerated)

theorem mem_overdue {tolerated : UInt8} {t : PeerTable} {k : Sighting} :
    k ∈ (t.overdue tolerated).map (·.1) ↔
      ∃ peer, t.peers[k]? = some peer ∧ tolerated ≤ peer.ignored := by
  simp [overdue, Std.ExtTreeMap.mem_toList_iff_getElem?_eq_some]

/-- Each of them is there once. -/
theorem nodup_overdue (tolerated : UInt8) (t : PeerTable) :
    ((t.overdue tolerated).map (·.1)).Nodup := by
  have h_distinct : (t.peers.toList.map (·.1)).Nodup := by
    refine List.pairwise_map.mpr (Std.ExtTreeMap.distinct_keys_toList.imp fun h h_eq => h ?_)
    rw [h_eq]
    exact Std.ReflCmp.compare_self
  exact (List.filter_sublist.map _).nodup h_distinct

/-- What a query that goes out does to who is there. -/
theorem mem_age_iff {tolerated : UInt8} (h : tolerated ≠ 0) {t : PeerTable} {k : Sighting} :
    k ∈ (t.age tolerated).1.peers ↔ k ∈ t.peers ∧ k ∉ (t.overdue tolerated).map (·.1) := by
  rw [mem_overdue]
  unfold age
  -- an entry goes as soon as it has been silent for long enough
  rw [if_neg h]
  simp only [Std.ExtTreeMap.mem_iff_isSome_getElem?, Std.ExtTreeMap.getElem?_filterMap]
  cases t.peers[k]? with
  | none => simp
  | some peer => by_cases h_lt : peer.ignored < tolerated <;> simp [h_lt, UInt8.not_le.mpr]

/-- Every peer that is dropped is reported gone. -/
theorem reports_age (tolerated : UInt8) (t : PeerTable) :
    Reports t (t.age tolerated).1 (t.age tolerated).2 := by
  by_cases h_zero : tolerated = 0
  · -- whoever tolerates nothing drops nobody
    unfold age
    rw [if_pos h_zero]
    exact .of_peers fun _ => Iff.rfl
  · have h_events : (t.age tolerated).2 = (t.overdue tolerated).map fun p => .vanished p.1 := by
      unfold age
      rw [if_neg h_zero]
      rfl
    rw [h_events]
    -- only departures are reported
    refine ⟨?_, fun k => ?_⟩
    · intro event h_event
      obtain ⟨p, -, rfl⟩ := List.mem_map.mp h_event
      exact ⟨p.1, .inr rfl⟩
    · -- it was there if it is dropped, and is there as before if it is not
      rw [reports_map_vanished k (nodup_overdue tolerated t)]
      by_cases h_over : k ∈ (t.overdue tolerated).map (·.1)
      · have h_mem : k ∈ t.peers := by
          obtain ⟨peer, h_peer, -⟩ := mem_overdue.mp h_over
          rw [Std.ExtTreeMap.mem_iff_isSome_getElem?, h_peer]
          rfl
        simp [mem_age_iff h_zero, h_over, h_mem, Alternate]
      · simp [mem_age_iff h_zero, h_over, Alternate]

/-! ### Any number of responses and queries -/

/-- What a table goes through. -/
inductive Input
  /-- A response comes from a source. -/
  | hears (records : List Record) (source : SocketAddress)
  /-- A query goes out; so many may go unanswered. -/
  | asks (tolerated : UInt8)

/-- Goes through one input. -/
def step (input : Input) (t : PeerTable) : PeerTable × List Event :=
  match input with
  | .hears records source => t.takeIn records source
  | .asks tolerated => t.age tolerated

/-- Goes through some inputs, and gathers the events. -/
def after (inputs : List Input) (t : PeerTable) : PeerTable × List Event :=
  inputs.foldl
    (fun (t, events) input =>
      let (t, more) := t.step input
      (t, events ++ more))
    (t, [])

theorem after_concat (inputs : List Input) (input : Input) (t : PeerTable) :
    t.after (inputs ++ [input]) =
      (((t.after inputs).1.step input).1,
        (t.after inputs).2 ++ ((t.after inputs).1.step input).2) := by
  simp only [after, List.foldl_append, List.foldl_cons, List.foldl_nil]

theorem reports_step (input : Input) (t : PeerTable) :
    Reports t (t.step input).1 (t.step input).2 := by
  cases input with
  | hears records source => exact reports_takeIn records source t
  | asks tolerated => exact reports_age tolerated t

/-- Whatever a table goes through, its events report it. -/
theorem reports_after (inputs : List Input) (t : PeerTable) :
    Reports t (t.after inputs).1 (t.after inputs).2 := by
  induction inputs using List.reverseRecOn with
  | nil => exact .of_peers fun _ => Iff.rfl
  | append_singleton inputs input ih =>
    rw [after_concat]
    exact ih.trans (reports_step input _)

/-- Who is there, as far as one can tell from the events. -/
def replay (events : List Event) : Std.ExtTreeSet Sighting :=
  events.foldl
    (fun there event =>
      match event with
      | .appeared k => there.insert k
      | .vanished k => there.erase k
      | _ => there)
    ∅

/-- As far as one can tell, somebody is there if that was the last report. -/
theorem mem_replay_iff {k : Sighting} {events : List Event}
    (h_about : ∀ event ∈ events, ∃ k, event = .appeared k ∨ event = .vanished k) :
    k ∈ replay events ↔ (reports k events).getLast? = some true := by
  induction events using List.reverseRecOn with
  | nil => simp [replay, reports]
  | append_singleton events event ih =>
    -- the last event decides about its own instance, and the rest stands
    have ih' := ih fun e he => h_about e (List.mem_append_left _ he)
    rw [reports_append]
    unfold replay at ih' ⊢
    rw [List.foldl_append, List.foldl_cons, List.foldl_nil]
    -- it adds the instance, or takes it out
    obtain ⟨k', rfl | rfl⟩ := h_about event (List.mem_append_right _ (List.mem_singleton_self _))
    · by_cases hk : k' = k <;> simp [Std.ExtTreeSet.mem_insert, hk, ih']
    · by_cases hk : k' = k <;> simp [Std.ExtTreeSet.mem_erase, hk, ih']

/-- **The events rebuild the table of instances.** A table that knew nothing takes in any
responses from any sources, with any queries in between, of which any number may go unanswered.
All its events are about instances that appear and vanish.  What they say of an instance
alternates, and begins with its appearance; in the end the instance is there exactly if its last
event is that it appeared.  So whoever replays the events has the same instances as the table. -/
theorem events_rebuild_peers (type : Name) (typeText : String) (inputs : List Input) :
    let t := ((empty type typeText).after inputs).1
    let events := ((empty type typeText).after inputs).2
    (∀ event ∈ events, ∃ k, event = .appeared k ∨ event = .vanished k) ∧
    (∀ k, (reports k events).head? ≠ some false ∧ List.IsChain (· ≠ ·) (reports k events) ∧
      (k ∈ t.peers ↔ (reports k events).getLast? = some true)) ∧
    ∀ k, k ∈ replay events ↔ k ∈ t.peers := by
  intro t events
  have h : Reports (empty type typeText) t events := reports_after inputs _
  -- seen from the empty table, the reports begin with an arrival
  have h_alternate : ∀ k, Alternate false (reports k events) (decide (k ∈ t.peers)) := by
    intro k
    have h_absent : k ∉ (empty type typeText).peers := Std.ExtTreeMap.not_mem_empty
    rw [← decide_eq_false h_absent]
    exact h.alternate k
  -- the last report says whether the entry is there
  have h_last : ∀ k, k ∈ t.peers ↔ (reports k events).getLast? = some true := by
    intro k
    have h_eq := (h_alternate k).getLastD
    rw [List.getLastD_eq_getLast?] at h_eq
    rw [← decide_eq_true_iff (p := k ∈ t.peers), ← h_eq]
    cases (reports k events).getLast? <;> simp
  refine ⟨h.about, fun k => ⟨?_, ?_, h_last k⟩, fun k => ?_⟩
  · -- nobody is there at first, so the first report is that somebody appeared
    have h_chain := (h_alternate k).isChain
    cases h_reports : reports k events with
    | nil => simp
    | cons b l =>
      rw [h_reports, List.isChain_cons_cons] at h_chain
      intro h_head
      exact h_chain.1 (Option.some.inj h_head).symm
  · -- a departure follows an arrival, and the other way round
    exact (h_alternate k).isChain.tail
  · rw [mem_replay_iff h.about, h_last k]

end PeerTable
end ServiceDiscovery
