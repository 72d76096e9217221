import ServiceDiscovery.Proofs.Multicast.Spellings

/-!
# Queries that go unanswered

An instance is heard from when a pointer to it arrives, and takes leave with a pointer that has no
time to live.  How many queries went out since an instance was heard from can be told from the
history alone (`PeerTable.unanswered`).  A table counts them in its entry, and drops the entry as
the count exceeds what is tolerated.

The entry says what the history says, for as long as it is there (`PeerTable.ignored_after`): so the
count of an entry never exceeds what is tolerated, and no query is lost from it, as it would be if
the count began anew after 255.  An instance is dropped exactly by the query that goes out when as
many as are tolerated have gone unanswered (`PeerTable.countsTo_after`).
-/

namespace ServiceDiscovery
namespace PeerTable

open Dns (Name Record)

variable {t t' : PeerTable} {k : Sighting} {m : UInt8}

/-! ### What is said of an instance -/

/-- What a record says of an instance to whoever hears it on an interface and a family: a pointer
says that it is there, or with no time to live that it is gone. -/
def presence? (k : Sighting) (interface : UInt32) (protocol : IpScope) (t : PeerTable) (r : Record) :
    Option Bool :=
  match r.data with
  | .ptr target =>
    if r.owner.same t.type && t.sighting? interface protocol target = some k then some (r.ttl != 0)
    else none
  | _ => none

/-- What a response says of an instance in the end: of several pointers to it the last counts. -/
def said? (k : Sighting) (records : List Record) (source : SocketAddress) (t : PeerTable) :
    Option Bool :=
  (records.filterMap (t.presence? k source.interface source.scope)).getLast?

/-- How many queries have gone unanswered after something was said, if so many had before. -/
def heed (n : Option Nat) : Option Bool → Option Nat
  | some true => some 0
  | some false => none
  | none => n

@[simp] theorem heed_none (n : Option Nat) : heed n none = n := rfl

@[simp] theorem heed_there (n : Option Nat) : heed n (some true) = some 0 := rfl

@[simp] theorem heed_gone (n : Option Nat) : heed n (some false) = none := rfl

/-- A query goes out. -/
def Input.isQuery : Input → Bool
  | .asks _ => true
  | .hears .. => false

/-- How many queries went out since an instance was heard from; none if it was not heard from, or
took leave since. -/
def unanswered (k : Sighting) (t : PeerTable) (inputs : List Input) : Option Nat :=
  inputs.foldl
    (fun n input =>
      match input with
      | .hears records source => heed n (t.said? k records source)
      | .asks _ => n.map (· + 1))
    none

/-- What is said depends on the type of the table alone. -/
theorem Alike.presence? (h : t.Alike t') (interface : UInt32) (protocol : IpScope) (r : Record) :
    t'.presence? k interface protocol r = t.presence? k interface protocol r := by
  unfold PeerTable.presence?
  rw [h.type]
  simp only [h.sighting?]

theorem Alike.unanswered (h : t.Alike t') (inputs : List Input) :
    unanswered k t' inputs = unanswered k t inputs := by
  unfold PeerTable.unanswered PeerTable.said?
  simp only [h.presence?]

/-- To heed one thing after the other is to heed the last. -/
theorem foldl_heed {α : Type} (said : α → Option Bool) (l : List α) (n : Option Nat) :
    l.foldl (fun n a => heed n (said a)) n = heed n (l.filterMap said).getLast? := by
  -- from the end: what was said last counts
  induction l using List.reverseRecOn with
  | nil => rfl
  | append_singleton l a ih =>
    rw [List.foldl_append, ih, List.filterMap_append]
    cases h_said : said a with
    | none => simp [h_said]
    | some there => cases there <;> simp [h_said]

/-! ### What a table counts -/

/-- How many queries an instance has let pass, as its entry counts them. -/
def ignored? (k : Sighting) (t : PeerTable) : Option Nat := t.peers[k]?.map (·.ignored.toNat)

theorem ignored?_of_peers (h : t'.peers = t.peers) : t'.ignored? k = t.ignored? k := by
  rw [ignored?, h, ignored?]

theorem mem_iff_isSome_ignored? : k ∈ t.peers ↔ (t.ignored? k).isSome := by
  rw [Std.ExtTreeMap.mem_iff_isSome_getElem?, ignored?, Option.isSome_map]

/-- A pointer sets the count of its instance to zero, or takes its entry out. -/
theorem ignored?_takePointer (k' : Sighting) (target : Name) (ttl : UInt32) (t : PeerTable) :
    (t.takePointer k' target ttl).1.ignored? k =
      heed (t.ignored? k) (if k' = k then some (ttl != 0) else none) := by
  -- the pointer is about `k`, or it leaves its count alone
  by_cases hk : k' = k
  · subst hk
    unfold takePointer
    split
    · next h_leave =>
      -- whatever was there is gone
      have h_said : (ttl != 0) = false := by simp [h_leave]
      rw [if_pos rfl, h_said, heed_gone]
      split
      · simp [ignored?]
      · next h_absent => simp [ignored?, Std.ExtTreeMap.getElem?_eq_none h_absent]
    · -- whoever is there has been heard just now
      next h_stay =>
      have h_said : (ttl != 0) = true := by simp [h_stay]
      rw [if_pos rfl, h_said, heed_there]
      cases h_peer : t.peers[k']? <;> simp [ignored?]
  · rw [if_neg hk, heed_none]
    unfold takePointer
    split
    · split <;> simp [ignored?, hk, Std.ExtTreeMap.getElem?_erase]
    · cases h_peer : t.peers[k']? <;> simp [ignored?, hk, Std.ExtTreeMap.getElem?_insert]

/-- Of the records of a response only pointers matter, each to its instance. -/
theorem ignored?_takeFirst (interface : UInt32) (protocol : IpScope) (r : Record) (t : PeerTable) :
    (t.takeFirst interface protocol r).1.ignored? k =
      heed (t.ignored? k) (t.presence? k interface protocol r) := by
  unfold takeFirst presence?
  -- only a pointer says anything about who is there
  cases r.data with
  | ptr target =>
    by_cases h_owner : r.owner.same t.type = true
    · cases h_sighting : t.sighting? interface protocol target with
      | none => simp [h_owner, h_sighting]
      | some k' => simp [h_owner, h_sighting, ignored?_takePointer]
    · simp [h_owner]
  | srv _ _ port target =>
    dsimp only
    split
    · unfold takeService
      split <;> rfl
    · rfl
  | _ => rfl

theorem ignored?_foldl_hear {source : SocketAddress} (records : List Record)
    (s : PeerTable × List Event) (h_alike : t.Alike s.1) :
    (records.foldl (hear source) s).1.ignored? k =
      records.foldl (fun n r => heed n (t.presence? k source.interface source.scope r))
        (s.1.ignored? k) := by
  induction records generalizing s with
  | nil => rfl
  -- the table is about the same type after each record, so the records say the same
  | cons r records ih =>
    have h_next := h_alike.trans (alike_takeFirst s.1 source.interface source.scope r)
    rw [List.foldl_cons, List.foldl_cons, ih (hear source s r) h_next, hear, ignored?_takeFirst,
      h_alike.presence?]

/-- The second pass does not touch the counts. -/
theorem ignored?_foldl_takeSecond (records : List Record) (t : PeerTable) :
    (records.foldl takeSecond t).ignored? k = t.ignored? k := by
  induction records generalizing t with
  | nil => rfl
  | cons r records ih => rw [List.foldl_cons, ih, ignored?_of_peers (peers_takeSecond t r)]

/-- A response sets the count of an instance by the last that it says of it. -/
theorem ignored?_takeIn (records : List Record) (source : SocketAddress) (h_alike : t.Alike t') :
    (t'.takeIn records source).1.ignored? k =
      heed (t'.ignored? k) (t.said? k records source) := by
  rw [takeIn_eq, ignored?_foldl_takeSecond, ignored?_foldl_hear records (t', []) h_alike, foldl_heed,
    said?]

/-- A query that goes out is counted, or drops the entry if as many as are tolerated have been. -/
theorem ignored?_age (h : m ≠ 0) (t : PeerTable) :
    (t.age m).1.ignored? k =
      (t.ignored? k).bind fun n => if n < m.toNat then some (n + 1) else none := by
  unfold age ignored?
  rw [if_neg h]
  simp only [Std.ExtTreeMap.getElem?_filterMap, Option.pbind_eq_bind]
  -- only who is known is counted
  cases t.peers[k]? with
  | none => rfl
  | some peer =>
    simp only [Option.bind_some, Option.map_some]
    by_cases h_lt : peer.ignored < m
    · -- one more than a count below the limit is still a byte
      have h_count : peer.ignored.toNat < m.toNat := UInt8.lt_iff_toNat_lt.mp h_lt
      have h_next : (peer.ignored + 1).toNat = peer.ignored.toNat + 1 := by
        have h_byte := m.toNat_lt
        rw [UInt8.toNat_add]
        exact Nat.mod_eq_of_lt (by show peer.ignored.toNat + 1 < 256; omega)
      simp [h_lt, h_count, h_next]
    · -- at the limit it is dropped
      have h_count : ¬ peer.ignored.toNat < m.toNat := fun h_lt' =>
        h_lt (UInt8.lt_iff_toNat_lt.mpr h_lt')
      simp [h_lt, h_count]

/-- A response takes an instance out if the last that it says of it is that it is gone. -/
theorem said_of_gone {records : List Record} {source : SocketAddress} (hk : k ∈ t.peers)
    (h_gone : k ∉ (t.takeIn records source).1.peers) : t.said? k records source = some false := by
  rw [mem_iff_isSome_ignored?, Option.isSome_iff_exists] at hk
  rw [mem_iff_isSome_ignored?, ignored?_takeIn records source (.refl t)] at h_gone
  obtain ⟨n, hn⟩ := hk
  rw [hn] at h_gone
  -- saying nothing would have kept it, and so would saying that it is there
  cases h_said : t.said? k records source with
  | none => simp [h_said] at h_gone
  | some there => cases there <;> simp [h_said] at h_gone ⊢

/-! ### Any number of responses and queries -/

theorem unanswered_concat (t : PeerTable) (inputs : List Input) (input : Input) :
    unanswered k t (inputs ++ [input]) =
      match input with
      | .hears records source => heed (unanswered k t inputs) (t.said? k records source)
      | .asks _ => (unanswered k t inputs).map (· + 1) := by
  unfold unanswered
  rw [List.foldl_append]
  cases input <;> rfl

/-- Nothing is said of an instance. -/
def Silent (k : Sighting) (t : PeerTable) : Input → Prop
  | .hears records source => t.said? k records source = none
  | .asks _ => True

/-- An instance was heard from, and nothing was said of it since. -/
def HeardBefore (k : Sighting) (t : PeerTable) (inputs since : List Input) : Prop :=
  ∃ before records source, inputs = before ++ .hears records source :: since ∧
    t.said? k records source = some true ∧ ∀ input ∈ since, Silent k t input

theorem HeardBefore.concat {t : PeerTable} {inputs since : List Input} {input : Input}
    (h : HeardBefore k t inputs since) (h_silent : Silent k t input) :
    HeardBefore k t (inputs ++ [input]) (since ++ [input]) := by
  obtain ⟨before, records, source, rfl, h_heard, h_since⟩ := h
  refine ⟨before, records, source, List.append_assoc .., h_heard, fun input' h_mem => ?_⟩
  obtain h_mem | h_mem := List.mem_append.mp h_mem
  · exact h_since input' h_mem
  · rwa [List.mem_singleton.mp h_mem]

/-- Where nothing is said of an instance, each query counts. -/
theorem unanswered_append {t : PeerTable} {inputs : List Input} {n : Nat}
    (hn : unanswered k t inputs = some n) (since : List Input)
    (h_since : ∀ input ∈ since, Silent k t input) :
    unanswered k t (inputs ++ since) = some (n + since.countP Input.isQuery) := by
  -- from the end: a query adds one, and what is heard does not concern `k`
  induction since using List.reverseRecOn with
  | nil => simpa using hn
  | append_singleton since input ih =>
    have ih' := ih fun input h_mem => h_since input (List.mem_append_left _ h_mem)
    have h_silent : Silent k t input :=
      h_since input (List.mem_append_right _ (List.mem_singleton_self _))
    rw [← List.append_assoc, unanswered_concat, ih', List.countP_append]
    cases input with
    | hears records source => simp [show t.said? k records source = none from h_silent, Input.isQuery]
    | asks m => simp [Input.isQuery, Nat.add_assoc]

/-- **What is counted.** So many queries have gone unanswered if an instance was heard from once,
nothing was said of it since, and so many queries went out since. -/
theorem unanswered_eq_some_iff {t : PeerTable} {inputs : List Input} {n : Nat} :
    unanswered k t inputs = some n ↔
      ∃ since, HeardBefore k t inputs since ∧ since.countP Input.isQuery = n := by
  constructor
  · -- from the end: the last input is a query, or it is heard
    intro h
    induction inputs using List.reverseRecOn generalizing n with
    | nil => exact absurd h (by simp [unanswered])
    | append_singleton inputs input ih =>
      rw [unanswered_concat] at h
      cases input with
      | hears records source =>
        dsimp only at h
        cases h_said : t.said? k records source with
        -- the packet says nothing of `k`, so the count goes on
        | none =>
          rw [h_said, heed_none] at h
          obtain ⟨since, h_before, h_count⟩ := ih h
          exact ⟨_, h_before.concat h_said, by simpa [Input.isQuery] using h_count⟩
        | some there =>
          rw [h_said] at h
          cases there with
          -- `k` was heard just now
          | true =>
            exact ⟨[], ⟨inputs, records, source, rfl, h_said, by simp⟩, Option.some.inj h⟩
          | false => exact absurd h (by simp)
      | asks m =>
        obtain ⟨n', h_some, rfl⟩ := Option.map_eq_some_iff.mp h
        obtain ⟨since, h_before, h_count⟩ := ih h_some
        have h_silent : Silent k t (.asks m) := trivial
        exact ⟨_, h_before.concat h_silent, by simp [Input.isQuery, h_count]⟩
  · -- conversely, the count is zero when it is heard, and then goes up with the queries
    rintro ⟨since, ⟨before, records, source, rfl, h_heard, h_since⟩, rfl⟩
    have h_zero : unanswered k t (before ++ [.hears records source]) = some 0 := by
      rw [unanswered_concat]
      simp only [h_heard, heed_there]
    rw [List.append_cons, unanswered_append h_zero since h_since, Nat.zero_add]

/-- What comes later is done to what came of the first. -/
theorem fst_after_append (inputs more : List Input) (t : PeerTable) :
    (t.after (inputs ++ more)).1 = ((t.after inputs).1.after more).1 := by
  induction more using List.reverseRecOn with
  | nil => rw [List.append_nil]; rfl
  | append_singleton more input ih => rw [← List.append_assoc, after_concat, after_concat, ih]

/-- The same number of queries is tolerated throughout. -/
def Tolerating (m : UInt8) (inputs : List Input) : Prop := ∀ n, .asks n ∈ inputs → n = m

/-- A count that begins anew is tolerated. -/
theorem filter_heed (m : UInt8) (n : Option Nat) (said : Option Bool) :
    (heed n said).filter (· ≤ m.toNat) = heed (n.filter (· ≤ m.toNat)) said := by
  cases said with
  | none => rfl
  | some there => cases there <;> simp

/-- **Entries count what goes unanswered.** An entry is there as long as no more queries have gone
unanswered than are tolerated, and counts them. -/
theorem ignored_after (h : m ≠ 0) {inputs : List Input} (h_inputs : Tolerating m inputs)
    (type : Name) (typeText : String) :
    ((empty type typeText).after inputs).1.ignored? k =
      (unanswered k (empty type typeText) inputs).filter (· ≤ m.toNat) := by
  induction inputs using List.reverseRecOn with
  | nil => simp [after, ignored?, empty, unanswered]
  -- from the end: the count of the table is that of the queries, up to the limit
  | append_singleton inputs input ih =>
    have ih' := ih fun n hn => h_inputs n (List.mem_append_left _ hn)
    rw [after_concat, unanswered_concat]
    cases input with
    -- what is heard sets both counts alike
    | hears records source =>
      dsimp only [step]
      rw [ignored?_takeIn records source (alike_after (empty type typeText) inputs), ih', filter_heed]
    | asks n =>
      obtain rfl := h_inputs n (List.mem_append_right _ (List.mem_singleton_self _))
      dsimp only [step]
      rw [ignored?_age h, ih']
      cases unanswered k (empty type typeText) inputs with
      | none => rfl
      | some count =>
        simp only [Option.map_some, Option.filter_some, decide_eq_true_eq]
        by_cases h_limit : count ≤ n.toNat
        · -- one more is tolerated exactly if the count is below the limit
          rw [if_pos h_limit, Option.bind_some]
          rfl
        · rw [if_neg h_limit, if_neg fun h_next => h_limit (Nat.le_of_succ_le h_next), Option.bind_none]

/-- Whoever has let pass as many queries as are tolerated is dropped by the next. -/
theorem dropped_age_iff (h : m ≠ 0) :
    (k ∈ t.peers ∧ k ∉ (t.age m).1.peers) ↔ ∃ n, t.ignored? k = some n ∧ m.toNat ≤ n := by
  rw [mem_iff_isSome_ignored?, mem_iff_isSome_ignored?, ignored?_age h]
  cases t.ignored? k with
  | none => simp
  | some n => by_cases h_next : n < m.toNat <;> simp [h_next]; omega

/-- And reported gone. -/
theorem vanished_age_iff (h : m ≠ 0) :
    .vanished k ∈ (t.age m).2 ↔ ∃ n, t.ignored? k = some n ∧ m.toNat ≤ n := by
  -- those that are overdue are told to be gone
  have h_events : (t.age m).2 = (t.overdue m).map fun p => .vanished p.1 := by
    unfold age
    rw [if_neg h]
    rfl
  have h_mem : .vanished k ∈ (t.age m).2 ↔ k ∈ (t.overdue m).map (·.1) := by
    rw [h_events, List.mem_map, List.mem_map]
    simp
  rw [h_mem, mem_overdue]
  simp only [ignored?, Option.map_eq_some_iff, UInt8.le_iff_toNat_le]
  constructor
  · rintro ⟨peer, h_peer, h_over⟩
    exact ⟨_, ⟨peer, h_peer, rfl⟩, h_over⟩
  · rintro ⟨_, ⟨peer, h_peer, rfl⟩, h_over⟩
    exact ⟨peer, h_peer, h_over⟩

/-- A table has an entry for an instance as long as no more queries have gone unanswered than are
tolerated.  The entry counts them, and the next query drops it, and says so, if there have been as
many as are tolerated. -/
structure CountsTo (m : UInt8) (k : Sighting) (count : Option Nat) (t : PeerTable) : Prop where
  entry : ∀ peer, t.peers[k]? = some peer → count = some peer.ignored.toNat ∧ peer.ignored ≤ m
  present : k ∈ t.peers ↔ ∃ n, count = some n ∧ n ≤ m.toNat
  dropped : (k ∈ t.peers ∧ k ∉ (t.age m).1.peers) ↔ count = some m.toNat
  vanished : .vanished k ∈ (t.age m).2 ↔ count = some m.toNat

/-- **Who is dropped.** After any responses and queries, a query drops an instance, and reports it
gone, exactly if as many as are tolerated have gone unanswered before. -/
theorem countsTo_after (h : m ≠ 0) {inputs : List Input} (h_inputs : Tolerating m inputs)
    (type : Name) (typeText : String) (k : Sighting) :
    CountsTo m k (unanswered k (empty type typeText) inputs)
      ((empty type typeText).after inputs).1 := by
  have h_count := ignored_after (k := k) h h_inputs type typeText
  generalize ((empty type typeText).after inputs).1 = t at h_count ⊢
  generalize unanswered k (empty type typeText) inputs = count at h_count ⊢
  -- at the limit: the count is that of the table, which never goes beyond
  have h_over : (∃ n, t.ignored? k = some n ∧ m.toNat ≤ n) ↔ count = some m.toNat := by
    rw [h_count]
    constructor
    · rintro ⟨n, h_some, h_over⟩
      obtain ⟨h_some, h_limit⟩ := Option.filter_eq_some_iff.mp h_some
      rw [h_some, Nat.le_antisymm (of_decide_eq_true h_limit) h_over]
    · intro h_some
      exact ⟨m.toNat, Option.filter_eq_some_iff.mpr ⟨h_some, by simp⟩, Nat.le_refl _⟩
  refine ⟨fun peer h_peer => ?_, ?_, (dropped_age_iff h).trans h_over,
    (vanished_age_iff h).trans h_over⟩
  · -- the count of who is known
    have h_ignored : t.ignored? k = some peer.ignored.toNat := by rw [ignored?, h_peer]; rfl
    obtain ⟨h_some, h_limit⟩ := Option.filter_eq_some_iff.mp (h_count.symm.trans h_ignored)
    exact ⟨h_some, UInt8.le_iff_toNat_le.mpr (of_decide_eq_true h_limit)⟩
  · -- who is known is below the limit, or at it
    rw [mem_iff_isSome_ignored?, h_count, Option.isSome_iff_exists]
    simp [Option.filter_eq_some_iff]

/-! ### Tables that drop nobody -/

theorem isSome_heed {n n' : Option Nat} (h : n.isSome = n'.isSome) (said : Option Bool) :
    (heed n said).isSome = (heed n' said).isSome := by
  cases said with
  | none => exact h
  | some there => cases there <;> rfl

theorem age_zero (t : PeerTable) : t.age 0 = (t, []) := if_pos rfl

/-- Where any number is tolerated, an instance is there from when it is heard from until it takes
leave. -/
theorem mem_after_iff {inputs : List Input} (h_inputs : Tolerating 0 inputs) (type : Name)
    (typeText : String) (k : Sighting) :
    k ∈ ((empty type typeText).after inputs).1.peers ↔
      (unanswered k (empty type typeText) inputs).isSome := by
  rw [mem_iff_isSome_ignored?, Bool.coe_iff_coe]
  -- from the end: with no limit a query drops nobody
  induction inputs using List.reverseRecOn with
  | nil => simp [after, ignored?, empty, unanswered]
  | append_singleton inputs input ih =>
    have ih' := ih fun n hn => h_inputs n (List.mem_append_left _ hn)
    rw [after_concat, unanswered_concat]
    cases input with
    | hears records source =>
      dsimp only [step]
      rw [ignored?_takeIn records source (alike_after (empty type typeText) inputs)]
      exact isSome_heed ih' _
    | asks n =>
      obtain rfl := h_inputs n (List.mem_append_right _ (List.mem_singleton_self _))
      rw [step, age_zero, Option.isSome_map, ih']

end PeerTable
end ServiceDiscovery
