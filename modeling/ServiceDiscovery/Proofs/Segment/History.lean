import Mathlib.Data.List.Induction
import Mathlib.Data.List.Pairwise
import Mathlib.Data.List.Sort
import ServiceDiscovery.Segment.Segment

/-!
# The history of a segment

A segment writes down everything that happens on it, and what is posted can be read off what it has
written down (`Happening.replay`).  A history is in order if each posting has a number of its own,
greater than those before it, and nothing is withdrawn that is not posted (`InOrder`).  Segments
only ever have histories in order (`Segment.Sound`), and whatever is done on a segment continues its
history and brings nothing back that was withdrawn (`Segment.Later`).

Postings are told apart by what they show themselves as (`Posting.keys`).  As long as no two
postings share a key, each sighting is that of one posting (`Distinct`), and this is the one that
is found when the sighting is resolved (`Segment.Sound.find?_eq_some_iff`).
-/

namespace ServiceDiscovery

/-! ### Replaying a history -/

namespace Happening

/-- What is posted after a happening. -/
def apply (postings : Std.ExtTreeMap Nat Posting) : Happening → Std.ExtTreeMap Nat Posting
  | posted p => postings.insert p.id p
  | withdrawn p => postings.erase p.id

/-- What is posted after some happenings. -/
def replay (happenings : List Happening) : Std.ExtTreeMap Nat Posting := happenings.foldl apply ∅

@[simp] theorem replay_nil : replay [] = ∅ := rfl

@[simp] theorem replay_concat (happenings : List Happening) (h : Happening) :
    replay (happenings ++ [h]) = h.apply (replay happenings) := by
  simp only [replay, List.foldl_append, List.foldl_cons, List.foldl_nil]

/-- A happening can follow some others: what is posted has a greater number than all before, and
what is withdrawn is posted. -/
def Follows (past : List Happening) : Happening → Prop
  | posted p => ∀ q, posted q ∈ past → q.id < p.id
  | withdrawn p => (replay past)[p.id]? = some p

/-- Only what was posted can be there. -/
theorem posted_of_replay {happenings : List Happening} {i : Nat} {p : Posting}
    (h : (replay happenings)[i]? = some p) : p.id = i ∧ posted p ∈ happenings := by
  -- from the end: the last happening posts it, or it was there before
  induction happenings using List.reverseRecOn with
  | nil => simp at h
  | append_singleton happenings x ih =>
    rw [replay_concat] at h
    cases x with
    | posted q =>
      rw [apply, Std.ExtTreeMap.getElem?_insert] at h
      -- the last happening posts it, or another one
      split at h
      · next h_eq =>
        obtain rfl := Option.some.inj h
        exact ⟨Std.LawfulEqOrd.eq_of_compare h_eq, by simp⟩
      · obtain ⟨h_id, h_mem⟩ := ih h
        exact ⟨h_id, List.mem_append_left _ h_mem⟩
    | withdrawn q =>
      rw [apply, Std.ExtTreeMap.getElem?_erase] at h
      split at h
      · -- what has been withdrawn is not there
        exact absurd h (by simp)
      · obtain ⟨h_id, h_mem⟩ := ih h
        exact ⟨h_id, List.mem_append_left _ h_mem⟩

end Happening

open Happening (replay)

/-- Every happening can follow those before it. -/
def InOrder (history : List Happening) : Prop :=
  ∀ past h, past ++ [h] <+: history → h.Follows past

theorem inOrder_nil : InOrder [] := by
  intro past h h_prefix
  exact absurd (List.prefix_nil.mp h_prefix) (by simp)

theorem InOrder.concat {history : List Happening} {h : Happening} (h_order : InOrder history)
    (h_follows : h.Follows history) : InOrder (history ++ [h]) := by
  intro past x h_prefix
  rcases List.prefix_concat_iff.mp h_prefix with h_eq | h_prefix
  · -- it is the last happening
    obtain ⟨rfl, rfl⟩ := List.concat_inj.mp (by simpa using h_eq)
    exact h_follows
  · exact h_order past x h_prefix

/-! ### Segments and their histories -/

namespace Segment

/-- What is posted on the segment is what its history says, and its numbers are new. -/
structure Sound (s : Segment) : Prop where
  inOrder : InOrder s.history.toList
  postings : replay s.history.toList = s.postings
  numbers : ∀ p, .posted p ∈ s.history.toList → p.id < s.nextId

/-- The segment may be found like that after it was like this: its history goes on, and nothing
comes back that was withdrawn. -/
structure Later (s s' : Segment) : Prop where
  history : s.history.toList <+: s'.history.toList
  old : ∀ p, .posted p ∈ s.history.toList → s'.postings[p.id]? = some p → s.postings[p.id]? = some p

theorem Later.refl (s : Segment) : s.Later s where
  history := List.prefix_rfl
  old := fun _ _ h => h

theorem Later.trans {s s' s'' : Segment} (h : s.Later s') (h' : s'.Later s'') : s.Later s'' where
  history := h.history.trans h'.history
  old := fun p hp h_there => h.old p hp (h'.old p (h.history.subset hp) h_there)

theorem sound_quiet : quiet.Sound where
  inOrder := inOrder_nil
  postings := rfl
  numbers := by
    intro p hp
    exact absurd hp List.not_mem_nil

variable {s : Segment}

theorem Sound.id_eq (h : s.Sound) {i : Nat} {p : Posting} (hp : s.postings[i]? = some p) :
    p.id = i := by
  rw [← h.postings] at hp
  exact (Happening.posted_of_replay hp).1

theorem Sound.id_lt (h : s.Sound) {i : Nat} {p : Posting} (hp : s.postings[i]? = some p) :
    i < s.nextId := by
  rw [← h.id_eq hp]
  rw [← h.postings] at hp
  exact h.numbers p (Happening.posted_of_replay hp).2

/-! #### Posting -/

theorem history_post (host : Host) (ad : Advertisement) (s : Segment) :
    (s.post host ad).1.history.toList =
      s.history.toList ++ [.posted { id := s.nextId, host, advertisement := ad }] := by
  simp [post]

theorem Sound.post (h : s.Sound) (host : Host) (ad : Advertisement) :
    (s.post host ad).1.Sound where
  inOrder := by
    rw [history_post]
    exact h.inOrder.concat h.numbers
  postings := by
    rw [history_post, Happening.replay_concat, h.postings]
    rfl
  numbers := by
    intro p hp
    rw [history_post] at hp
    -- the new posting has the number that was next
    rcases List.mem_append.mp hp with hp | hp
    · exact Nat.lt_succ_of_lt (h.numbers p hp)
    · obtain rfl := Happening.posted.inj (List.mem_singleton.mp hp)
      exact Nat.lt_succ_self _

/-- What is posted, and all that was posted before. -/
theorem Sound.getElem?_post (h : s.Sound) {host : Host} {ad : Advertisement} {i : Nat}
    {p : Posting} : (s.post host ad).1.postings[i]? = some p ↔
      s.nextId = i ∧ { id := s.nextId, host, advertisement := ad } = p ∨
        s.postings[i]? = some p := by
  simp only [Segment.post, Std.ExtTreeMap.getElem?_insert, Std.LawfulEqOrd.compare_eq_iff_eq]
  -- the new posting has the number that was next, and no other one has it
  by_cases h_eq : s.nextId = i
  · rw [if_pos h_eq, Option.some_inj]
    refine ⟨fun h_new => .inl ⟨h_eq, h_new⟩, ?_⟩
    rintro (⟨-, h_new⟩ | h_old)
    · exact h_new
    · exact absurd (h.id_lt h_old) (by omega)
  · rw [if_neg h_eq]
    exact ⟨.inr, fun h_or => h_or.resolve_left fun h_new => h_eq h_new.1⟩

theorem Sound.later_post (h : s.Sound) (host : Host) (ad : Advertisement) :
    s.Later (s.post host ad).1 where
  history := by
    rw [history_post]
    exact List.prefix_append _ _
  old := by
    intro p hp h_there
    -- the number of an entry of the history is below that of the new posting
    refine (h.getElem?_post.mp h_there).resolve_left fun h_new => ?_
    exact absurd (h.numbers p hp) (by omega)

/-! #### Withdrawing -/

theorem history_withdraw {id : Nat} {p : Posting} (hp : s.postings[id]? = some p) :
    s.withdraw id =
      { s with postings := s.postings.erase id, history := s.history.push (.withdrawn p) } := by
  unfold withdraw
  rw [hp]

theorem withdraw_of_none {id : Nat} (hp : s.postings[id]? = none) : s.withdraw id = s := by
  unfold withdraw
  rw [hp]

@[simp] theorem nextId_withdraw (id : Nat) (s : Segment) : (s.withdraw id).nextId = s.nextId := by
  unfold withdraw
  split <;> rfl

theorem getElem?_withdraw (id i : Nat) (s : Segment) :
    (s.withdraw id).postings[i]? = if id = i then none else s.postings[i]? := by
  cases hp : s.postings[id]? with
  | none =>
    -- nothing is posted under the id, so nothing changes
    rw [withdraw_of_none hp]
    split
    · next h_eq => rw [← h_eq, hp]
    · rfl
  | some p =>
    rw [history_withdraw hp, Std.ExtTreeMap.getElem?_erase]
    simp only [Std.LawfulEqOrd.compare_eq_iff_eq]

theorem Sound.withdraw (h : s.Sound) (id : Nat) : (s.withdraw id).Sound := by
  cases hp : s.postings[id]? with
  -- nothing is posted under the id, so nothing changes
  | none =>
    rw [withdraw_of_none hp]
    exact h
  | some p =>
    obtain rfl := h.id_eq hp
    rw [history_withdraw hp]
    refine ⟨?_, ?_, ?_⟩
    · -- what is withdrawn was there, as the history asks
      rw [Array.toList_push]
      refine h.inOrder.concat ?_
      rw [Happening.Follows, h.postings, hp]
    · rw [Array.toList_push, Happening.replay_concat, h.postings]
      rfl
    · -- only postings are numbered
      intro q hq
      rw [Array.toList_push] at hq
      rcases List.mem_append.mp hq with hq | hq
      · exact h.numbers q hq
      · exact absurd (List.mem_singleton.mp hq) (by simp)

theorem later_withdraw (id : Nat) (s : Segment) : s.Later (s.withdraw id) := by
  cases hp : s.postings[id]? with
  | none =>
    -- nothing is posted under the id, so nothing changes
    rw [withdraw_of_none hp]
    exact Later.refl s
  | some p =>
    refine ⟨?_, ?_⟩
    · rw [history_withdraw hp, Array.toList_push]
      exact List.prefix_append _ _
    · -- what is there after it was there before
      rintro q - h_there
      rw [getElem?_withdraw] at h_there
      split at h_there
      · exact absurd h_there (by simp)
      · exact h_there

/-- What a withdrawal preserves, many preserve. -/
theorem foldl_withdraw {P : Segment → Prop} (h_start : P s)
    (h_step : ∀ s id, P s → P (s.withdraw id)) (ids : Array Nat) :
    P (ids.foldl (fun s id => s.withdraw id) s) := by
  rw [← Array.foldl_toList]
  induction ids.toList generalizing s with
  | nil => exact h_start
  | cons id ids ih => exact ih (h_step s id h_start)

/-- What stays after many withdrawals. -/
theorem getElem?_foldl_withdraw (ids : Array Nat) (i : Nat) (s : Segment) :
    (ids.foldl (fun s id => s.withdraw id) s).postings[i]? =
      if i ∈ ids then none else s.postings[i]? := by
  simp only [← Array.foldl_toList, ← Array.mem_toList_iff]
  -- on the ids: each withdrawal leaves the other ones alone
  induction ids.toList generalizing s with
  | nil => simp
  | cons id ids ih =>
    rw [List.foldl_cons, ih, getElem?_withdraw]
    by_cases h_mem : i ∈ ids
    · simp [h_mem]
    · by_cases h_eq : id = i
      · simp [h_eq]
      · simp [h_mem, h_eq, Ne.symm h_eq]

end Segment

/-! ### Keys -/

namespace Posting

/-- As what a posting is seen by those who watch for its type on both families. -/
def keys (p : Posting) : List Sighting := p.sightings p.advertisement.serviceType .any

/-- The sightings of a posting, by their fields. -/
theorem mem_sightings {p : Posting} {type : String} {scope : IpScope} {k : Sighting} :
    k ∈ p.sightings type scope ↔
      (k.protocol = .v4 ∨ k.protocol = .v6) ∧ scope.includes k.protocol = true ∧
        p.advertisement.scope.includes k.protocol = true ∧ p.advertisement.serviceType = type ∧
        k.interface = p.host.interface ∧ k.name = p.advertisement.name ∧
        k.serviceType = p.advertisement.serviceType ∧ k.domain = domain := by
  unfold sightings
  -- one sighting in each family that both the watch and the registration want
  split
  · next h_type =>
    simp only [List.mem_map, List.mem_filter, List.mem_cons, List.not_mem_nil, or_false,
      Bool.and_eq_true]
    constructor
    · rintro ⟨protocol, ⟨h_family, h_scope, h_ad⟩, rfl⟩
      exact ⟨h_family, h_scope, h_ad, h_type, rfl, rfl, rfl, rfl⟩
    · rintro ⟨h_family, h_scope, h_ad, -, h_interface, h_name, h_service, h_domain⟩
      refine ⟨k.protocol, ⟨h_family, h_scope, h_ad⟩, ?_⟩
      rw [← h_interface, ← h_name, ← h_service, ← h_domain]
  · next h_type =>
    simp only [List.not_mem_nil, false_iff]
    exact fun h => h_type h.2.2.2.1

theorem mem_keys_of_sightings {p : Posting} {type : String} {scope : IpScope} {k : Sighting}
    (h : k ∈ p.sightings type scope) : k ∈ p.keys := by
  obtain ⟨h_family, -, h_ad, -, h_rest⟩ := mem_sightings.mp h
  exact mem_sightings.mpr ⟨h_family, rfl, h_ad, rfl, h_rest⟩

/-- A posting is found for a sighting on its own family just if the sighting is a key of it. -/
theorem shows_iff {p : Posting} {k : Sighting} (h_family : k.protocol = .v4 ∨ k.protocol = .v6) :
    p.shows k k.protocol = true ↔ k ∈ p.keys := by
  rw [keys, mem_sightings]
  simp only [shows, Bool.and_eq_true, beq_iff_eq, IpScope.any_includes, true_and, h_family]
  grind

theorem nodup_sightings (p : Posting) (type : String) (scope : IpScope) :
    (p.sightings type scope).Nodup := by
  unfold sightings
  split
  · refine List.Nodup.map ?_ (List.Nodup.filter _ (by decide))
    intro x y h
    exact congrArg Sighting.protocol h
  · exact List.nodup_nil

end Posting

/-- No two postings show themselves as the same. -/
def Distinct (postings : Std.ExtTreeMap Nat Posting) : Prop :=
  ∀ (i j : Nat) (p q : Posting) (k : Sighting), postings[i]? = some p → postings[j]? = some q →
    k ∈ p.keys → k ∈ q.keys → i = j

theorem Distinct.erase {postings : Std.ExtTreeMap Nat Posting} (h : Distinct postings) (id : Nat) :
    Distinct (postings.erase id) := by
  intro i j p q k hi hj hp hq
  rw [Std.ExtTreeMap.getElem?_erase] at hi hj
  -- two that are left were both there before
  split at hi
  · exact absurd hi (by simp)
  · split at hj
    · exact absurd hj (by simp)
    · exact h i j p q k hi hj hp hq

namespace Segment

variable {s : Segment}

theorem mem_current {p : Posting} : p ∈ s.current ↔ ∃ i : Nat, s.postings[i]? = some p := by
  rw [current, List.mem_map]
  constructor
  · rintro ⟨⟨i, q⟩, h_mem, rfl⟩
    exact ⟨i, Std.ExtTreeMap.mem_toList_iff_getElem?_eq_some.mp h_mem⟩
  · rintro ⟨i, h⟩
    exact ⟨(i, p), Std.ExtTreeMap.mem_toList_iff_getElem?_eq_some.mpr h, rfl⟩

theorem Sound.mem_current (h : s.Sound) {p : Posting} :
    p ∈ s.current ↔ s.postings[p.id]? = some p := by
  rw [Segment.mem_current]
  constructor
  · rintro ⟨i, hi⟩
    obtain rfl := h.id_eq hi
    exact hi
  · exact fun hp => ⟨p.id, hp⟩

/-- Postings in the order of their numbers are told by which they are. -/
theorem eq_of_ordered {ps qs : List Posting} (hp : ps.Pairwise fun p q => p.id < q.id)
    (hq : qs.Pairwise fun p q => p.id < q.id) (h : ∀ p, p ∈ ps ↔ p ∈ qs) : ps = qs := by
  have : Std.Antisymm fun p q : Posting => p.id < q.id :=
    ⟨fun p q h_pq h_qp => absurd h_pq (Nat.lt_asymm h_qp)⟩
  have : Std.Irrefl fun p q : Posting => p.id < q.id := ⟨fun p => Nat.lt_irrefl p.id⟩
  exact hp.eq_of_mem_iff hq h

/-- Postings are listed in the order of their numbers. -/
theorem Sound.ordered_current (h : s.Sound) : s.current.Pairwise fun p q => p.id < q.id := by
  rw [current, List.pairwise_map]
  refine Std.ExtTreeMap.ordered_keys_toList.imp_of_mem ?_
  rintro ⟨i, p⟩ ⟨j, q⟩ hi hj h_lt
  have hp := h.id_eq (Std.ExtTreeMap.mem_toList_iff_getElem?_eq_some.mp hi)
  have hq := h.id_eq (Std.ExtTreeMap.mem_toList_iff_getElem?_eq_some.mp hj)
  subst hp hq
  exact Nat.compare_eq_lt.mp h_lt

/-- That the keys of what is posted are disjoint, posting by posting. -/
theorem distinct_iff :
    Distinct s.postings ↔ s.current.Pairwise fun p q => List.Disjoint p.keys q.keys := by
  rw [current, List.pairwise_map]
  constructor
  · intro h
    refine Std.ExtTreeMap.distinct_keys_toList.imp_of_mem ?_
    rintro ⟨i, p⟩ ⟨j, q⟩ hi hj h_ne k hp hq
    -- a key in common would make the numbers equal
    have h_eq := h i j p q k (Std.ExtTreeMap.mem_toList_iff_getElem?_eq_some.mp hi)
      (Std.ExtTreeMap.mem_toList_iff_getElem?_eq_some.mp hj) hp hq
    subst h_eq
    exact h_ne Std.ReflCmp.compare_self
  · intro h i j p q k hi hj hp hq
    have : Std.Symm fun x y : Nat × Posting => List.Disjoint x.2.keys y.2.keys :=
      ⟨fun _ _ h_disjoint _ hx hy => h_disjoint hy hx⟩
    refine Classical.byContradiction fun h_ne => ?_
    have h_pair : (i, p) ≠ (j, q) := fun h_eq => h_ne (Prod.mk.inj h_eq).1
    exact h.forall (Std.ExtTreeMap.mem_toList_iff_getElem?_eq_some.mpr hi)
      (Std.ExtTreeMap.mem_toList_iff_getElem?_eq_some.mpr hj) h_pair hp hq

/-- A sighting is resolved to the one posting that has it as a key. -/
theorem Sound.find?_eq_some_iff (h : s.Sound) (h_distinct : Distinct s.postings) {k : Sighting}
    (h_family : k.protocol = .v4 ∨ k.protocol = .v6) {p : Posting} :
    s.find? k k.protocol = some p ↔ s.postings[p.id]? = some p ∧ k ∈ p.keys := by
  unfold find?
  constructor
  · intro h_find
    have h_mem := List.mem_of_find?_eq_some h_find
    have h_shows := List.find?_some h_find
    exact ⟨h.mem_current.mp h_mem, (Posting.shows_iff h_family).mp h_shows⟩
  · rintro ⟨hp, hk⟩
    have h_some : (s.current.find? (·.shows k k.protocol)).isSome := by
      rw [List.find?_isSome]
      exact ⟨p, h.mem_current.mpr hp, (Posting.shows_iff h_family).mpr hk⟩
    -- something is found, and it has the key as well
    obtain ⟨q, h_find⟩ := Option.isSome_iff_exists.mp h_some
    have hq := h.mem_current.mp (List.mem_of_find?_eq_some h_find)
    have h_shows := List.find?_some h_find
    have h_id := h_distinct _ _ _ _ k hp hq hk ((Posting.shows_iff h_family).mp h_shows)
    rw [← h_id, hp] at hq
    rw [h_find, hq]

end Segment

end ServiceDiscovery
