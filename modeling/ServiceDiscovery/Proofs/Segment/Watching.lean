import ServiceDiscovery.Proofs.Segment.History

/-!
# Watching a segment

A watch has read some part of the history of its segment, and the postings that it takes for seen
are those that are posted after that part (`Watch.Knows`).  So every entry that it reads is news to
it: nothing is posted that it has seen, and nothing withdrawn that it has not.  It reads on until an
entry leads to events, or to the end; what reading one entry preserves is preserved by reading on
(`Watch.Knows.readOn`), as long as the watch has not fallen behind by more than the segment keeps.

A watch that starts knows the whole history, and reports all that is posted (`Watch.knows_start`).
-/

namespace ServiceDiscovery

open Happening (replay)

/-- A scope pins a version to a single family that it reaches. -/
def IpScope.Pins (scope version : IpScope) : Prop :=
  ∃ f : Family, version = f.scope ∧ scope.covers f = true

/-- A posting is seen on single families. -/
theorem Posting.pins_of_mem_sightings {p : Posting} {type : String} {scope : IpScope} {k : Sighting}
    (h : k ∈ p.sightings type scope) : scope.Pins k.protocol := by
  obtain ⟨h_family, h_scope, -⟩ := mem_sightings.mp h
  rcases h_family with h_v4 | h_v6
  · exact ⟨.v4, h_v4, by rw [h_v4] at h_scope; exact h_scope⟩
  · exact ⟨.v6, h_v6, by rw [h_v6] at h_scope; exact h_scope⟩

/-- What someone is told of a happening who watches for a service type on a scope. -/
def Happening.events (type : String) (scope : IpScope) : Happening → List Event
  | posted p => (p.sightings type scope).map .appeared
  | withdrawn p => (p.sightings type scope).map .vanished

namespace Watch

/-! ### What reading leaves alone -/

/-- Whatever a watch takes in, it watches for the same, and reports sightings, each on one of the
families that it watches. -/
theorem notice_frame (h : Happening) (w : Watch) :
    (w.notice h).1.serviceType = w.serviceType ∧ (w.notice h).1.scope = w.scope ∧
      ∀ event ∈ (w.notice h).2, ∃ k : Sighting,
        w.scope.Pins k.protocol ∧ (event = .appeared k ∨ event = .vanished k) := by
  cases h with
  | posted p =>
    unfold notice
    dsimp only
    split
    · -- a posting that was seen before is no news
      exact ⟨rfl, rfl, fun _ h_mem => absurd h_mem List.not_mem_nil⟩
    · refine ⟨rfl, rfl, fun event h_mem => ?_⟩
      obtain ⟨k, hk, rfl⟩ := List.mem_map.mp h_mem
      exact ⟨k, Posting.pins_of_mem_sightings hk, .inl rfl⟩
  | withdrawn p =>
    unfold notice
    dsimp only
    split
    · refine ⟨rfl, rfl, fun event h_mem => ?_⟩
      obtain ⟨k, hk, rfl⟩ := List.mem_map.mp h_mem
      exact ⟨k, Posting.pins_of_mem_sightings hk, .inr rfl⟩
    · -- a posting that was never seen is not missed
      exact ⟨rfl, rfl, fun _ h_mem => absurd h_mem List.not_mem_nil⟩

theorem scan_frame (ahead : List Happening) (w : Watch) :
    (w.scan ahead).1.serviceType = w.serviceType ∧ (w.scan ahead).1.scope = w.scope ∧
      ∀ event ∈ (w.scan ahead).2, ∃ k : Sighting,
        w.scope.Pins k.protocol ∧ (event = .appeared k ∨ event = .vanished k) := by
  induction ahead generalizing w with
  | nil => exact ⟨rfl, rfl, fun _ h_mem => absurd h_mem List.not_mem_nil⟩
  | cons h ahead ih =>
    have h_frame := notice_frame h { w with place := w.place + 1 }
    rcases h_notice : { w with place := w.place + 1 }.notice h with ⟨w', events⟩
    rw [h_notice] at h_frame
    obtain ⟨h_type, h_scope, h_events⟩ := h_frame
    cases events with
    | nil =>
      -- nothing to tell of the entry: the rest is read by a watch for the same things
      have h_scan : w.scan (h :: ahead) = w'.scan ahead := by
        simp only [scan, h_notice]
      obtain ⟨h_type', h_scope', h_events'⟩ := ih w'
      rw [h_scan]
      exact ⟨h_type'.trans h_type, h_scope'.trans h_scope, h_scope ▸ h_events'⟩
    | cons event events =>
      have h_scan : w.scan (h :: ahead) = (w', event :: events) := by
        simp only [scan, h_notice]
      rw [h_scan]
      -- the first entry that leads to an event ends the reading
      exact ⟨h_type, h_scope, h_events⟩

theorem readOn_frame (s : Segment) (w : Watch) :
    (w.readOn s).1.serviceType = w.serviceType ∧ (w.readOn s).1.scope = w.scope ∧
      ∀ event ∈ (w.readOn s).2, ∃ k : Sighting,
        w.scope.Pins k.protocol ∧ (event = .appeared k ∨ event = .vanished k) := by
  unfold readOn
  generalize w.missed s = missed
  exact scan_frame _ { w with place := w.place + missed }

/-! ### What a watch knows -/

/-- The watch has read this part of the history. -/
structure Knows (past : List Happening) (w : Watch) : Prop where
  place : w.place = past.length
  seen : ∀ i, i ∈ w.seen ↔ i ∈ replay past

variable {past : List Happening} {w : Watch} {s : Segment}

/-- **One entry.** Whatever can happen next is news to the watch. -/
theorem Knows.notice (h_knows : w.Knows past) {h : Happening} (h_follows : h.Follows past) :
    ∃ w', { w with place := w.place + 1 }.notice h = (w', h.events w.serviceType w.scope) ∧
      w'.Knows (past ++ [h]) := by
  -- the place is the number of entries that are known
  have h_place : w.place + 1 = (past ++ [h]).length := by
    rw [h_knows.place, List.length_append, List.length_singleton]
  cases h with
  | posted p =>
    -- a posting is new: ids go up along the history
    have h_new : p.id ∉ w.seen := by
      intro h_seen
      obtain ⟨q, hq⟩ := Option.isSome_iff_exists.mp
        (Std.ExtTreeMap.mem_iff_isSome_getElem?.mp ((h_knows.seen _).mp h_seen))
      obtain ⟨h_id, h_mem⟩ := Happening.posted_of_replay hq
      have h_lt := h_follows q h_mem
      omega
    refine ⟨_, if_neg h_new, h_place, ?_⟩
    intro i
    rw [Happening.replay_concat, Happening.apply, Std.ExtTreeMap.mem_insert,
      Std.ExtTreeSet.mem_insert, h_knows.seen]
  | withdrawn p =>
    -- a withdrawal is of a posting that is there
    have h_old : p.id ∈ w.seen := by
      rw [h_knows.seen, Std.ExtTreeMap.mem_iff_isSome_getElem?, h_follows]
      rfl
    refine ⟨_, if_pos h_old, h_place, ?_⟩
    intro i
    rw [Happening.replay_concat, Happening.apply, Std.ExtTreeMap.mem_erase,
      Std.ExtTreeSet.mem_erase, h_knows.seen]

/-- Reading on through some entries: what holds without events to report, and is preserved by an
entry as long as none came up, holds where reading stops. -/
theorem Knows.scan {P : List Happening → List Event → Prop} {ahead : List Happening}
    (h_order : InOrder (past ++ ahead)) (h_knows : w.Knows past)
    (h_step : ∀ before h, before ++ [h] <+: past ++ ahead → P before [] →
      P (before ++ [h]) (h.events w.serviceType w.scope)) (h_start : P past []) :
    ∃ past' w' events, w.scan ahead = (w', events) ∧ past <+: past' ∧ past' <+: past ++ ahead ∧
      w'.Knows past' ∧ P past' events ∧ (events = [] → past' = past ++ ahead) := by
  induction ahead generalizing past w with
  | nil =>
    rw [List.append_nil]
    exact ⟨past, w, [], rfl, List.prefix_rfl, List.prefix_rfl, h_knows, h_start, fun _ => rfl⟩
  | cons h ahead ih =>
    -- the entry joins the part that is known
    have h_split : past ++ h :: ahead = (past ++ [h]) ++ ahead := by
      rw [List.append_assoc, List.singleton_append]
    have h_prefix : past ++ [h] <+: past ++ h :: ahead := by
      rw [h_split]
      exact List.prefix_append _ _
    obtain ⟨w', h_notice, h_knows'⟩ := h_knows.notice (h_order past h h_prefix)
    have h_frame := notice_frame h { w with place := w.place + 1 }
    rw [h_notice] at h_frame
    have h_type : w'.serviceType = w.serviceType := h_frame.1
    have h_scope : w'.scope = w.scope := h_frame.2.1
    have h_next := h_step past h h_prefix h_start
    cases h_events : h.events w.serviceType w.scope with
    | nil =>
      -- nobody is told of the entry, so reading goes on behind it
      have h_scan : w.scan (h :: ahead) = w'.scan ahead := by
        simp only [Watch.scan, h_notice, h_events]
      rw [h_events] at h_next
      rw [h_split] at h_order h_step ⊢
      rw [← h_type, ← h_scope] at h_step
      obtain ⟨past', w'', events, h_eq, h_after, h_rest⟩ := ih h_order h_knows' h_step h_next
      exact ⟨past', w'', events, h_scan.trans h_eq, (List.prefix_append _ _).trans h_after, h_rest⟩
    | cons event events =>
      have h_scan : w.scan (h :: ahead) = (w', event :: events) := by
        simp only [Watch.scan, h_notice, h_events]
      rw [h_events] at h_next
      -- an entry that leads to an event is the last that is read
      exact ⟨_, w', _, h_scan, List.prefix_append _ _, h_prefix, h_knows', h_next,
        fun h_nil => absurd h_nil (by simp)⟩

/-- **Reading on.** A watch that has missed nothing reads on from where it stopped. -/
theorem Knows.readOn {P : List Happening → List Event → Prop} (h_sound : s.Sound)
    (h_knows : w.Knows past) (h_past : past <+: s.history.toList) (h_near : w.unread s ≤ window)
    (h_step : ∀ before h, before ++ [h] <+: s.history.toList → P before [] →
      P (before ++ [h]) (h.events w.serviceType w.scope)) (h_start : P past []) :
    ∃ past' w' events, w.readOn s = (w', events) ∧ past <+: past' ∧
      past' <+: s.history.toList ∧ w'.Knows past' ∧ P past' events ∧
      (events = [] → past' = s.history.toList) := by
  obtain ⟨ahead, h_ahead⟩ := h_past
  -- nothing is missed, so what is read is what follows the part that is known
  have h_missed : w.missed s = 0 := Nat.sub_eq_zero_of_le h_near
  have h_read : w.readOn s = w.scan ahead := by
    have h_extract : (s.history.extract w.place).toList = ahead := by
      have h_length : s.history.size = past.length + ahead.length := by
        rw [← List.length_append, h_ahead, Array.length_toList]
      rw [Array.toList_extract, ← h_ahead, h_knows.place, List.extract_eq_take_drop,
        List.drop_left]
      refine List.take_of_length_le ?_
      omega
    unfold Watch.readOn
    rw [h_missed, Nat.add_zero]
    exact congrArg (fun entries => Watch.scan entries w) h_extract
  rw [h_read, ← h_ahead]
  rw [← h_ahead] at h_step
  have h_order := h_sound.inOrder
  rw [← h_ahead] at h_order
  exact h_knows.scan h_order h_step h_start

/-- A watch that starts knows all that has happened. -/
theorem knows_start (h_sound : s.Sound) (type : String) (scope : IpScope) :
    (start type scope s).1.Knows s.history.toList where
  place := Array.length_toList.symm
  seen := by
    -- the seen ids are those of the postings that there are at the start
    have h_many : ∀ (ps : List Posting) (seen : Std.ExtTreeSet Nat) (i : Nat),
        i ∈ ps.foldl (fun seen p => seen.insert p.id) seen ↔ i ∈ seen ∨ ∃ p ∈ ps, p.id = i := by
      intro ps
      induction ps with
      | nil => simp
      | cons p ps ih =>
        intro seen i
        rw [List.foldl_cons, ih, Std.ExtTreeSet.mem_insert, Std.LawfulEqOrd.compare_eq_iff_eq]
        simp only [List.mem_cons, exists_eq_or_imp]
        tauto
    intro i
    rw [h_sound.postings, Std.ExtTreeMap.mem_iff_isSome_getElem?, Option.isSome_iff_exists]
    refine (h_many _ _ _).trans ?_
    constructor
    · rintro (h_empty | ⟨p, h_mem, rfl⟩)
      · exact absurd h_empty Std.ExtTreeSet.not_mem_empty
      · exact ⟨p, h_sound.mem_current.mp h_mem⟩
    · rintro ⟨p, hp⟩
      obtain rfl := h_sound.id_eq hp
      exact .inr ⟨p, h_sound.mem_current.mpr hp, rfl⟩

end Watch

end ServiceDiscovery
