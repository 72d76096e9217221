import ServiceDiscovery.Proofs.Segment.Watching

/-!
# What a watch has told

Not every entry of a history reaches a watch: whoever is behind by more than the segment keeps has
missed some.  Others come twice, as a watch that starts with what is posted may read of the same
postings in the history.  So an entry is not news as such; a watch remembers the postings that it
has seen, and an entry is news if it is at odds with that (`Watch.notice`).

Whatever entries a watch reads, in whatever order, it tells of happenings in which each posting is
posted and withdrawn in turn, beginning with posted, and what was last told of a posting agrees with
what the watch has seen (`Watch.Accounts`).  A watch that starts tells of all that shows itself
(`Watch.accounts_start`), and one entry preserves that it accounts for what it told
(`Watch.reads_notice`), so reading on does (`Watch.reads_readOn`).
-/

namespace ServiceDiscovery

open Happening (replay)

/-- The posting that a happening is about. -/
def Happening.posting : Happening → Posting
  | posted p => p
  | withdrawn p => p

/-- Who tells of a happening just if its posting shows itself tells all the events. -/
theorem Happening.flatMap_events (x : Happening) (type : String) (scope : IpScope) :
    (if x.posting.sightings type scope = [] then [] else [x]).flatMap (·.events type scope) =
      x.events type scope := by
  split
  · next h_hidden =>
    cases x <;> exact (congrArg (List.map _) h_hidden).symm
  · exact List.flatMap_singleton ..

/-- The first so many of the happenings of a posting that is posted and withdrawn in turn. -/
def Posting.turns (p : Posting) (n : Nat) : List Happening :=
  (List.range n).map fun i => if i % 2 = 0 then .posted p else .withdrawn p

theorem Posting.turns_succ (p : Posting) (n : Nat) :
    p.turns (n + 1) = p.turns n ++ [if n % 2 = 0 then .posted p else .withdrawn p] := by
  simp [turns, List.range_succ]

/-! ### Histories in order -/

namespace InOrder

variable {history : List Happening}

/-- Only what was posted is withdrawn. -/
theorem posted_of_mem (h : InOrder history) {x : Happening} (hx : x ∈ history) :
    .posted x.posting ∈ history := by
  cases x with
  | posted p => exact hx
  | withdrawn p =>
    obtain ⟨past, rest, rfl⟩ := List.append_of_mem hx
    have h_follows : (replay past)[p.id]? = some p := h past (.withdrawn p) (by simp)
    exact List.mem_append_left _ (Happening.posted_of_replay h_follows).2

/-- Each posting has a number of its own. -/
theorem eq_of_id (h : InOrder history) {p q : Posting} (hp : .posted p ∈ history)
    (hq : .posted q ∈ history) (h_id : p.id = q.id) : p = q := by
  -- ids go up along the history, so the second cannot stand before or after the first
  obtain ⟨past, rest, rfl⟩ := List.append_of_mem hp
  rcases List.mem_append.mp hq with h_before | h_after
  · have h_lt : q.id < p.id := h past (.posted p) (by simp) q h_before
    omega
  · rcases List.mem_cons.mp h_after with h_eq | h_rest
    · exact (Happening.posted.inj h_eq).symm
    · obtain ⟨between, rest, rfl⟩ := List.append_of_mem h_rest
      have h_lt : p.id < q.id :=
        h (past ++ .posted p :: between) (.posted q) (by simp) p (by simp)
      omega

end InOrder

/-! ### What is shown at the start -/

namespace Segment

/-- The postings that show themselves to those who watch for a service type on a scope. -/
def shown (type : String) (scope : IpScope) (s : Segment) : List Posting :=
  s.current.filter fun p => !(p.sightings type scope).isEmpty

namespace Sound

variable {s : Segment} {p : Posting}

theorem posted_of_current (h : s.Sound) (hp : p ∈ s.current) : .posted p ∈ s.history.toList := by
  rw [h.mem_current, ← h.postings] at hp
  exact (Happening.posted_of_replay hp).2

/-- Of what is shown, a number stands for the posting that has it, if that is there and shows
itself. -/
theorem filter_shown (h : s.Sound) (hp : .posted p ∈ s.history.toList) (type : String)
    (scope : IpScope) [Decidable (p ∈ s.current ∧ p.sightings type scope ≠ [])] :
    (s.shown type scope).filter (·.id = p.id) =
      if p ∈ s.current ∧ p.sightings type scope ≠ [] then [p] else [] := by
  refine eq_of_ordered ((h.ordered_current.filter _).filter _) ?_ fun q => ?_
  · split <;> simp
  · rw [List.mem_filter, shown, List.mem_filter, decide_eq_true_eq]
    constructor
    · rintro ⟨⟨hq, h_shows⟩, h_id⟩
      -- it has the number of the posting, so it is the posting
      obtain rfl := h.inOrder.eq_of_id (h.posted_of_current hq) hp h_id
      rw [if_pos ⟨hq, by simpa using h_shows⟩]
      exact List.mem_singleton_self q
    · intro hq
      split at hq
      · next h_there =>
        obtain rfl := List.mem_singleton.mp hq
        exact ⟨⟨h_there.1, by simpa using h_there.2⟩, rfl⟩
      · exact absurd hq List.not_mem_nil

end Sound
end Segment

/-! ### What a watch has told -/

namespace Watch

/-- What was told, by someone who watches a segment with this history: each posting was posted and
withdrawn in turn, and last posted just if it is among what the watch has seen and shows itself. -/
structure Accounts (history told : List Happening) (w : Watch) : Prop where
  posted : ∀ x ∈ told, .posted x.posting ∈ history
  seen : ∀ i ∈ w.seen, ∃ p, .posted p ∈ history ∧ p.id = i
  turns : ∀ p, .posted p ∈ history → ∃ n, told.filter (·.posting.id = p.id) = p.turns n ∧
    (n % 2 = 1 ↔ p.id ∈ w.seen ∧ p.sightings w.serviceType w.scope ≠ [])

variable {history told : List Happening} {w w' : Watch}

namespace Accounts

/-- A history that goes on. -/
theorem later (h : w.Accounts history told) {history' : List Happening}
    (h_history : history <+: history') (h_order : InOrder history') :
    w.Accounts history' told where
  posted x hx := h_history.subset (h.posted x hx)
  seen i hi := by
    obtain ⟨p, hp, h_id⟩ := h.seen i hi
    exact ⟨p, h_history.subset hp, h_id⟩
  turns p hp := by
    by_cases h_old : .posted p ∈ history
    · exact h.turns p h_old
    · -- nothing can have been told of it, and it cannot have been seen
      have h_new : ∀ q, .posted q ∈ history → q.id ≠ p.id := fun q hq h_id =>
        h_old (h_order.eq_of_id (h_history.subset hq) hp h_id ▸ hq)
      refine ⟨0, ?_, ?_⟩
      · refine List.filter_eq_nil_iff.mpr fun x hx => ?_
        simpa using h_new x.posting (h.posted x hx)
      · refine iff_of_false (by decide) fun h_seen => ?_
        obtain ⟨q, hq, h_id⟩ := h.seen p.id h_seen.1
        exact h_new q hq h_id

/-- **Telling news.** A watch takes a posting in among what it has seen, or forgets it, and tells so
if the posting shows itself. -/
theorem tell (h : w.Accounts history told) (h_order : InOrder history) {x : Happening}
    (hx : .posted x.posting ∈ history) (h_type : w'.serviceType = w.serviceType)
    (h_scope : w'.scope = w.scope)
    (h_others : ∀ i, i ≠ x.posting.id → (i ∈ w'.seen ↔ i ∈ w.seen))
    (h_news : x = .posted x.posting ∧ x.posting.id ∉ w.seen ∧ x.posting.id ∈ w'.seen ∨
      x = .withdrawn x.posting ∧ x.posting.id ∈ w.seen ∧ x.posting.id ∉ w'.seen) :
    w'.Accounts history
      (told ++ if x.posting.sightings w.serviceType w.scope = [] then [] else [x]) where
  posted y hy := by
    rcases List.mem_append.mp hy with hy | hy
    · exact h.posted y hy
    · split at hy
      · exact absurd hy List.not_mem_nil
      · exact List.mem_singleton.mp hy ▸ hx
  seen i hi := by
    -- the posting that this is about is seen or not, but it was posted
    by_cases h_eq : i = x.posting.id
    · exact ⟨x.posting, hx, h_eq.symm⟩
    · exact h.seen i ((h_others i h_eq).mp hi)
  turns p hp := by
    -- only the entries about `p` count, and the news is about one posting
    obtain ⟨n, h_filter, h_odd⟩ := h.turns p hp
    rw [h_type, h_scope, List.filter_append, h_filter]
    by_cases h_id : x.posting.id = p.id
    · obtain rfl := h_order.eq_of_id hx hp h_id
      by_cases h_hidden : x.posting.sightings w.serviceType w.scope = []
      · -- nothing is told, as before
        rw [if_pos h_hidden, List.filter_nil, List.append_nil]
        exact ⟨n, rfl, h_odd.trans (iff_of_false (·.2 h_hidden) (·.2 h_hidden))⟩
      · -- it is told of, and the last that was told of it is the opposite
        have h_odd' : n % 2 = 1 ↔ x.posting.id ∈ w.seen :=
          h_odd.trans (and_iff_left h_hidden)
        rw [if_neg h_hidden, List.filter_cons_of_pos (by simp), List.filter_nil]
        rcases h_news with ⟨h_x, h_unseen, h_seen'⟩ | ⟨h_x, h_seen, h_unseen'⟩
        · have h_even : n % 2 = 0 := by
            have h_not := h_odd'.not.mpr h_unseen
            omega
          refine ⟨n + 1, ?_, iff_of_true (by omega) ⟨h_seen', h_hidden⟩⟩
          rw [Posting.turns_succ, if_pos h_even, ← h_x]
        · have h_one : n % 2 = 1 := h_odd'.mpr h_seen
          refine ⟨n + 1, ?_, iff_of_false (by omega) fun h_both => h_unseen' h_both.1⟩
          rw [Posting.turns_succ, if_neg (by omega), ← h_x]
    · -- news of another posting changes nothing
      refine ⟨n, ?_, ?_⟩
      · split <;> simp [h_id]
      · rw [h_others p.id (Ne.symm h_id)]
        exact h_odd

end Accounts

/-- Where the watch takes in what it reads, some events come up that account for what it tells. -/
structure Reads (history : List Happening) (w w' : Watch) (events : List Event) : Prop where
  serviceType : w'.serviceType = w.serviceType
  scope : w'.scope = w.scope
  accounts : ∀ told, w.Accounts history told → ∃ news, w'.Accounts history (told ++ news) ∧
    events = news.flatMap (·.events w.serviceType w.scope)

/-- Where it reads does not matter for what a watch accounts for. -/
theorem Accounts.of_place (h : w.Accounts history told) (place : Nat) :
    { w with place }.Accounts history told :=
  ⟨h.posted, h.seen, h.turns⟩

theorem Reads.nothing {place : Nat} : Reads history w { w with place } [] where
  serviceType := rfl
  scope := rfl
  accounts told h := ⟨[], by rw [List.append_nil]; exact h.of_place place, rfl⟩

theorem Reads.trans {w'' : Watch} {events events' : List Event} (h : Reads history w w' events)
    (h' : Reads history w' w'' events') : Reads history w w'' (events ++ events') where
  serviceType := h'.serviceType.trans h.serviceType
  scope := h'.scope.trans h.scope
  accounts told h_told := by
    obtain ⟨news, h_news, rfl⟩ := h.accounts told h_told
    obtain ⟨news', h_news', rfl⟩ := h'.accounts _ h_news
    rw [List.append_assoc] at h_news'
    exact ⟨news ++ news', h_news', by rw [List.flatMap_append, h.serviceType, h.scope]⟩

/-- **One entry.** Whatever entry of the history reaches a watch, and whenever it does. -/
theorem reads_notice (h_order : InOrder history) {x : Happening} (hx : x ∈ history) (w : Watch) :
    Reads history w (w.notice x).1 (w.notice x).2 := by
  have h_frame := w.notice_frame x
  refine ⟨h_frame.1, h_frame.2.1, fun told h_told => ?_⟩
  have h_posted := h_order.posted_of_mem hx
  have h_events := x.flatMap_events w.serviceType w.scope
  -- a posting is news when it was not seen, a withdrawal when it was
  cases x with
  | posted p =>
    unfold notice
    dsimp only
    split
    · exact ⟨[], by rw [List.append_nil]; exact h_told, rfl⟩
    · next h_unseen =>
      refine ⟨_, h_told.tell h_order h_posted rfl rfl (fun i h_ne => ?_) (.inl ⟨rfl, h_unseen, ?_⟩),
        h_events.symm⟩
      · rw [Std.ExtTreeSet.mem_insert, Std.LawfulEqOrd.compare_eq_iff_eq]
        exact or_iff_right (Ne.symm h_ne)
      · exact Std.ExtTreeSet.mem_insert_self
  | withdrawn p =>
    unfold notice
    dsimp only
    split
    · next h_seen =>
      refine ⟨_, h_told.tell h_order h_posted rfl rfl (fun i h_ne => ?_) (.inr ⟨rfl, h_seen, ?_⟩),
        h_events.symm⟩
      · rw [Std.ExtTreeSet.mem_erase, Ne, Std.LawfulEqOrd.compare_eq_iff_eq]
        exact and_iff_right (Ne.symm h_ne)
      · simp [Happening.posting]
    · exact ⟨[], by rw [List.append_nil]; exact h_told, rfl⟩

theorem reads_scan (h_order : InOrder history) {ahead : List Happening}
    (h_ahead : ∀ x ∈ ahead, x ∈ history) (w : Watch) :
    Reads history w (w.scan ahead).1 (w.scan ahead).2 := by
  -- reading goes on behind an entry that nobody is told of
  induction ahead generalizing w with
  | nil => exact .nothing
  | cons x ahead ih =>
    have h_first : Reads history w _ _ :=
      Reads.nothing.trans
        (reads_notice h_order (h_ahead x (by simp)) { w with place := w.place + 1 })
    rcases h_notice : { w with place := w.place + 1 }.notice x with ⟨w', events⟩
    rw [h_notice, List.nil_append] at h_first
    cases events with
    | nil =>
      have h_scan : w.scan (x :: ahead) = w'.scan ahead := by simp only [scan, h_notice]
      rw [h_scan]
      exact h_first.trans (ih (fun y hy => h_ahead y (List.mem_cons_of_mem x hy)) w')
    | cons event events =>
      have h_scan : w.scan (x :: ahead) = (w', event :: events) := by simp only [scan, h_notice]
      rw [h_scan]
      exact h_first

/-- **Reading on**, however much was missed. -/
theorem reads_readOn {s : Segment} (h_order : InOrder s.history.toList) (w : Watch) :
    Reads s.history.toList w (w.readOn s).1 (w.readOn s).2 := by
  -- what is read is a part of the history
  have h_ahead : ∀ i, ∀ x ∈ (s.history.extract i).toList, x ∈ s.history.toList := by
    intro i x hx
    rw [Array.toList_extract, List.extract_eq_take_drop] at hx
    exact List.mem_of_mem_drop (List.mem_of_mem_take hx)
  unfold readOn
  generalize w.missed s = missed
  have h_scan := reads_scan h_order (h_ahead (w.place + missed)) { w with place := w.place + missed }
  exact Reads.nothing.trans h_scan

/-! #### The start -/

theorem start_events (type : String) (scope : IpScope) (s : Segment) :
    (start type scope s).2 =
      ((s.shown type scope).map Happening.posted).flatMap (·.events type scope) := by
  change s.current.flatMap (fun p => (p.sightings type scope).map Event.appeared) = _
  rw [List.flatMap_map, Segment.shown]
  induction s.current with
  | nil => rfl
  | cons p ps ih =>
    rw [List.flatMap_cons, ih, List.filter_cons]
    split
    · -- a posting in view is told of
      rfl
    · -- one that is not leads to no event
      next h_hidden =>
      have h_nil : p.sightings type scope = [] := by simpa using h_hidden
      simp [h_nil]

/-- A posting has been seen at the start if it is there. -/
theorem mem_start_seen {s : Segment} (h_sound : s.Sound) (type : String) (scope : IpScope)
    {i : Nat} : i ∈ (start type scope s).1.seen ↔ ∃ p ∈ s.current, p.id = i := by
  rw [(knows_start h_sound type scope).seen, h_sound.postings,
    Std.ExtTreeMap.mem_iff_isSome_getElem?, Option.isSome_iff_exists]
  constructor
  · rintro ⟨p, hp⟩
    exact ⟨p, Segment.mem_current.mpr ⟨i, hp⟩, h_sound.id_eq hp⟩
  · rintro ⟨p, hp, rfl⟩
    exact ⟨p, h_sound.mem_current.mp hp⟩

/-- **Starting.** A watch that starts tells of everything that shows itself. -/
theorem accounts_start {s : Segment} (h_sound : s.Sound) (type : String) (scope : IpScope) :
    (start type scope s).1.Accounts s.history.toList
      ((s.shown type scope).map Happening.posted) where
  posted x hx := by
    obtain ⟨p, hp, rfl⟩ := List.mem_map.mp hx
    exact h_sound.posted_of_current (List.mem_filter.mp hp).1
  seen i hi := by
    obtain ⟨p, hp, h_id⟩ := (mem_start_seen h_sound type scope).mp hi
    exact ⟨p, h_sound.posted_of_current hp, h_id⟩
  turns p hp := by
    -- `n` is one for what is in view at the start and zero for the rest
    classical
    have h_seen : p.id ∈ (start type scope s).1.seen ↔ p ∈ s.current := by
      rw [mem_start_seen h_sound]
      refine ⟨fun ⟨q, hq, h_id⟩ => ?_, fun hp => ⟨p, hp, rfl⟩⟩
      exact h_sound.inOrder.eq_of_id (h_sound.posted_of_current hq) hp h_id ▸ hq
    have h_filter : ((s.shown type scope).map Happening.posted).filter (·.posting.id = p.id) =
        ((s.shown type scope).filter (·.id = p.id)).map Happening.posted := List.filter_map ..
    rw [h_filter, h_sound.filter_shown hp, h_seen]
    split
    · next h_shown => exact ⟨1, rfl, iff_of_true rfl h_shown⟩
    · next h_hidden => exact ⟨0, rfl, iff_of_false (by decide) h_hidden⟩

end Watch

end ServiceDiscovery
