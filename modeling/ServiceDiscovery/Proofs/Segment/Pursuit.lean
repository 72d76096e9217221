import ServiceDiscovery.Discovery.Sweep
import ServiceDiscovery.Proofs.Segment.Watching
import ServiceDiscovery.Segment.Member

/-!
# Keeping up with a segment

A sweep for servers learns what happens on a segment through a queue of events, while the segment
changes: some postings are known to it, some are live, and neither set need contain the other.
`Sweep.Abreast` says how far a sweep is.

* Every event in the queue is warranted (`Sweep.Warranted`).  A sighting that appeared is that of a
  posting that is known, and not listed yet; one that vanished is that of none.  A resolution that
  succeeded gives the contact of the posting that is known, unless that is not live any more, and
  then its withdrawal is still to be read.
* No two events decide about the same sighting (`Sweep.subject?`), so nothing that is done for one
  of them is undone by another.
* A sighting that no event is going to decide about is listed as its posting says, if that is known
  and live; it is not listed if no posting that is known has it.

Taking in the first event preserves this, whatever the event is; so does reading one more entry of
the history once the queue is empty, and whatever happens on the segment meanwhile.
-/

namespace ServiceDiscovery

/-- The posting is among these, and someone who looks for servers on a scope sees it so. -/
def SeenAs (postings : Std.ExtTreeMap Nat Posting) (scope : IpScope) (k : Sighting)
    (p : Posting) : Prop :=
  postings[p.id]? = some p ∧ k ∈ p.sightings serverType scope

theorem SeenAs.unique {postings : Std.ExtTreeMap Nat Posting} {scope : IpScope} {k : Sighting}
    {p q : Posting} (h : Distinct postings) (hp : SeenAs postings scope k p)
    (hq : SeenAs postings scope k q) : p = q := by
  -- the two offer the same key, so they bear the same id
  have h_id : p.id = q.id := h _ _ _ _ k hp.1 hq.1 (Posting.mem_keys_of_sightings hp.2)
    (Posting.mem_keys_of_sightings hq.2)
  have h_there := hp.1
  rw [h_id, hq.1] at h_there
  exact (Option.some.inj h_there).symm

/-- An event that is not about a sighting, and never wrong. -/
def Event.Quiet : Event → Prop
  | established => True
  | cacheExhausted => True
  | allForNow => True
  | _ => False

namespace Sweep

/-! ### How far a sweep is -/

/-- The sighting that an event decides about. -/
def subject? (s : Sweep) : Event → Option Sighting
  | .appeared k => some k
  | .vanished k => some k
  | .found id _ => s.outstanding[id]?
  | .unresolved id _ => s.outstanding[id]?
  | _ => none

/-- What is right about an event, given what is known and what is live. -/
def Warranted (known live : Std.ExtTreeMap Nat Posting) (scope : IpScope) (s : Sweep) : Event → Prop
  | .appeared k => (∃ p, SeenAs known scope k p) ∧ s.directory.get? k = none
  | .vanished k => ∀ p, ¬ SeenAs known scope k p
  | .found id contact => ∃ k p, s.outstanding[id]? = some k ∧ SeenAs known scope k p ∧
      s.directory.get? k = none ∧ (live[p.id]? = some p → contact = p.contact k.protocol)
  | .unresolved id _ => ∃ k p, s.outstanding[id]? = some k ∧ SeenAs known scope k p ∧
      s.directory.get? k = none ∧ live[p.id]? ≠ some p
  | event => event.Quiet

/-- The sightings that the events of a queue decide about. -/
def subjects (s : Sweep) (queue : List Event) : List Sighting := queue.filterMap s.subject?

/-- The sweep will know what is known once it has taken in the queue. -/
structure Abreast (known live : Std.ExtTreeMap Nat Posting) (scope : IpScope) (queue : List Event)
    (s : Sweep) : Prop where
  warranted : ∀ event ∈ queue, Warranted known live scope s event
  once : (s.subjects queue).Nodup
  /-- What is outstanding is going to end. -/
  ends : ∀ (id : Nat) (k : Sighting), s.outstanding[id]? = some k →
    ∃ event ∈ queue, event.resolution? = some id
  listed : ∀ k, k ∉ s.subjects queue → ∀ p, SeenAs known scope k p → live[p.id]? = some p →
    s.directory.get? k = listing? k (p.contact k.protocol)
  unlisted : ∀ k, k ∉ s.subjects queue → (∀ p, ¬ SeenAs known scope k p) →
    s.directory.get? k = none

variable {known live : Std.ExtTreeMap Nat Posting} {scope : IpScope} {s s' : Sweep}
  {event : Event} {queue rest : List Event}

/-! ### Events and the tables of a sweep -/

theorem subject?_of_quiet (h : event.Quiet) : s.subject? event = none := by
  cases event <;> first | rfl | exact absurd h id

theorem resolution?_of_quiet (h : event.Quiet) : event.resolution? = none := by
  cases event <;> first | rfl | exact absurd h id

theorem subject?_of_resolution? {id : Nat} (h : event.resolution? = some id) :
    s.subject? event = s.outstanding[id]? := by
  cases event <;> simp_all [Event.resolution?, subject?]

/-- What an event decides about depends on the resolution that it ends, if any. -/
theorem subject?_congr (h : ∀ id, event.resolution? = some id →
    s'.outstanding[id]? = s.outstanding[id]?) : s'.subject? event = s.subject? event := by
  cases event with
  | found id contact => exact h id rfl
  | unresolved id reason => exact h id rfl
  | _ => rfl

theorem subjects_congr (h : ∀ event ∈ queue, ∀ id, event.resolution? = some id →
    s'.outstanding[id]? = s.outstanding[id]?) : s'.subjects queue = s.subjects queue :=
  List.filterMap_congr fun event h_mem => subject?_congr (h event h_mem)

theorem mem_subjects_of_resolution? {id : Nat} {k : Sighting} (h_mem : event ∈ queue)
    (h : event.resolution? = some id) (h_out : s.outstanding[id]? = some k) :
    k ∈ s.subjects queue :=
  List.mem_filterMap.mpr ⟨event, h_mem, by rw [subject?_of_resolution? h, h_out]⟩

/-- What is right about an event depends on the sighting that it decides about, and on the
resolution that it ends. -/
theorem Warranted.congr (h : Warranted known live scope s event)
    (h_out : ∀ id, event.resolution? = some id → s'.outstanding[id]? = s.outstanding[id]?)
    (h_dir : ∀ k, s.subject? event = some k → s'.directory.get? k = s.directory.get? k) :
    Warranted known live scope s' event := by
  cases event with
  | appeared k => exact ⟨h.1, (h_dir k rfl).trans h.2⟩
  | vanished k => exact h
  | found id contact =>
    -- which sighting it is, and that it is not listed, are all that is read of the sweep
    obtain ⟨k, p, h_k, h_seen, h_none, h_live⟩ := h
    exact ⟨k, p, (h_out id rfl).trans h_k, h_seen, (h_dir k h_k).trans h_none, h_live⟩
  | unresolved id reason =>
    obtain ⟨k, p, h_k, h_seen, h_none, h_live⟩ := h
    exact ⟨k, p, (h_out id rfl).trans h_k, h_seen, (h_dir k h_k).trans h_none, h_live⟩
  | _ => exact h

theorem Warranted.of_quiet (h : event.Quiet) : Warranted known live scope s event := by
  cases event <;> first | exact h | exact absurd h id

/-- A resolution that a warranted event ends is outstanding. -/
theorem Warranted.outstanding (h : Warranted known live scope s event) {id : Nat}
    (h_id : event.resolution? = some id) : ∃ k, s.outstanding[id]? = some k := by
  cases event with
  | found id' contact =>
    obtain rfl := Option.some.inj h_id
    obtain ⟨k, -, h_k, -⟩ := h
    exact ⟨k, h_k⟩
  | unresolved id' reason =>
    obtain rfl := Option.some.inj h_id
    obtain ⟨k, -, h_k, -⟩ := h
    exact ⟨k, h_k⟩
  | _ => exact absurd h_id (by simp [Event.resolution?])

/-! ### Taking in the first event -/

namespace Abreast

/-- An event that is not about a sighting can be passed over. -/
theorem skip (h : Abreast known live scope (event :: rest) s) (h_quiet : event.Quiet)
    (h_out : s'.outstanding = s.outstanding) (h_dir : s'.directory = s.directory) :
    Abreast known live scope rest s' := by
  -- a quiet event decides about nothing
  have h_same : s'.subjects rest = s.subjects rest := subjects_congr fun _ _ id _ => by rw [h_out]
  have h_cons : s.subjects (event :: rest) = s.subjects rest :=
    List.filterMap_cons_none (subject?_of_quiet h_quiet)
  have h_subjects : s'.subjects rest = s.subjects (event :: rest) := h_same.trans h_cons.symm
  refine ⟨?_, ?_, ?_, ?_, ?_⟩
  · intro e h_mem
    refine (h.warranted e (List.mem_cons_of_mem _ h_mem)).congr ?_ ?_
    · exact fun id _ => by rw [h_out]
    · exact fun k _ => by rw [h_dir]
  · rw [h_subjects]
    exact h.once
  · intro id k h_some
    rw [h_out] at h_some
    obtain ⟨e, h_mem, h_id⟩ := h.ends id k h_some
    rcases List.mem_cons.mp h_mem with rfl | h_mem
    · -- the event that is gone has ended no resolution
      rw [resolution?_of_quiet h_quiet] at h_id
      exact absurd h_id (by simp)
    · exact ⟨e, h_mem, h_id⟩
  · rw [h_subjects, h_dir]
    exact h.listed
  · rw [h_subjects, h_dir]
    exact h.unlisted

/-- **Deciding.** An event decides about its sighting if the tables stay the same but for that
sighting and for the resolution that the event ends, and the sighting is listed as it should be. -/
theorem decide (h : Abreast known live scope (event :: rest) s) {k : Sighting}
    (h_subject : s.subject? event = some k)
    (h_out : ∀ id, event.resolution? ≠ some id → s'.outstanding[id]? = s.outstanding[id]?)
    (h_gone : ∀ id, event.resolution? = some id → s'.outstanding[id]? = none)
    (h_dir : ∀ k', k' ≠ k → s'.directory.get? k' = s.directory.get? k')
    (h_listed : ∀ p, SeenAs known scope k p → live[p.id]? = some p →
      s'.directory.get? k = listing? k (p.contact k.protocol))
    (h_unlisted : (∀ p, ¬ SeenAs known scope k p) → s'.directory.get? k = none) :
    Abreast known live scope rest s' := by
  have h_cons : s.subjects (event :: rest) = k :: s.subjects rest :=
    List.filterMap_cons_some h_subject
  have h_once := h.once
  rw [h_cons] at h_once
  obtain ⟨h_not, h_nodup⟩ := List.nodup_cons.mp h_once
  -- no other event ends the same resolution, since it would decide about the same sighting
  have h_same : ∀ e ∈ rest, ∀ id, e.resolution? = some id →
      s'.outstanding[id]? = s.outstanding[id]? := by
    intro e h_mem id h_id
    refine h_out id fun h_event => h_not ?_
    rw [subject?_of_resolution? h_event] at h_subject
    exact mem_subjects_of_resolution? h_mem h_id h_subject
  have h_subjects : s'.subjects rest = s.subjects rest := subjects_congr h_same
  refine ⟨?_, ?_, ?_, ?_, ?_⟩
  · -- what is still queued is about other sightings
    intro e h_mem
    refine (h.warranted e (List.mem_cons_of_mem _ h_mem)).congr (h_same e h_mem) ?_
    intro k' h_k'
    refine h_dir k' ?_
    rintro rfl
    exact h_not (List.mem_filterMap.mpr ⟨e, h_mem, h_k'⟩)
  · rw [h_subjects]
    exact h_nodup
  · intro id k' h_some
    -- the resolution that the event ends is waited for no longer
    have h_ne : event.resolution? ≠ some id := by
      intro h_id
      rw [h_gone id h_id] at h_some
      exact absurd h_some (by simp)
    rw [h_out id h_ne] at h_some
    obtain ⟨e, h_mem, h_id⟩ := h.ends id k' h_some
    rcases List.mem_cons.mp h_mem with rfl | h_mem
    · exact absurd h_id h_ne
    · exact ⟨e, h_mem, h_id⟩
  · intro k' h_k' p h_seen h_live
    rw [h_subjects] at h_k'
    -- the sighting is the one that the event decides about, or nothing has changed about it
    by_cases h_eq : k' = k
    · subst h_eq
      exact h_listed p h_seen h_live
    · rw [h_dir k' h_eq]
      refine h.listed k' ?_ p h_seen h_live
      rw [h_cons]
      exact fun h_mem => (List.mem_cons.mp h_mem).elim h_eq h_k'
  · intro k' h_k' h_none
    rw [h_subjects] at h_k'
    by_cases h_eq : k' = k
    · subst h_eq
      exact h_unlisted h_none
    · rw [h_dir k' h_eq]
      refine h.unlisted k' ?_ h_none
      rw [h_cons]
      exact fun h_mem => (List.mem_cons.mp h_mem).elim h_eq h_k'

/-- A sighting that vanished is struck off. -/
theorem vanish {k : Sighting} (h : Abreast known live scope (.vanished k :: rest) s) :
    Abreast known live scope rest { s with directory := s.directory.erase k } := by
  -- after the event the sighting is not listed, and nothing known offers it
  have h_none : (s.directory.erase k).get? k = none := by
    rw [Directory.get?_erase, if_pos rfl]
  refine h.decide rfl (fun _ _ => rfl) (fun _ h_id => absurd h_id (by simp [Event.resolution?]))
    ?_ ?_ fun _ => h_none
  · intro k' h_ne
    rw [Directory.get?_erase, if_neg h_ne.symm]
  · intro p h_seen
    exact absurd h_seen (h.warranted _ (List.mem_cons_self ..) p)

variable {σ : Type} [Engine σ]

/-- The end of a resolution decides about what was resolved. -/
theorem conclude (h : Abreast known live scope (event :: rest) s) {id : Nat} {k : Sighting}
    (h_id : event.resolution? = some id) (h_out : s.outstanding[id]? = some k)
    (contact? : Option Contact) (e : σ) {p : Posting} (h_known : Distinct known)
    (h_seen : SeenAs known scope k p) (h_none : s.directory.get? k = none)
    (h_contact : live[p.id]? = some p →
      contact?.bind (listing? k) = listing? k (p.contact k.protocol)) :
    Abreast known live scope rest (s.conclude id contact? e).1 := by
  -- the listing is that of the contact, since there was none before
  have h_get : (s.conclude id contact? e).1.directory.get? k = contact?.bind (listing? k) := by
    rw [get?_conclude, if_pos h_out, h_none, Option.or_none]
  refine h.decide ((subject?_of_resolution? h_id).trans h_out) ?_ ?_ ?_ ?_ ?_
  · -- the other resolutions go on
    intro id' h_ne
    rw [getElem?_outstanding_conclude, if_neg]
    rintro rfl
    exact h_ne h_id
  · -- the one that the event ends is over
    intro id' h_id'
    rw [getElem?_outstanding_conclude, if_pos]
    exact Option.some.inj (h_id.symm.trans h_id')
  · -- the entries of other sightings stay
    intro k' h_ne
    rw [get?_conclude, if_neg]
    intro h_out'
    exact h_ne (Option.some.inj (h_out'.symm.trans h_out))
  · -- what is known to offer the sighting is `p`, and its contact is what was found
    intro q h_seen' h_live
    obtain rfl := h_seen.unique h_known h_seen'
    rw [h_get, h_contact h_live]
  · -- `p` is known, so something is seen
    intro h_unseen
    exact absurd h_seen (h_unseen p)

/-- A resolution that succeeded gives the contact of the posting that is known. -/
theorem found {id : Nat} {contact : Contact}
    (h : Abreast known live scope (.found id contact :: rest) s)
    (h_known : Distinct known) (e : σ) :
    Abreast known live scope rest (s.conclude id (some contact) e).1 := by
  obtain ⟨k, p, h_out, h_seen, h_none, h_contact⟩ := h.warranted _ (List.mem_cons_self ..)
  refine h.conclude rfl h_out (some contact) e h_known h_seen h_none fun h_live => ?_
  rw [h_contact h_live, Option.bind_some]

/-- A resolution that failed was about a posting that is not live. -/
theorem unresolved {id : Nat} {reason : String}
    (h : Abreast known live scope (.unresolved id reason :: rest) s) (h_known : Distinct known)
    (e : σ) : Abreast known live scope rest (s.conclude id none e).1 := by
  obtain ⟨k, p, h_out, h_seen, h_none, h_dead⟩ := h.warranted _ (List.mem_cons_self ..)
  exact h.conclude rfl h_out none e h_known h_seen h_none fun h_live => absurd h_live h_dead

end Abreast

/-- The end of a resolution on a segment. -/
theorem resolution?_resolution (segment : Segment) (id : Nat) (k : Sighting) (protocol : IpScope) :
    (Seat.resolution segment id k protocol).resolution? = some id := by
  unfold Seat.resolution
  split <;> rfl

/-- What a resolution ends in on a segment is right at that moment. -/
theorem warranted_resolution {segment : Segment} (h_sound : segment.Sound)
    (h_live : Distinct segment.postings) {id : Nat} {k : Sighting}
    (h_out : s.outstanding[id]? = some k) (h_seen : ∃ p, SeenAs known scope k p)
    (h_none : s.directory.get? k = none) :
    Warranted known segment.postings scope s (Seat.resolution segment id k k.protocol) := by
  obtain ⟨p, h_seen⟩ := h_seen
  have h_family := (Posting.mem_sightings.mp h_seen.2).1
  -- the posting that is known is found if it is still there, as nothing else has this key
  have h_find : segment.postings[p.id]? = some p → segment.find? k k.protocol = some p := by
    intro h_there
    exact (h_sound.find?_eq_some_iff h_live h_family).mpr
      ⟨h_there, Posting.mem_keys_of_sightings h_seen.2⟩
  unfold Seat.resolution
  cases h_case : segment.find? k k.protocol with
  -- it is found, and its contact is what was found
  | some q =>
    refine ⟨k, p, h_out, h_seen, h_none, fun h_there => ?_⟩
    rw [Option.some.inj (h_case.symm.trans (h_find h_there))]
  | none =>
    -- it is not found, so it is not there any more
    refine ⟨k, p, h_out, h_seen, h_none, fun h_there => ?_⟩
    rw [h_find h_there] at h_case
    exact absurd h_case (by simp)

/-- A sighting that appeared is resolved, and the end of the resolution comes up last. -/
theorem Abreast.resolve {segment : Segment} (h_sound : segment.Sound)
    (h_live : Distinct segment.postings) {k : Sighting}
    (h : Abreast known segment.postings scope (.appeared k :: rest) s) {id : Nat}
    (h_fresh : ∀ (id' : Nat) (k' : Sighting), s.outstanding[id']? = some k' → id' < id) :
    Abreast known segment.postings scope (rest ++ [Seat.resolution segment id k k.protocol])
      { s with outstanding := s.outstanding.insert id k } := by
  generalize h_next : ({ s with outstanding := s.outstanding.insert id k } : Sweep) = s'
  -- but for the new number the table is the old one
  have h_get : ∀ id', s'.outstanding[id']? = if id = id' then some k else s.outstanding[id']? := by
    intro id'
    rw [← h_next, Std.ExtTreeMap.getElem?_insert]
    simp only [Std.LawfulEqOrd.compare_eq_iff_eq]
  have h_dir : s'.directory = s.directory := by rw [← h_next]
  have h_new : s'.outstanding[id]? = some k := by rw [h_get, if_pos rfl]
  have h_id := resolution?_resolution segment id k k.protocol
  obtain ⟨h_seen, h_none⟩ := h.warranted _ (List.mem_cons_self ..)
  -- the number is new, so the events in the queue end other resolutions
  have h_same : ∀ e ∈ rest, ∀ id', e.resolution? = some id' →
      s'.outstanding[id']? = s.outstanding[id']? := by
    intro e h_mem id' h_id'
    obtain ⟨k', h_k'⟩ := (h.warranted e (List.mem_cons_of_mem _ h_mem)).outstanding h_id'
    rw [h_get, if_neg (Nat.ne_of_gt (h_fresh id' k' h_k'))]
  have h_subjects : s'.subjects (rest ++ [Seat.resolution segment id k k.protocol]) =
      s.subjects rest ++ [k] := by
    have h_last : s'.subject? (Seat.resolution segment id k k.protocol) = some k := by
      rw [subject?_of_resolution? h_id, h_new]
    rw [subjects, List.filterMap_append, List.filterMap_cons_some h_last, List.filterMap_nil]
    exact congrArg (· ++ [k]) (subjects_congr h_same)
  -- what nothing decides about now, nothing did before
  have h_mem_subjects : ∀ k', k' ∉ s'.subjects (rest ++ [Seat.resolution segment id k k.protocol]) →
      k' ∉ s.subjects (.appeared k :: rest) := by
    intro k' h_not h_mem
    rw [h_subjects, List.mem_append, List.mem_singleton] at h_not
    rcases List.mem_cons.mp (show k' ∈ k :: s.subjects rest from h_mem) with h_eq | h_mem
    · exact h_not (.inr h_eq)
    · exact h_not (.inl h_mem)
  refine ⟨?_, ?_, ?_, ?_, ?_⟩
  · intro e h_mem
    rcases List.mem_append.mp h_mem with h_mem | h_mem
    · -- an old event: its warrant reads nothing that has changed
      refine (h.warranted e (List.mem_cons_of_mem _ h_mem)).congr (h_same e h_mem) fun k' _ => ?_
      rw [h_dir]
    · -- the new event: it ends the new resolution
      obtain rfl := List.mem_singleton.mp h_mem
      refine warranted_resolution h_sound h_live h_new h_seen ?_
      rw [h_dir]
      exact h_none
  · rw [h_subjects]
    exact (List.perm_append_singleton k _).symm.nodup h.once
  · intro id' k' h_some
    rw [h_get] at h_some
    split at h_some
    · -- the end of the new resolution is the new event
      next h_eq =>
      subst h_eq
      exact ⟨_, List.mem_append_right _ (List.mem_singleton_self _), h_id⟩
    · -- the end of an old one was queued, and `appeared` is none
      obtain ⟨e, h_mem, h_id'⟩ := h.ends id' k' h_some
      rcases List.mem_cons.mp h_mem with rfl | h_mem
      · exact absurd h_id' (by simp [Event.resolution?])
      · exact ⟨e, List.mem_append_left _ h_mem, h_id'⟩
  · intro k' h_not
    rw [h_dir]
    exact h.listed k' (h_mem_subjects k' h_not)
  · intro k' h_not
    rw [h_dir]
    exact h.unlisted k' (h_mem_subjects k' h_not)

namespace Abreast

/-! ### What else happens -/

/-- Events that are not about a sighting may stand before and after the others. -/
theorem pad (h : Abreast known live scope queue s) {before after : List Event}
    (h_before : ∀ e ∈ before, e.Quiet) (h_after : ∀ e ∈ after, e.Quiet) :
    Abreast known live scope (before ++ queue ++ after) s := by
  -- quiet events decide about nothing, so the same sightings are decided about
  have h_none : ∀ {events : List Event}, (∀ e ∈ events, e.Quiet) → s.subjects events = [] :=
    fun h_quiet => List.filterMap_eq_nil_iff.mpr fun e h_mem => subject?_of_quiet (h_quiet e h_mem)
  have h_subjects : s.subjects (before ++ queue ++ after) = s.subjects queue := by
    rw [subjects, List.filterMap_append, List.filterMap_append]
    change s.subjects before ++ s.subjects queue ++ s.subjects after = _
    rw [h_none h_before, h_none h_after, List.nil_append, List.append_nil]
  refine ⟨?_, by rw [h_subjects]; exact h.once, ?_, by rw [h_subjects]; exact h.listed,
    by rw [h_subjects]; exact h.unlisted⟩
  · intro e h_mem
    rcases List.mem_append.mp h_mem with h_mem | h_mem
    · rcases List.mem_append.mp h_mem with h_mem | h_mem
      · exact .of_quiet (h_before e h_mem)
      · exact h.warranted e h_mem
    · exact .of_quiet (h_after e h_mem)
  · intro id k h_some
    obtain ⟨e, h_mem, h_id⟩ := h.ends id k h_some
    exact ⟨e, List.mem_append_left _ (List.mem_append_right _ h_mem), h_id⟩

/-- **The segment changes.** What is known but not live any more does not come back. -/
theorem later {live' : Std.ExtTreeMap Nat Posting} (h : Abreast known live scope queue s)
    (h_later : ∀ p : Posting, known[p.id]? = some p → live'[p.id]? = some p →
      live[p.id]? = some p) :
    Abreast known live' scope queue s := by
  -- less is live than before, so less is asked for
  refine ⟨?_, h.once, h.ends, ?_, h.unlisted⟩
  · intro e h_mem
    have h_warranted := h.warranted e h_mem
    cases e with
    | found id contact =>
      obtain ⟨k, p, h_out, h_seen, h_none, h_contact⟩ := h_warranted
      exact ⟨k, p, h_out, h_seen, h_none, fun h_live => h_contact (h_later p h_seen.1 h_live)⟩
    | unresolved id reason =>
      obtain ⟨k, p, h_out, h_seen, h_none, h_dead⟩ := h_warranted
      exact ⟨k, p, h_out, h_seen, h_none, fun h_live => h_dead (h_later p h_seen.1 h_live)⟩
    | _ => exact h_warranted
  · intro k h_not p h_seen h_live
    exact h.listed k h_not p h_seen (h_later p h_seen.1 h_live)

/-- With an empty queue nothing is outstanding. -/
theorem outstanding_eq_none (h : Abreast known live scope [] s) (id : Nat) :
    s.outstanding[id]? = none := by
  refine Option.eq_none_iff_forall_ne_some.mpr fun k h_some => ?_
  obtain ⟨e, h_mem, -⟩ := h.ends id k h_some
  exact absurd h_mem List.not_mem_nil

/-- **News.** With an empty queue, events about some sightings account for what is known now and was
not before, if they are right and nothing changes about any other sighting. -/
theorem news {known' : Std.ExtTreeMap Nat Posting} (h : Abreast known live scope [] s)
    {ks : List Sighting} {tell : Sighting → Event} (h_subject : ∀ k, s.subject? (tell k) = some k)
    (h_nodup : ks.Nodup) (h_warranted : ∀ k ∈ ks, Warranted known' live scope s (tell k))
    (h_same : ∀ k, k ∉ ks → ∀ p, SeenAs known' scope k p ↔ SeenAs known scope k p) :
    Abreast known' live scope (ks.map tell) s := by
  -- each of the events is about its own sighting
  have h_subjects : s.subjects (ks.map tell) = ks := by
    rw [subjects, List.filterMap_map, Function.comp_def, funext h_subject]
    exact List.filterMap_some
  refine ⟨?_, by rw [h_subjects]; exact h_nodup, ?_, ?_, ?_⟩
  · intro e h_mem
    obtain ⟨k, h_k, rfl⟩ := List.mem_map.mp h_mem
    exact h_warranted k h_k
  · -- nothing is queued, so nothing is waited for
    intro id k h_some
    rw [h.outstanding_eq_none] at h_some
    exact absurd h_some (by simp)
  · -- of the sightings that the news is not about the same is known
    intro k h_not p h_seen
    rw [h_subjects] at h_not
    exact h.listed k List.not_mem_nil p ((h_same k h_not p).mp h_seen)
  · intro k h_not h_none
    rw [h_subjects] at h_not
    exact h.unlisted k List.not_mem_nil fun p h_seen => h_none p ((h_same k h_not p).mpr h_seen)

/-- What is posted appears. -/
theorem read_posted {p : Posting} (h : Abreast known live scope [] s)
    (h_new : known[p.id]? = none) (h_known : Distinct (known.insert p.id p)) :
    Abreast (known.insert p.id p) live scope ((p.sightings serverType scope).map .appeared) s := by
  have h_self : (known.insert p.id p)[p.id]? = some p := Std.ExtTreeMap.getElem?_insert_self
  have h_other : ∀ {q : Posting}, q.id ≠ p.id →
      (known.insert p.id p)[q.id]? = known[q.id]? := by
    intro q h_ne
    rw [Std.ExtTreeMap.getElem?_insert, if_neg]
    exact fun h_eq => h_ne (Std.LawfulEqOrd.eq_of_compare h_eq).symm
  -- what was known has other ids, since the new one was free
  have h_old : ∀ {k q}, SeenAs known scope k q → q.id ≠ p.id := by
    intro k q h_seen h_eq
    have h_there := h_seen.1
    rw [h_eq, h_new] at h_there
    exact absurd h_there (by simp)
  refine h.news (fun _ => rfl) (p.nodup_sightings serverType scope) ?_ ?_
  · intro k h_k
    refine ⟨⟨p, h_self, h_k⟩, h.unlisted k List.not_mem_nil fun q h_seen => ?_⟩
    -- another posting that is known would have the same key
    have h_ne := h_old h_seen
    exact h_ne (h_known _ _ _ _ k ((h_other h_ne).trans h_seen.1) h_self
      (Posting.mem_keys_of_sightings h_seen.2) (Posting.mem_keys_of_sightings h_k))
  · -- for the rest, what is known of `p` shows nothing
    intro k h_k q
    constructor
    · rintro ⟨h_there, h_seen⟩
      have h_ne : q.id ≠ p.id := by
        intro h_eq
        rw [h_eq, h_self] at h_there
        rw [← Option.some.inj h_there] at h_seen
        exact h_k h_seen
      exact ⟨(h_other h_ne).symm.trans h_there, h_seen⟩
    · exact fun h_seen => ⟨(h_other (h_old h_seen)).trans h_seen.1, h_seen.2⟩

/-- What is withdrawn vanishes. -/
theorem read_withdrawn {p : Posting} (h : Abreast known live scope [] s)
    (h_there : known[p.id]? = some p) (h_known : Distinct known) :
    Abreast (known.erase p.id) live scope ((p.sightings serverType scope).map .vanished) s := by
  have h_get : ∀ q : Posting, (known.erase p.id)[q.id]? = some q ↔
      q.id ≠ p.id ∧ known[q.id]? = some q := by
    intro q
    rw [Std.ExtTreeMap.getElem?_erase]
    simp only [Std.LawfulEqOrd.compare_eq_iff_eq]
    split
    · next h_eq => simp [h_eq]
    · next h_ne => simp [Ne.symm h_ne]
  refine h.news (fun _ => rfl) (p.nodup_sightings serverType scope) ?_ ?_
  · -- another posting that is still known would have the same key
    intro k h_k q h_seen
    obtain ⟨h_ne, h_old⟩ := (h_get q).mp h_seen.1
    exact h_ne (h_known _ _ _ _ k h_old h_there (Posting.mem_keys_of_sightings h_seen.2)
      (Posting.mem_keys_of_sightings h_k))
  · -- for the rest, `p` has shown nothing
    intro k h_k q
    constructor
    · exact fun h_seen => ⟨((h_get q).mp h_seen.1).2, h_seen.2⟩
    · intro h_seen
      refine ⟨(h_get q).mpr ⟨fun h_eq => h_k ?_, h_seen.1⟩, h_seen.2⟩
      have h_same := h_seen.1
      rw [h_eq, h_there] at h_same
      rw [Option.some.inj h_same]
      exact h_seen.2

/-- **Reading an entry.** With an empty queue, the events that the next entry leads to account for
it. -/
theorem read {past : List Happening} {h : Happening}
    (h_abreast : Abreast (Happening.replay past) live scope [] s) (h_follows : h.Follows past)
    (h_past : Distinct (Happening.replay past))
    (h_known : Distinct (Happening.replay (past ++ [h]))) :
    Abreast (Happening.replay (past ++ [h])) live scope (h.events serverType scope) s := by
  rw [Happening.replay_concat] at h_known ⊢
  cases h with
  | posted p =>
    refine h_abreast.read_posted ?_ h_known
    -- the id is new: the postings that are known have smaller ones
    refine Option.eq_none_iff_forall_ne_some.mpr fun q hq => ?_
    obtain ⟨h_id, h_mem⟩ := Happening.posted_of_replay hq
    have h_lt := h_follows q h_mem
    omega
  | withdrawn p => exact h_abreast.read_withdrawn h_follows h_past

/-- A sweep that starts is told of all that is posted. -/
theorem start {segment : Segment} (h_sound : segment.Sound) (h_distinct : Distinct segment.postings)
    (h_out : s.outstanding = ∅) (h_dir : s.directory = .empty) :
    Abreast segment.postings live scope (Watch.start serverType scope segment).2 s := by
  -- who has known nothing, and listed nothing, is abreast
  have h_empty : Abreast ∅ live scope [] s := by
    refine ⟨?_, List.nodup_nil, ?_, ?_, ?_⟩
    · exact fun e h_mem => absurd h_mem List.not_mem_nil
    · intro id k h_some
      rw [h_out, Std.ExtTreeMap.getElem?_empty] at h_some
      exact absurd h_some (by simp)
    · rintro k - p ⟨h_there, -⟩
      rw [Std.ExtTreeMap.getElem?_empty] at h_there
      exact absurd h_there (by simp)
    · intro k _ _
      rw [h_dir, Directory.get?_empty]
  have h_events : (Watch.start serverType scope segment).2 =
      (segment.current.flatMap (·.sightings serverType scope)).map .appeared :=
    List.map_flatMap.symm
  rw [h_events]
  -- to someone who has known nothing, all that is posted is news
  have h_nodup : (segment.current.flatMap (·.sightings serverType scope)).Nodup := by
    refine List.nodup_flatMap.mpr ⟨fun p _ => p.nodup_sightings serverType scope, ?_⟩
    refine (Segment.distinct_iff.mp h_distinct).imp fun {p q} h_disjoint k hp hq => ?_
    exact h_disjoint (Posting.mem_keys_of_sightings hp) (Posting.mem_keys_of_sightings hq)
  have h_seen : ∀ {k}, k ∈ segment.current.flatMap (·.sightings serverType scope) ↔
      ∃ p, SeenAs segment.postings scope k p := by
    intro k
    rw [List.mem_flatMap]
    exact exists_congr fun p => and_congr_left fun _ => h_sound.mem_current
  refine h_empty.news (fun _ => rfl) h_nodup ?_ ?_
  · intro k h_k
    exact ⟨h_seen.mp h_k, by rw [h_dir, Directory.get?_empty]⟩
  · -- what is not among the news is not posted
    intro k h_k p
    constructor
    · exact fun h_p => absurd (h_seen.mpr ⟨p, h_p⟩) h_k
    · rintro ⟨h_there, -⟩
      rw [Std.ExtTreeMap.getElem?_empty] at h_there
      exact absurd h_there (by simp)

/-- **Caught up.** With an empty queue, when what is known is what is live, everything is listed as
it is posted. -/
theorem caught_up (h : Abreast live live scope [] s) {k : Sighting} {v : Listing} :
    s.directory.get? k = some v ↔
      ∃ p, SeenAs live scope k p ∧ listing? k (p.contact k.protocol) = some v := by
  constructor
  · intro h_get
    -- what is listed is seen by somebody, else it would not be listed
    have h_some : ∃ p, SeenAs live scope k p := by
      refine Classical.byContradiction fun h_none => ?_
      rw [h.unlisted k List.not_mem_nil fun p h_seen => h_none ⟨p, h_seen⟩] at h_get
      exact absurd h_get (by simp)
    obtain ⟨p, h_seen⟩ := h_some
    exact ⟨p, h_seen, (h.listed k List.not_mem_nil p h_seen h_seen.1).symm.trans h_get⟩
  · rintro ⟨p, h_seen, h_listing⟩
    exact (h.listed k List.not_mem_nil p h_seen h_seen.1).trans h_listing

end Abreast

end Sweep

end ServiceDiscovery
