import ServiceDiscovery.Proofs.EventLoop.Run
import ServiceDiscovery.Proofs.Responder.Fates
import ServiceDiscovery.Proofs.Responder.Learning

/-!
# Whoever is listed is there

A server that says goodbye, or is not heard from any more, vanishes from the responder at once.  The
directory of the sweep follows behind the responder's queue, in which appearances, disappearances
and contacts of one server may wait in any order, with several resolutions of it under way.  All the
same, once the queue is empty nobody is listed who is not there (`EventLoop.listed_is_seen`).

The invariant is `Sweep.TrueTo`.  Its main clause is that whoever is listed is seen by the
responder, or is about to be reported gone.  The danger is a contact that is reported late, after
its server has vanished.  But a contact that waits in the queue is the one that is known
(`Sweep.TrueTo.found`): the responder finds it when its server is there, and learns nothing new
until the queue is empty.  So at the moment at which it is listed, the server is there.

What the sweep is resolving is what its responder is resolving under that number
(`Sweep.TrueTo.pending`), as no number is given twice.
-/

namespace ServiceDiscovery

open Responder (undergo)

namespace Sweep

/-- What a sweep knows is what its responder knows, up to what is to be reported. -/
structure TrueTo (s : Sweep) (r : Responder) : Prop where
  /-- Numbers that are in hand have been given. -/
  given : ∀ id ∈ r.inHand, id < r.nextResolution
  /-- So have those of the resolutions that are outstanding. -/
  outstanding : ∀ (id : Nat) k, s.outstanding[id]? = some k → id < r.nextResolution
  /-- A resolution that is pending resolves what is outstanding under its number. -/
  pending : ∀ p ∈ r.resolving, ∀ k, s.outstanding[p.id]? = some k →
    p.sighting = k ∧ p.protocol = k.protocol
  /-- The contact that is to be reported is the one that is known. -/
  found : ∀ (id : Nat) c k, .found id c ∈ r.events → s.outstanding[id]? = some k →
    r.contact? k k.protocol = some c
  /-- Whoever is listed is there, or is to be reported gone. -/
  listed : ∀ k, s.directory.get? k ≠ none → r.Sees k ∨ .vanished k ∈ r.events
  /-- Before the sweep has started, there is nothing to know. -/
  idle : s.started = false →
    (∀ id : Nat, s.outstanding[id]? = none) ∧ ∀ k, s.directory.get? k = none

namespace TrueTo

variable {s s' : Sweep} {r r' : Responder} {event : Event} {events : List Event}

theorem fresh (h : ∀ id ∈ r.inHand, id < r.nextResolution) : Sweep.fresh.TrueTo r where
  given := h
  outstanding id k h := absurd h (by simp [Sweep.fresh])
  pending p _ k h := absurd h (by simp [Sweep.fresh])
  found id c k _ h := absurd h (by simp [Sweep.fresh])
  listed k h := absurd (Directory.get?_empty k) h
  idle _ := ⟨fun _ => Std.ExtTreeMap.getElem?_empty, Directory.get?_empty⟩

/-- Whatever the responder learns, as long as no number comes into its hand. -/
theorem onward (h : s.TrueTo r) (h_hand : ∀ id ∈ r'.inHand, id ∈ r.inHand)
    (h_next : r.nextResolution ≤ r'.nextResolution) (h_learns : r.Learns r') : s.TrueTo r' where
  given id h_id := Nat.lt_of_lt_of_le (h.given id (h_hand id h_id)) h_next
  outstanding id k ho := Nat.lt_of_lt_of_le (h.outstanding id k ho) h_next
  pending p hp := h.pending p (h_learns.resolving p hp)
  found id c k he ho := by
    obtain ⟨he', h_same⟩ | ⟨p, hp, rfl, h_contact⟩ := h_learns.found id c he
    · rw [h_same]
      exact h.found id c k he' ho
    · -- the resolution was pending, and is one of what is outstanding
      obtain ⟨rfl, h_protocol⟩ := h.pending p hp k ho
      rw [← h_protocol]
      exact h_contact
  listed k hk := by
    rcases h.listed k hk with h_sees | h_gone
    · exact h_learns.seen k h_sees
    · exact .inr (h_learns.events _ h_gone)
  idle := h.idle

theorem along (h : s.TrueTo r) (h_along : r.Carries r' ∧ r.Learns r') : s.TrueTo r' :=
  h.onward (fun _ => h_along.1.inHand.mem_iff.mp) (Nat.le_of_eq h_along.1.next.symm) h_along.2

/-- A sweep that knows less is true as well. -/
theorem of_le (h : s.TrueTo r) (h_started : s'.started = false → s.started = false)
    (h_outstanding : ∀ (id : Nat) k, s'.outstanding[id]? = some k → s.outstanding[id]? = some k)
    (h_listed : ∀ k, s.directory.get? k = none → s'.directory.get? k = none) : s'.TrueTo r where
  given := h.given
  outstanding id k ho := h.outstanding id k (h_outstanding id k ho)
  pending p hp k ho := h.pending p hp k (h_outstanding p.id k ho)
  found id c k he ho := h.found id c k he (h_outstanding id k ho)
  listed k hk := h.listed k (mt (h_listed k) hk)
  -- nothing is outstanding or listed that was not so before
  idle hs := by
    obtain ⟨h_none, h_absent⟩ := h.idle (h_started hs)
    refine ⟨fun id => Option.eq_none_iff_forall_ne_some.mpr fun k ho => ?_, fun k => ?_⟩
    · exact absurd (h_outstanding id k ho) (by simp [h_none id])
    · exact h_listed k (h_absent k)

/-- An event is reported: not that somebody is gone who is listed. -/
theorem rest (h : s.TrueTo r) (he : r.events = event :: events)
    (h_listed : ∀ k, event = .vanished k → s.directory.get? k = none) :
    s.TrueTo { r with events } where
  given id h_id :=
    h.given id ((Responder.inHand_of_events he).mem_iff.mpr (List.mem_append_right _ h_id))
  outstanding := h.outstanding
  pending := h.pending
  found id c k h_found := h.found id c k (he ▸ List.mem_cons_of_mem _ h_found)
  -- the report that is taken off is not about `k`, since `k` would not be listed
  listed k hk := by
    refine (h.listed k hk).imp_right fun h_gone => ?_
    rw [he] at h_gone
    exact (List.mem_cons.mp h_gone).resolve_left fun h_eq => hk (h_listed k h_eq.symm)
  idle := h.idle

/-- Releasing a resolution, whichever it is, takes back nothing that was heard of anybody. -/
theorem release (h : s.TrueTo r) (id : Nat) : s.TrueTo (r.release id) where
  given id' h_id := by
    rw [Responder.inHand_release] at h_id
    exact h.given id' (List.mem_filter.mp h_id).1
  outstanding := h.outstanding
  pending p hp := h.pending p (List.mem_filter.mp hp).1
  found id' c k h_found := h.found id' c k (List.mem_filter.mp h_found).1
  listed k hk :=
    (h.listed k hk).imp_right fun h_gone =>
      List.mem_filter.mpr ⟨h_gone, by simp [Event.resolution?]⟩
  idle := h.idle

/-- Giving up releases what is outstanding. -/
theorem giveUp (h : s.TrueTo r) : (s.giveUp r).1.TrueTo (s.giveUp r).2 := by
  -- the releases come one after the other
  have h_released : s.TrueTo (s.giveUp r).2 :=
    giveUp_induction (P := fun r => s.TrueTo r) (fun _ id h => h.release id) h
  unfold Sweep.giveUp at h_released ⊢
  split
  · next hs =>
    rw [if_pos hs] at h_released
    -- then nothing is outstanding
    refine h_released.of_le id (fun id k ho => ?_) fun _ h => h
    exact absurd ho (by simp)
  · exact h

/-- A resolution ends, with a contact that is known or without one. -/
theorem conclude (h : s.TrueTo r) (id : Nat) (contact? : Option Contact)
    (h_contact : ∀ c k, contact? = some c → s.outstanding[id]? = some k →
      r.contact? k k.protocol = some c) :
    (s.conclude id contact? r).1.TrueTo (s.conclude id contact? r).2 := by
  cases ho : s.outstanding[id]? with
  | none => rw [conclude_of_none contact? r ho]; exact h
  | some k₀ =>
    have h_released : s.TrueTo (r.release id) := h.release id
    -- one resolution less is outstanding
    have h_less : ∀ (id' : Nat) k, (s.conclude id contact? r).1.outstanding[id']? = some k →
        s.outstanding[id']? = some k := by
      intro id' k ho'
      rw [getElem?_outstanding_conclude] at ho'
      split at ho'
      · exact absurd ho' (by simp)
      · exact ho'
    rw [engine_conclude contact? r ho]
    exact {
      given := h_released.given
      outstanding := fun id' k ho' => h_released.outstanding id' k (h_less id' k ho')
      pending := fun p hp k ho' => h_released.pending p hp k (h_less p.id k ho')
      found := fun id' c k he ho' => h_released.found id' c k he (h_less id' k ho')
      listed := by
        intro k hk
        rw [get?_conclude] at hk
        split at hk
        · next hk₀ =>
          cases contact? with
          | none => exact h_released.listed k hk
          | some c =>
            -- it is there, since the contact is known
            exact .inl (Responder.sees_of_contact? (h_contact c k rfl hk₀))
        · exact h_released.listed k hk
      idle := by
        intro hs
        rw [started_conclude] at hs
        exact absurd ho (by simp [(h.idle hs).1 id]) }

/-- A resolution is accepted.  Its number is new, so it is confused with no other. -/
theorem accept {k : Sighting} {id : Nat} (h : s.TrueTo r) (hs : s.started = true)
    (hr : r.resolve k k.protocol = (.ok id, r')) :
    ({ s with outstanding := s.outstanding.insert id k } : Sweep).TrueTo r' := by
  obtain ⟨h_id, h_next, h_hand⟩ := Responder.inHand_resolve_ok hr
  obtain ⟨ht, h_end⟩ := Responder.resolve_accepted hr
  have h_contact : ∀ k q, r'.contact? k q = r.contact? k q := by
    intro k q
    rw [Responder.contact?, ht]
    rfl
  -- numbers in hand were given before, so the new one hides none of them
  have h_old : ∀ id' ∈ r.inHand, (s.outstanding.insert id k)[id']? = s.outstanding[id']? := by
    intro id' h_mem
    have h_lt := h.given id' h_mem
    rw [Std.ExtTreeMap.getElem?_insert, if_neg]
    rw [Std.LawfulEqOrd.compare_eq_iff_eq]
    omega
  have h_events : ∀ event ∈ r.events, event ∈ r'.events := by
    intro event h_event
    obtain ⟨-, c, -, h_found⟩ | ⟨h_same, -⟩ := h_end
    · rw [h_found]; exact List.mem_append_left _ h_event
    · rw [h_same]; exact h_event
  exact {
    given := by
      intro id' h_mem
      rw [h_next]
      rcases List.mem_cons.mp (h_hand.mem_iff.mp h_mem) with rfl | h_mem
      · exact Nat.lt_succ_self _
      · exact Nat.lt_succ_of_lt (h_id ▸ h.given id' h_mem)
    outstanding := by
      intro id' k' ho
      rw [h_next]
      rw [Std.ExtTreeMap.getElem?_insert] at ho
      split at ho
      · next h_eq =>
        rw [← Std.LawfulEqOrd.eq_of_compare h_eq]
        exact Nat.lt_succ_self _
      · exact Nat.lt_succ_of_lt (h_id ▸ h.outstanding id' k' ho)
    pending := by
      intro p hp k' ho
      obtain ⟨h_same, -⟩ | ⟨-, p', rfl, h_sighting, h_protocol, h_new⟩ := h_end
      · rw [h_same] at hp
        rw [h_old p.id (List.mem_append_left _ (List.mem_map_of_mem hp))] at ho
        exact h.pending p hp k' ho
      · rw [h_new] at hp
        rcases List.mem_append.mp hp with hp | hp
        · rw [h_old p.id (List.mem_append_left _ (List.mem_map_of_mem hp))] at ho
          exact h.pending p hp k' ho
        · -- the one that begins now resolves what it is noted for
          obtain rfl := List.mem_singleton.mp hp
          rw [Std.ExtTreeMap.getElem?_insert_self] at ho
          obtain rfl := Option.some.inj ho
          exact ⟨h_sighting, h_protocol⟩
    found := by
      intro id' c k' he ho
      rw [h_contact]
      have h_before : .found id' c ∈ r.events → r.contact? k' k'.protocol = some c := by
        intro he
        have h_mem : id' ∈ r.inHand :=
          List.mem_append_right _ (List.mem_filterMap.mpr ⟨_, he, rfl⟩)
        rw [h_old id' h_mem] at ho
        exact h.found id' c k' he ho
      obtain ⟨-, c', h_known, h_found⟩ | ⟨h_same, -⟩ := h_end
      · rw [h_found] at he
        rcases List.mem_append.mp he with he | he
        · exact h_before he
        · -- the contact was known when the resolution began, so it is reported at once
          obtain ⟨rfl, rfl⟩ := Event.found.inj (List.mem_singleton.mp he)
          rw [Std.ExtTreeMap.getElem?_insert_self] at ho
          obtain rfl := Option.some.inj ho
          exact h_known
      · exact h_before (h_same ▸ he)
    -- a request tells the responder nothing
    listed := by
      intro k' hk'
      refine (h.listed k' hk').imp (fun h_sees => ?_) (h_events _)
      unfold Responder.Sees
      rw [ht]
      exact h_sees
    idle := fun hs' => absurd (hs.symm.trans hs') (by simp) }

/-- What is reported of the network is taken in. -/
theorem observe (h : s.TrueTo r) (he : r.events = event :: events) :
    (s.observe event { r with events }).1.TrueTo (s.observe event { r with events }).2.1 := by
  have h_rest : (∀ k, event ≠ .vanished k) → s.TrueTo { r with events } :=
    fun h_event => h.rest he fun k h_eq => absurd h_eq (h_event k)
  unfold Sweep.observe
  split
  · next hs =>
    -- nobody is listed yet
    have hs' : s.started = false := by simpa using hs
    exact h.rest he fun k _ => (h.idle hs').2 k
  · next hs =>
    have hs' : s.started = true := by simpa using hs
    cases event with
    | appeared k =>
      have h' := h_rest (by simp)
      rcases hr : Engine.resolve k k.protocol ({ r with events } : Responder) with
        ⟨refusal | id, r'⟩
      · simp only [hr]
        obtain ⟨h_next, h_hand⟩ := Responder.inHand_resolve_error hr
        exact h'.onward (fun id h_mem => h_hand ▸ h_mem) h_next (Responder.learns_resolve_error hr)
      · simp only [hr]
        exact h'.accept hs' hr
    | vanished k =>
      -- it is struck off, so it does not matter any more that this was to be reported
      have h_struck : ({ s with directory := s.directory.erase k } : Sweep).TrueTo r := by
        refine h.of_le id (fun _ _ ho => ho) fun k' hk' => ?_
        rw [Directory.get?_erase]
        split
        · rfl
        · exact hk'
      refine h_struck.rest he fun k' h_eq => ?_
      obtain rfl := Event.vanished.inj h_eq
      rw [Directory.get?_erase, if_pos rfl]
    | browseFailed reason => exact (h_rest (by simp)).giveUp
    | cacheExhausted => exact (h_rest (by simp)).of_le id (fun _ _ ho => ho) fun _ hk => hk
    | allForNow => exact (h_rest (by simp)).of_le id (fun _ _ ho => ho) fun _ hk => hk
    | _ => exact h_rest (by simp)

/-- **What is reported is taken in.** The first event of a responder leaves the sweep true to it. -/
theorem handle (h : s.TrueTo r) (he : r.events = event :: events) :
    (s.handle event { r with events }).1.TrueTo (s.handle event { r with events }).2.1 := by
  cases event with
  | found id c =>
    -- the contact is the one that is known
    refine (h.rest he (by simp)).conclude id (some c) fun c' k h_eq ho => ?_
    obtain rfl := Option.some.inj h_eq
    exact h.found id c k (he ▸ List.mem_cons_self ..) ho
  | unresolved id reason => exact (h.rest he (by simp)).conclude id none (by simp)
  | _ => exact h.observe he

end TrueTo
end Sweep

namespace EventLoop

variable {l : EventLoop Responder} {event : Event} {events : List Event}

theorem trueTo_handle (h : l.sweep.TrueTo l.engine) (he : l.engine.events = event :: events) :
    let l' := { l with engine := { l.engine with events } }
    (l'.handle event).1.sweep.TrueTo (l'.handle event).1.engine := by
  intro l'
  -- a failure makes the sweep give up, and the other events for the loop leave it alone
  unfold EventLoop.handle
  split
  · exact (h.rest he (by simp)).giveUp
  · exact h.rest he (by simp)
  · exact h.rest he (by simp)
  · exact h.rest he (by simp)
  · exact h.rest he (by simp)
  · exact h.rest he (by simp)
  · exact h.handle he

/-- No command is about what is known of anybody. -/
theorem trueTo_obey (ticket : Nat) (command : Command) (h : l.sweep.TrueTo l.engine) :
    (l.obey ticket command).1.sweep.TrueTo (l.obey ticket command).1.engine := by
  have h_browse : ∀ scope, l.sweep.TrueTo (Engine.browse serverType scope l.engine).2 := by
    intro scope
    exact h.along ⟨Responder.carries_browse serverType scope l.engine,
      Responder.learns_browse serverType scope l.engine⟩
  -- the commands that reach the engine are publishing and browsing
  obtain ⟨hs, he⟩ | ⟨ad, hs, he⟩ | ⟨scope, hs, he⟩ | ⟨scope, r, hb, hs, he⟩ :=
    obey_cases ticket command l <;> rw [hs, he]
  · exact h
  · exact h.along ⟨Responder.carries_publish ad l.engine, Responder.learns_publish ad l.engine⟩
  · exact h_browse scope
  · -- the sweep starts, and is as true as before
    have h_browsing := h_browse scope
    rw [hb] at h_browsing
    exact h_browsing.of_le (by simp) (fun _ _ ho => ho) fun _ hk => hk

/-- A turn of the responder up to its report. -/
theorem reports_learning (r : Responder) :
    Responder.ReportsAlong (fun r r' => r.Carries r' ∧ r.Learns r') r r.turn :=
  ((Responder.respected_carries.upheld r).and (Responder.upheld_learns r)).turn ⟨.refl r, .refl r⟩

/-- **Invariant preservation.** Every input leaves the sweep true to its responder. -/
theorem trueTo_step (input : Input Responder.Happening) (l : EventLoop Responder)
    (h : l.sweep.TrueTo l.engine) :
    (l.step undergo input).1.sweep.TrueTo (l.step undergo input).1.engine := by
  cases input with
  | command ticket command =>
    show (l.serve ticket command).1.sweep.TrueTo (l.serve ticket command).1.engine
    rw [serve_fst, sweep_answerParked, engine_answerParked]
    exact trueTo_obey ticket command h
  | poll =>
    obtain ⟨r', h_along, ⟨h_event, h_engine⟩ | ⟨event, events, he, h_event, h_engine⟩⟩ :=
      reports_learning l.engine
    · rw [step_poll_none undergo h_event]
      show l.sweep.TrueTo l.engine.turn.engine
      rw [h_engine]
      exact h.along h_along
    · -- the sweep stays true up to the report, and takes the report in
      rw [step_poll_some undergo h_event, receive_fst, sweep_answerParked, engine_answerParked]
      show (handle event { l with engine := l.engine.turn.engine }).1.sweep.TrueTo
        (handle event { l with engine := l.engine.turn.engine }).1.engine
      rw [h_engine]
      exact trueTo_handle (l := { l with engine := r' }) (h.along h_along) he
  -- what happens outside teaches the responder at most
  | outside happening =>
    have h_along := ((Responder.respected_carries.upheld l.engine).and
      (Responder.upheld_learns l.engine)).undergo happening ⟨.refl _, .refl _⟩
    exact h.along h_along

/-- A loop stays true to its responder, whatever the responder has been asked for before. -/
theorem trueTo_after (os : OperatingSystem) (settings : Settings) (opened : Opened)
    (prior : List Responder.Input) (inputs : List (Input Responder.Happening)) :
    let r := ((Responder.Dealings.ofResponder (.on os settings opened)).after prior).responder
    ((ofEngine r).after undergo inputs).1.sweep.TrueTo
      ((ofEngine r).after undergo inputs).1.engine := by
  intro r
  -- the numbers in hand were given out before
  have h_accounted := (Responder.Dealings.Accounted.fresh os settings opened).after prior
  have h_given : ∀ id ∈ r.inHand, id < r.nextResolution :=
    fun id h_id => h_accounted.accepted_lt id (h_accounted.held id h_id).mem_acceptances
  exact after_invariant undergo (P := fun l => l.sweep.TrueTo l.engine) (.fresh h_given)
    trueTo_step inputs

/-- **No ghosts.** A responder is set up and asked for anything, and then a loop runs over it,
with commands in any order, while packets arrive, the clock goes on, turns are broken off and the
system refuses what it likes.  Whoever is listed is there, as far as the responder knows, or is
about to be reported gone.  So once the responder has nothing to report, whoever is listed is
there: a server whose goodbye was received, or that was not heard from for too long, is neither
left in the directory nor put back. -/
theorem listed_is_seen (os : OperatingSystem) (settings : Settings) (opened : Opened)
    (prior : List Responder.Input) (inputs : List (Input Responder.Happening)) :
    let r := ((Responder.Dealings.ofResponder (.on os settings opened)).after prior).responder
    let l := ((ofEngine r).after undergo inputs).1
    (∀ k, l.sweep.directory.get? k ≠ none → l.engine.Sees k ∨ .vanished k ∈ l.engine.events) ∧
    (l.engine.events = [] → ∀ k, l.sweep.directory.get? k ≠ none → l.engine.Sees k) := by
  intro r l
  have h_true : l.sweep.TrueTo l.engine := trueTo_after os settings opened prior inputs
  -- with nothing to report, nobody is reported gone
  refine ⟨h_true.listed, fun h_empty k hk => (h_true.listed k hk).resolve_right ?_⟩
  rw [h_empty]
  exact List.not_mem_nil

end EventLoop
end ServiceDiscovery
