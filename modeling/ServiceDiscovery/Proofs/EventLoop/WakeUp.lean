import ServiceDiscovery.Multicast.Setup
import ServiceDiscovery.Proofs.EventLoop.Queries
import ServiceDiscovery.Proofs.Responder.Keeps

/-!
# No wake-up is lost

An event loop over a responder goes on only if there is an event in the responder's queue, or a
time for which the responder sleeps.  The loop knows what it waits for, the responder knows what it
will report, and nothing forces the two to agree.  They do (`EventLoop.parked_wakes`): whenever a
query is parked, something is still to come that the query waits for.

The invariant is `Sweep.Backed`: what a sweep waits for is a debt of its responder.  The responder
does not lose a debt by itself (`Responder.Keeps`), so it remains to look at the one event that a
step takes in, which the sweep takes off its own books in the same step.  A failure is different:
the responder stops working, so no other debt is paid any more in time, and the failure itself has
to be in the queue.  Taking that in completes the sweep, whatever is outstanding.
-/

namespace ServiceDiscovery

open Responder (undergo)

namespace Sweep

/-- What a sweep waits for is a debt of its responder. -/
structure Backed (s : Sweep) (r : Responder) : Prop where
  /-- The end of every outstanding resolution is still to come. -/
  owed : ∀ id sighting, s.outstanding[id]? = some sighting → r.Owes id
  /-- As long as the sweep is not surveyed, that is still to come. -/
  settles : s.started = true → s.surveyed = false → r.Settles
  /-- As long as the sweep is not complete, a failure is still to be reported. -/
  failing : s.started = true → s.progress ≠ .complete → r.state = .failure →
    .engine .failure ∈ r.events

namespace Backed

variable {s : Sweep} {r r' : Responder} {event : Event} {events : List Event}

theorem fresh (r : Responder) : Sweep.fresh.Backed r where
  owed id sighting h := absurd h (by simp [Sweep.fresh])
  settles h := absurd h (by simp [Sweep.fresh])
  failing h := absurd h (by simp [Sweep.fresh])

theorem keeps (h : s.Backed r) (h_keeps : r.Keeps r') : s.Backed r' where
  owed id sighting ho := h_keeps.owes (h.owed id sighting ho)
  settles hs hn := h_keeps.settles (h.settles hs hn)
  failing hs hc hf := by
    rcases h_keeps.failing hf with hf | he
    · exact h_keeps.events _ (h.failing hs hc hf)
    · exact he

/-- A sweep that is surveyed with nothing outstanding waits for nothing. -/
theorem of_complete (hn : s.surveyed = true) (ho : s.outstanding = ∅) : s.Backed r where
  owed id sighting h := absurd h (by simp [ho])
  settles _ h := absurd hn (by simp [h])
  failing hs hc := absurd ((progress_eq_complete_iff s).mpr ⟨hs, hn, ho⟩) hc

/-- Reporting an event for which the sweep does not wait. -/
theorem rest (h : s.Backed r) (he : r.events = event :: events)
    (h_ended : ∀ id sighting, s.outstanding[id]? = some sighting → event.resolution? ≠ some id)
    (h_settled : s.started = true → s.surveyed = false → event ≠ .cacheExhausted)
    (h_failed : s.started = true → event ≠ .engine .failure) : s.Backed { r with events } where
  owed id sighting ho := (h.owed id sighting ho).rest he (h_ended id sighting ho)
  settles hs hn := (h.settles hs hn).rest he (h_settled hs hn)
  failing hs hc hf := by
    -- a failure to be reported is not the event that is taken off
    have h_mem := h.failing hs hc hf
    rw [he] at h_mem
    exact (List.mem_cons.mp h_mem).resolve_left (h_failed hs).symm

/-- Most events are nothing that a sweep waits for. -/
theorem rest_of_unrelated (h : s.Backed r) (he : r.events = event :: events)
    (h_id : event.resolution? = none) (h_settled : event ≠ .cacheExhausted)
    (h_failed : event ≠ .engine .failure) : s.Backed { r with events } :=
  h.rest he (fun _ _ _ => by simp [h_id]) (fun _ _ => h_settled) (fun _ => h_failed)

/-- A sweep that is surveyed does not wait for more than before. -/
theorem surveyed (h : s.Backed r) : { s with surveyed := true }.Backed r where
  owed := h.owed
  settles _ hn := absurd hn (by simp)
  failing hs hc := by
    refine h.failing hs fun h_complete => hc ?_
    obtain ⟨_, -, ho⟩ := (progress_eq_complete_iff s).mp h_complete
    exact (progress_eq_complete_iff _).mpr ⟨hs, rfl, ho⟩

/-- Giving up leaves a started sweep with nothing to wait for. -/
theorem giveUp (h : s.started = false → s.Backed r) :
    (s.giveUp r).1.Backed (s.giveUp r).2 := by
  unfold Sweep.giveUp
  split
  · exact of_complete rfl rfl
  · next hs => exact h (Bool.eq_false_iff.mpr hs)

/-- A resolution whose end is reported is taken off both books. -/
theorem conclude {id : Nat} (h : s.Backed r) (he : r.events = event :: events)
    (h_id : event.resolution? = some id) (contact? : Option Contact) :
    (s.conclude id contact? { r with events }).1.Backed
      (s.conclude id contact? { r with events }).2 := by
  have h_settled : event ≠ .cacheExhausted := by
    rintro rfl
    exact absurd h_id (by simp [Event.resolution?])
  have h_failed : event ≠ .engine .failure := by
    rintro rfl
    exact absurd h_id (by simp [Event.resolution?])
  cases ho : s.outstanding[id]? with
  | none =>
    rw [conclude_of_none contact? _ ho]
    -- nobody waits for it, so it is none of the outstanding ones
    refine h.rest he ?_ (fun _ _ => h_settled) (fun _ => h_failed)
    intro id' sighting ho' h_eq
    rw [← Option.some.inj (h_id.symm.trans h_eq), ho] at ho'
    exact absurd ho' (by simp)
  | some sighting =>
    rw [engine_conclude contact? _ ho]
    exact {
      owed := by
        intro id' sighting' ho'
        rw [getElem?_outstanding_conclude] at ho'
        split at ho'
        · exact absurd ho' (by simp)
        · -- another resolution, which neither the report nor the release touches
          next h_other =>
          refine Responder.Owes.release ((h.owed id' sighting' ho').rest he ?_) (Ne.symm h_other)
          rw [h_id]
          exact fun h_eq => h_other (Option.some.inj h_eq)
      settles := by
        intro hs hn
        rw [started_conclude] at hs
        rw [surveyed_conclude] at hn
        exact Responder.Settles.release ((h.settles hs hn).rest he h_settled)
      failing := by
        intro hs _ hf
        rw [started_conclude] at hs
        -- the sweep was not complete, as this resolution was outstanding
        have h_browsing : s.progress ≠ .complete := by
          intro h_complete
          rw [((progress_eq_complete_iff s).mp h_complete).2.2] at ho
          exact absurd ho (by simp)
        have h_mem := h.failing hs h_browsing hf
        rw [he] at h_mem
        refine Responder.mem_events_release ?_ (by simp [Event.resolution?])
        exact (List.mem_cons.mp h_mem).resolve_left h_failed.symm }

/-- A resolution that is accepted is entered into both books. -/
theorem appeared (h : s.Backed r) (sighting : Sighting) :
    (s.observe (.appeared sighting) r).1.Backed (s.observe (.appeared sighting) r).2.1 := by
  unfold observe
  split
  · exact h
  · have h_keeps := Responder.keeps_resolve sighting sighting.protocol r
    -- the outcome of the resolution: refused, or owed by the responder
    rcases hr : r.resolve sighting sighting.protocol with ⟨refusal | id, r'⟩
    · rw [hr] at h_keeps
      simp only [Engine.resolve, hr]
      exact h.keeps h_keeps
    · rw [hr] at h_keeps
      obtain ⟨h_owes, h_state⟩ := Responder.resolve_ok hr
      simp only [Engine.resolve, hr]
      exact {
        owed := by
          intro id' sighting' ho
          -- a resolution is owed, be it the new one or another
          rw [Std.ExtTreeMap.getElem?_insert] at ho
          split at ho
          · next h_eq => rw [← Std.LawfulEqOrd.eq_of_compare h_eq]; exact h_owes
          · exact h_keeps.owes (h.owed id' sighting' ho)
        settles := fun hs hn => h_keeps.settles (h.settles hs hn)
        failing := fun _ _ hf => absurd hf h_state }

/-- Whatever is observed, the sweep waits for no more than its responder owes. -/
theorem observe (h : s.Backed r) (event : Event) :
    (s.observe event r).1.Backed (s.observe event r).2.1 := by
  cases event with
  -- what appears is resolved, the other events change the table at most
  | appeared sighting => exact h.appeared sighting
  | vanished sighting =>
    unfold Sweep.observe
    split
    · exact h
    · exact ⟨h.owed, h.settles, h.failing⟩
  | browseFailed reason =>
    unfold Sweep.observe
    split
    · exact h
    · exact Backed.giveUp fun _ => h
  | _ =>
    unfold Sweep.observe
    split
    · exact h
    · first | exact h.surveyed | exact h

end Backed
end Sweep

namespace EventLoop

variable {l : EventLoop Responder} {event : Event} {events : List Event}

/-- **What is reported is taken off the books.** Taking in the first event of a responder leaves the
sweep with nothing to wait for but debts. -/
theorem backed_handle (h : l.sweep.Backed l.engine) (he : l.engine.events = event :: events) :
    let l' := { l with engine := { l.engine with events } }
    (l'.handle event).1.sweep.Backed (l'.handle event).1.engine := by
  intro l'
  have h_unrelated := h.rest_of_unrelated he
  cases event with
  | engine state =>
    cases state with
    | failure =>
      -- giving up settles everything; a sweep that has not started is not interested
      refine Sweep.Backed.giveUp fun hs => ?_
      exact h.rest he (fun _ _ _ => by simp [Event.resolution?]) (fun _ _ => by simp)
        (fun hs' => absurd (hs'.symm.trans hs) (by simp))
    | _ => exact h_unrelated rfl (by simp) (by simp)
  | established => exact h_unrelated rfl (by simp) (by simp)
  | nameTaken => exact h_unrelated rfl (by simp) (by simp)
  | publishFailed reason => exact h_unrelated rfl (by simp) (by simp)
  | appeared sighting => exact (h_unrelated rfl (by simp) (by simp)).observe (.appeared sighting)
  | vanished sighting => exact (h_unrelated rfl (by simp) (by simp)).observe (.vanished sighting)
  | allForNow => exact (h_unrelated rfl (by simp) (by simp)).observe (.allForNow)
  | browseFailed reason =>
    exact (h_unrelated rfl (by simp) (by simp)).observe (.browseFailed reason)
  | cacheExhausted =>
    change (l.sweep.observe .cacheExhausted _).1.Backed (l.sweep.observe .cacheExhausted _).2.1
    unfold Sweep.observe
    split
    · -- a sweep that has not started does not wait for this
      next hs =>
      exact h.rest he (fun _ _ _ => by simp [Event.resolution?])
        (fun hs' => absurd hs' (by simpa using hs)) (fun _ => by simp)
    · exact h.surveyed.rest he (fun _ _ _ => by simp [Event.resolution?])
        (fun _ hn => absurd hn (by simp)) (fun _ => by simp)
  | found id contact => exact h.conclude he rfl (some contact)
  | unresolved id reason => exact h.conclude he rfl none

/-- A command leaves the sweep with nothing to wait for but debts. -/
theorem backed_obey (ticket : Nat) (command : Command) (h : l.sweep.Backed l.engine) :
    (l.obey ticket command).1.sweep.Backed (l.obey ticket command).1.engine := by
  have h_keeps : ∀ scope, l.engine.Keeps (Engine.browse serverType scope l.engine).2 :=
    fun scope => Responder.keeps_browse serverType scope l.engine
  obtain ⟨hs, he⟩ | ⟨ad, hs, he⟩ | ⟨scope, hs, he⟩ | ⟨scope, r, hb, hs, he⟩ :=
    obey_cases ticket command l <;> rw [hs, he]
  · exact h
  · exact h.keeps (Responder.keeps_publish ad l.engine)
  · exact h.keeps (h_keeps scope)
  · -- the sweep starts to wait, and the responder to owe
    have h_kept := h_keeps scope
    rw [hb] at h_kept
    obtain ⟨h_settles, h_state⟩ := Responder.browse_ok hb
    exact {
      owed := (h.keeps h_kept).owed
      settles := fun _ _ => h_settles
      failing := fun _ _ hf => absurd hf h_state }

/-- **Invariant preservation.** Every input preserves that what the sweep waits for is a debt of the
responder. -/
theorem backed_step (input : Input Responder.Happening) (h : l.sweep.Backed l.engine) :
    (l.step undergo input).1.sweep.Backed (l.step undergo input).1.engine := by
  cases input with
  | command ticket command =>
    change (l.serve ticket command).1.sweep.Backed (l.serve ticket command).1.engine
    rw [serve_fst, sweep_answerParked, engine_answerParked]
    exact backed_obey ticket command h
  | poll =>
    obtain ⟨r', h_keeps, ⟨h_event, h_engine⟩ | ⟨event, events, he, h_event, h_engine⟩⟩ :=
      Responder.reports_turn l.engine
    · rw [step_poll_none undergo h_event]
      exact h.keeps (h_engine ▸ h_keeps)
    · -- the responder keeps its debts up to the report, and the loop takes the report in
      rw [step_poll_some undergo h_event, receive_fst, sweep_answerParked, engine_answerParked]
      change (handle event { l with engine := l.engine.turn.engine }).1.sweep.Backed
        (handle event { l with engine := l.engine.turn.engine }).1.engine
      rw [h_engine]
      exact backed_handle (l := { l with engine := r' }) (h.keeps h_keeps) he
  | outside happening => exact h.keeps (Responder.keeps_undergo happening l.engine)

theorem backed_after (r : Responder) (inputs : List (Input Responder.Happening)) :
    ((ofEngine r).after undergo inputs).1.sweep.Backed
      ((ofEngine r).after undergo inputs).1.engine :=
  after_invariant undergo (P := fun l => l.sweep.Backed l.engine) (.fresh r)
    (fun input _ h => backed_step input h) inputs

/-! ### What wakes a parked query -/

/-- Something is still to come that the loop waits for.  If the responder has failed, that is in
its queue.  If not, every outstanding resolution is pending and the responder wakes up for its
deadline, or its end is in the queue; as long as the sweep is not surveyed, the responder wakes up
to settle, or the queue says that it has settled; and so there is an event in the queue, or a time
to wake up. -/
def WillWake (l : EventLoop Responder) : Prop :=
  (l.engine.state = .failure ∧ .engine .failure ∈ l.engine.events) ∨
  (l.engine.state ≠ .failure ∧
    (∀ id sighting, l.sweep.outstanding[id]? = some sighting →
      (∃ p ∈ l.engine.resolving, p.id = id ∧
        ∃ w, l.engine.wakeTime? = some w ∧ w ≤ p.deadline) ∨
      ∃ event ∈ l.engine.events, event.resolution? = some id) ∧
    (l.sweep.surveyed = false →
      (∃ b t, l.engine.browsing = some b ∧ b.settlesAt = some t ∧
        ∃ w, l.engine.wakeTime? = some w ∧ w ≤ t) ∨
      .cacheExhausted ∈ l.engine.events) ∧
    (l.engine.events ≠ [] ∨ ∃ w, l.engine.wakeTime? = some w))

/-- A responder to which a sweep under way looks has an event in its queue, or a time to wake up. -/
theorem exists_wake {s : Sweep} {r : Responder} (h : s.Backed r) (hp : s.progress = .browsing) :
    r.events ≠ [] ∨ ∃ w, r.wakeTime? = some w := by
  have h_started := Sweep.started_of_browsing hp
  cases hn : s.surveyed with
  | false =>
    rcases (h.settles h_started hn).wakes with ⟨b, t, -, -, w, hw, -⟩ | h_event
    · exact .inr ⟨w, hw⟩
    · exact .inl (List.ne_nil_of_mem h_event)
  | true =>
    -- surveyed but not complete, so a resolution is outstanding
    obtain ⟨id, sighting, ho⟩ := Sweep.exists_outstanding h_started hn (by simp [hp])
    rcases (h.owed id sighting ho).wakes with ⟨p, -, -, w, hw, -⟩ | ⟨event, h_event, -⟩
    · exact .inr ⟨w, hw⟩
    · exact .inl (List.ne_nil_of_mem h_event)

/-- **No wake-up is lost.** After every run of a loop over a responder, whatever arrives, however
the clock goes on and whatever the system refuses: if a query is parked, something is still to come
that it waits for. -/
theorem parked_wakes (r : Responder) (inputs : List (Input Responder.Happening))
    (h_parked : ((ofEngine r).after undergo inputs).1.parked ≠ []) :
    ((ofEngine r).after undergo inputs).1.WillWake := by
  have h_backed := backed_after r inputs
  have h_parking := parkedWhileBrowsing_after undergo r inputs
  have h_browsing := h_parking h_parked
  have h_started := h_parking.started h_parked
  -- a failed responder reports it, any other will be woken
  by_cases h_state : ((ofEngine r).after undergo inputs).1.engine.state = .failure
  · exact .inl ⟨h_state, h_backed.failing h_started (by simp [h_browsing]) h_state⟩
  · refine .inr ⟨h_state, ?_, ?_, exists_wake h_backed h_browsing⟩
    · exact fun id sighting ho => (h_backed.owed id sighting ho).wakes
    · exact fun hn => (h_backed.settles h_started hn).wakes

/-- The responder of a host without interfaces, on a socket for IPv4. -/
def plainResponder : Responder :=
  .on { hostName := .ok [], interfaces := [], listingFault := none, refuses := fun _ _ => none } {}
    { transport := .v4 }

/-- A query is still parked when its question was sent and half a second has passed. -/
theorem parked_wakes_plain :
    let inputs : List (Input Responder.Happening) :=
      [.command 0 (.query .any), .poll, .poll, .outside (.timePasses 500)]
    ((ofEngine plainResponder).after undergo inputs).1.parked ≠ [] ∧
      ((ofEngine plainResponder).after undergo inputs).1.WillWake :=
  ⟨by decide +kernel, parked_wakes plainResponder _ (by decide +kernel)⟩

end EventLoop
end ServiceDiscovery
