import ServiceDiscovery.Proofs.Responder.LifeCycle

/-!
# What is done, one thing after the other

A responder that was asked for this and that, and polled in between, has come to its state by single
deeds: requests, elementary operations, reports of its first event, and whatever happens to its
machine.  A list of these is its history in full, while its state only shows what became of it.

What is to be counted along a history is noted at each deed, from the deed and the responder at that
point (`Responder.noted`).  So a record is kept without any change to the responder, and a record is
shown to agree with the state by induction along the deeds, one deed at a time
(`Responder.noted_concat`, `Responder.through_concat`).

Every run is a history of deeds, up to any point of a turn that is just going on, with the same
reports (`Responder.exists_deeds`).
-/

namespace ServiceDiscovery
namespace Responder

open Dns (Packet)

/-- One thing that is done to a responder or by it. -/
inductive Deed
  | publish (ad : Advertisement)
  | browse (type : String) (scope : IpScope)
  | resolve (k : Sighting) (q : IpScope)
  | release (id : Nat)
  /-- The first event is reported. -/
  | report
  /-- The clock goes on, the system changes, or what waits to be received; or a packet that stays in
  line goes out in part. -/
  | machine (m : Machine)
  | attach
  | announce
  | ask
  | settle
  | expire
  | send (count : Nat)
  | receive (octets : Packet) (source : SocketAddress)
  | fail

/-- Does one thing, at the time of the clock. -/
def Deed.act : Deed → Responder → Responder
  | publish ad, r => (r.publish ad).2
  | browse type scope, r => (r.browse type scope).2
  | resolve k q, r => (r.resolve k q).2
  | release id, r => r.release id
  | report, r => { r with events := r.events.tail }
  | machine m, r => { r with machine := m }
  | attach, r => r.attach.toOption.getD r
  | announce, r => r.announceDue r.machine.now
  | ask, r => r.queryDue r.machine.now
  | settle, r => r.settleDue r.machine.now
  | expire, r => r.expireDue r.machine.now
  | send count, r => (r.flushSome count).2
  | receive octets source, r => r.receive octets source
  | fail, r => r.fail

/-- What some deeds make of a responder. -/
def through (deeds : List Deed) (r : Responder) : Responder := deeds.foldl (fun r d => d.act r) r

/-- What is noted along some deeds. -/
def noted {α : Type} (note : Deed → Responder → List α) : List Deed → Responder → List α
  | [], _ => []
  | d :: deeds, r => note d r ++ noted note deeds (d.act r)

variable {α : Type} {note : Deed → Responder → List α} {r r' : Responder}

theorem through_append (deeds more : List Deed) (r : Responder) :
    r.through (deeds ++ more) = (r.through deeds).through more :=
  List.foldl_append

/-- The last deed acts on what the others leave. -/
theorem through_concat (deeds : List Deed) (d : Deed) (r : Responder) :
    r.through (deeds ++ [d]) = d.act (r.through deeds) :=
  through_append deeds [d] r

theorem noted_append (deeds more : List Deed) (r : Responder) :
    noted note (deeds ++ more) r = noted note deeds r ++ noted note more (r.through deeds) := by
  -- on the deeds, whatever the responder is that they begin with
  induction deeds generalizing r with
  | nil => rfl
  | cons d deeds ih =>
    rw [List.cons_append, noted, noted, ih, List.append_assoc]
    rfl

/-- What is noted at the last deed is noted last. -/
theorem noted_concat (deeds : List Deed) (d : Deed) (r : Responder) :
    noted note (deeds ++ [d]) r = noted note deeds r ++ note d (r.through deeds) := by
  rw [noted_append, noted, noted, List.append_nil]

/-! ### Runs -/

/-- The event that a deed reports. -/
def Deed.reports : Deed → Responder → List Event
  | report, r => r.events.head?.toList
  | _, _ => []

/-- Some deeds lead from one responder to another, with some reports. -/
def LeadsTo (r : Responder) (reports : List Event) (r' : Responder) : Prop :=
  ∃ deeds, r' = r.through deeds ∧ reports = noted Deed.reports deeds r

namespace LeadsTo

variable {r'' : Responder} {reports reports' : List Event}

theorem refl (r : Responder) : r.LeadsTo [] r := ⟨[], rfl, rfl⟩

theorem trans (h : r.LeadsTo reports r') (h' : r'.LeadsTo reports' r'') :
    r.LeadsTo (reports ++ reports') r'' := by
  obtain ⟨deeds, rfl, rfl⟩ := h
  obtain ⟨more, rfl, rfl⟩ := h'
  exact ⟨deeds ++ more, (through_append deeds more r).symm, (noted_append deeds more r).symm⟩

/-- A deed that reports nothing. -/
theorem single (d : Deed) (hd : d.reports r = []) : r.LeadsTo [] (d.act r) := by
  refine ⟨[d], rfl, ?_⟩
  rw [noted, noted, hd]
  rfl

/-- Every elementary operation is a deed, after what has arrived has been taken. -/
theorem move (h : r.Move r') : r.LeadsTo [] r' := by
  have h_attach : ∀ {r'}, r.attach = .ok r' → Deed.attach.act r = r' := by
    intro r' ha
    rw [Deed.act, ha]
    rfl
  cases h with
  | attach _ ha => exact h_attach ha ▸ single .attach rfl
  | announceDue _ => exact single .announce rfl
  | queryDue _ _ => exact single .ask rfl
  | settleDue _ => exact single .settle rfl
  | expireDue _ => exact single .expire rfl
  | flushSome count _ => exact single (.send count) rfl
  -- a part of a packet that goes out is seen in the machine alone
  | sendPart _ h_part =>
    obtain ⟨-, -, -, -, m, -, -, -, rfl⟩ := sendPart?_eq_some h_part
    exact single (.machine m) rfl
  | @receive octets source inbox _ _ _ =>
    exact (single (.machine { r.machine with inbox }) rfl).trans (single (.receive octets source) rfl)
  | unattached _ _ => exact single .fail rfl
  | @unheard errno inbox _ _ _ =>
    exact (single (.machine { r.machine with inbox }) rfl).trans (single .fail rfl)

theorem moves (h : r.Moves r') : r.LeadsTo [] r' :=
  h.keep (P := r.LeadsTo []) (fun h_move h => h.trans (move h_move)) (refl r)

/-- What is queued first is reported first. -/
theorem report {event : Event} {events : List Event} (he : r.events = event :: events) :
    r.LeadsTo [event] { r with events } := by
  refine ⟨[.report], ?_, ?_⟩
  · rw [through, List.foldl_cons, List.foldl_nil, Deed.act, he]
    rfl
  · rw [noted, noted, Deed.reports, he]
    rfl

/-- Every input is made of deeds. -/
theorem step (input : Input) (r : Responder) :
    r.LeadsTo (delivered [(r.step input).2]) (r.step input).1 := by
  cases input with
  | publish ad => exact single (.publish ad) rfl
  | browse type scope => exact single (.browse type scope) rfl
  | release id => exact single (.release id) rfl
  | resolve k q =>
    -- a resolution that is begun reports nothing at once
    obtain ⟨h_step, h_quiet⟩ := step_resolve k q r
    have h_none : delivered ([] ++ [(r.step (.resolve k q)).2]) = delivered [] :=
      delivered_concat h_quiet
    change delivered [(r.step (.resolve k q)).2] = [] at h_none
    rw [h_none, h_step]
    exact single (.resolve k q) rfl
  | poll =>
    obtain ⟨r', h_moves, h_step | ⟨event, events, he, h_step⟩⟩ := step_poll (moves_turn r)
    · rw [h_step]
      exact moves h_moves
    · rw [h_step]
      -- the turn comes first, and then its event is reported
      exact (moves h_moves).trans (report he)
  | outside happening =>
    obtain h_moves | ⟨m, h_eq, -⟩ := undergo_cases happening r
    · exact moves h_moves
    · rw [Responder.step, h_eq]
      exact single (.machine m) rfl

end LeadsTo

/-- **Runs are made of deeds.** Whatever a responder is asked for and whatever happens to it, some
deeds lead to it, up to any point of the next turn, and their reports are what was delivered. -/
theorem exists_deeds (start : Responder) (inputs : List Input) {r' : Responder}
    (h : ((Dealings.ofResponder start).after inputs).responder.Moves r') :
    ∃ deeds, r' = start.through deeds ∧
      delivered ((Dealings.ofResponder start).after inputs).history =
        noted Deed.reports deeds start := by
  have h_run : start.LeadsTo (delivered ((Dealings.ofResponder start).after inputs).history)
      ((Dealings.ofResponder start).after inputs).responder := by
    induction inputs using List.reverseRecOn generalizing r' with
    | nil => exact .refl start
    | append_singleton inputs input ih =>
      rw [Dealings.after_concat]
      unfold Dealings.advance
      -- the last input goes on from what the others led to
      rw [delivered, List.filterMap_append]
      exact (ih (.refl _)).trans (.step input _)
  have h_moves := h_run.trans (.moves h)
  rwa [List.append_nil] at h_moves

end Responder
end ServiceDiscovery
