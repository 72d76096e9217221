import ServiceDiscovery.Multicast.Setup
import ServiceDiscovery.Proofs.Multicast.Reports
import ServiceDiscovery.Proofs.Responder.Turns
import ServiceDiscovery.Proofs.Since

/-!
# The fate of a resolution

A responder gives every resolution that it accepts a number.  From then on it has the number in
hand (`Responder.inHand`), first with the resolution that is pending, then with the event that ends
it, until that event is reported or the resolution is released.  Work moves numbers from the pending
resolutions to the queue and does nothing else to them: what is in hand is the same up to its order
(`Responder.Carries`).

A `Responder.Dealings` is a responder together with all that was dealt with it: which numbers it
accepted, which were released, and what it reported.  The invariant `Dealings.Accounted` ties the
numbers in hand to that history.  From it `Responder.one_fate`: a number that was accepted and not
released since is pending, or queued, or was reported, once and in only one of these ways; no number
is accepted twice; and once a number is released nothing is heard of it again.
-/

namespace ServiceDiscovery
namespace Responder

open Dns (Packet Message)

/-! ### Numbers in hand -/

/-- The resolutions that some events end. -/
def ended (events : List Event) : List Nat := events.filterMap Event.resolution?

/-- The numbers of the resolutions that are pending or whose end is queued. -/
def inHand (r : Responder) : List Nat := r.resolving.map (·.id) ++ ended r.events

theorem ended_append (a b : List Event) : ended (a ++ b) = ended a ++ ended b :=
  List.filterMap_append

/-- Events that end no resolution. -/
theorem ended_eq_nil {events : List Event} (h : ∀ event ∈ events, event.resolution? = none) :
    ended events = [] :=
  List.filterMap_eq_nil_iff.mpr h

variable {r r' r'' : Responder}

/-- Another responder has the same numbers in hand, and will give the same number next. -/
structure Carries (r r' : Responder) : Prop where
  inHand : (inHand r').Perm (inHand r)
  next : r'.nextResolution = r.nextResolution

namespace Carries

theorem refl (r : Responder) : r.Carries r := ⟨.refl _, rfl⟩

theorem trans (h : r.Carries r') (h' : r'.Carries r'') : r.Carries r'' :=
  ⟨h'.inHand.trans h.inHand, h'.next.trans h.next⟩

/-- Queueing events that end no resolution. -/
theorem of_append (events : List Event) (h_none : ∀ event ∈ events, event.resolution? = none)
    (he : r'.events = r.events ++ events) (hr : r'.resolving = r.resolving)
    (hn : r'.nextResolution = r.nextResolution) : r.Carries r' where
  inHand := by
    unfold Responder.inHand
    rw [he, hr, ended_append, ended_eq_nil h_none, List.append_nil]
  next := hn

theorem of_eq (he : r'.events = r.events) (hr : r'.resolving = r.resolving)
    (hn : r'.nextResolution = r.nextResolution) : r.Carries r' :=
  of_append [] (by simp) (by rw [he, List.append_nil]) hr hn

/-- Moving pending resolutions to the queue.  Which ones are moved is decided for each of them. -/
theorem of_move {f : Resolving → Option Event}
    (hf : ∀ p event, f p = some event → event.resolution? = some p.id)
    (hr : r'.resolving = r.resolving.filter fun p => (f p).isNone)
    (he : r'.events = r.events ++ r.resolving.filterMap f)
    (hn : r'.nextResolution = r.nextResolution) : r.Carries r' where
  inHand := by
    have h_split : ∀ l : List Resolving,
        ((l.filter fun p => (f p).isNone).map (·.id) ++ ended (l.filterMap f)).Perm
          (l.map (·.id)) := by
      intro l
      induction l with
      | nil => exact .refl _
      | cons p l ih =>
        cases hp : f p with
        | none =>
          -- the resolution stays
          simp only [List.filter_cons, hp, Option.isNone_none, if_true, List.map_cons,
            List.cons_append, List.filterMap_cons]
          exact ih.cons p.id
        | some event =>
          -- the resolution moves, and its number with it
          have h_id : event.resolution? = some p.id := hf p event hp
          simp only [List.filter_cons, hp, Option.isNone_some, Bool.false_eq_true, if_false,
            List.map_cons, List.filterMap_cons, ended, h_id]
          exact List.perm_middle.trans (ih.cons p.id)
    unfold Responder.inHand
    rw [hr, he, ended_append]
    -- the queue keeps its place, and the moved numbers go behind it
    refine (List.perm_append_comm_assoc _ _ _).trans ?_
    refine ((h_split r.resolving).append_left _).trans ?_
    exact List.perm_append_comm
  next := hn

end Carries

/-! ### Work carries what is in hand -/

theorem carries_announce (place : Nat) (r : Responder) : r.Carries (r.announce place) := by
  obtain h_eq | ⟨service, -, h_eq | h_eq⟩ := announce_cases place r <;> rw [h_eq]
  · exact .refl r
  · exact .of_eq rfl rfl rfl
  · exact .of_append [.established] (by simp [Event.resolution?]) rfl rfl rfl

theorem carries_announceDue (now : Nat) (r : Responder) : r.Carries (r.announceDue now) := by
  refine announceDue_induction (P := r.Carries) ?_ ?_ now (.refl r)
  · exact fun _ _ h => h.trans (.of_eq rfl rfl rfl)
  · exact fun r' place h => h.trans (carries_announce place r')

theorem carries_queryDue (now : Nat) (r : Responder) : r.Carries (r.queryDue now) := by
  obtain h_eq | ⟨b, -, -, h_eq⟩ := queryDue_cases now r <;> rw [h_eq]
  · exact .refl r
  · exact .of_append _ (fun _ => (PeerTable.reports_age _ _).resolution?) rfl rfl rfl

theorem carries_settleDue (now : Nat) (r : Responder) : r.Carries (r.settleDue now) := by
  obtain h_eq | ⟨b, -, h_eq⟩ := settleDue_cases now r <;> rw [h_eq]
  · exact .refl r
  · exact .of_append [.cacheExhausted, .allForNow] (by simp [Event.resolution?]) rfl rfl rfl

/-- Resolutions whose time is up move to the queue. -/
theorem carries_expireDue (now : Nat) (r : Responder) : r.Carries (r.expireDue now) := by
  refine .of_move
    (f := fun p => if p.deadline ≤ now then some (.unresolved p.id "timed out") else none)
    ?_ ?_ ?_ rfl
  · -- the event that a resolution leaves carries its number
    intro p event h
    split at h
    · rw [← Option.some.inj h]; rfl
    · exact absurd h (by simp)
  · -- those that are kept are those that leave no event
    refine List.filter_congr fun p _ => ?_
    by_cases hp : p.deadline ≤ now
    · simp [hp, Nat.not_lt.mpr hp]
    · simp [hp, Nat.lt_of_not_le hp]
  · -- and the events that are queued are those of the rest
    change r.events ++ _ = _
    rw [← List.filterMap_eq_map, List.filterMap_filter]
    simp

theorem carries_flushSome (count : Nat) (r : Responder) : r.Carries (r.flushSome count).2 := by
  obtain h_eq | ⟨t, -, h_eq⟩ := flushSome_cases count r <;> rw [h_eq]
  · exact .refl r
  · exact .of_eq rfl rfl rfl

theorem carries_noteClaims (m : Message) (r : Responder) : r.Carries (r.noteClaims m) := by
  refine .of_append _ ?_ rfl rfl rfl
  intro event h
  obtain ⟨_, -, rfl⟩ := List.mem_map.mp h
  rfl

/-- Resolutions for which all is known move to the queue. -/
theorem carries_completeKnown (table : PeerTable) (r : Responder) :
    r.Carries (r.completeKnown table) := by
  refine .of_move
    (f := fun p => (table.contact? p.sighting p.protocol).map (.found p.id)) ?_ ?_ rfl rfl
  · -- a resolution that is completed leaves a contact under its number
    intro p event h
    obtain ⟨contact, -, rfl⟩ := Option.map_eq_some_iff.mp h
    rfl
  · refine List.filter_congr fun p _ => ?_
    rw [Option.isNone_map]

/-- What a table reports on a record ends no resolution. -/
theorem carries_takeIn (m : Message) (source : SocketAddress) (r : Responder) :
    r.Carries (r.takeIn m source) := by
  refine (carries_noteClaims m r).trans ?_
  obtain h_eq | ⟨b, -, -, h_eq⟩ := takeIn_cases m source r <;> rw [h_eq]
  · exact .refl _
  · refine .trans ?_ (carries_completeKnown _ _)
    exact .of_append _ (fun _ => (PeerTable.reports_takeIn _ _ _).resolution?) rfl rfl rfl

theorem carries_receive (octets : Packet) (source : SocketAddress) (r : Responder) :
    r.Carries (r.receive octets source) := by
  obtain h_eq | ⟨m, -, -, ⟨-, h_eq⟩ | ⟨-, h_eq⟩⟩ := receive_cases octets source r <;> rw [h_eq]
  · exact .refl r
  · exact carries_takeIn m source r
  · exact .of_eq rfl rfl rfl

theorem carries_attach (h : r.attach = .ok r') : r.Carries r' := by
  obtain ⟨t, -, rfl⟩ | ⟨t, -, rfl⟩ := attach_cases h
  · exact .refl _
  · exact .of_append [.engine .running] (by simp [Event.resolution?]) rfl rfl rfl

/-- A failure strands the resolutions that are pending, and drops none. -/
theorem carries_fail (r : Responder) : r.Carries r.fail :=
  .of_append [.engine .failure] (by simp [Event.resolution?]) rfl rfl rfl

theorem respected_carries : Respected Carries where
  refl := .refl
  trans := .trans
  announceDue := carries_announceDue
  queryDue := carries_queryDue
  settleDue := carries_settleDue
  expireDue := carries_expireDue
  flushSome := carries_flushSome
  receive := carries_receive
  attach := carries_attach
  fail := carries_fail
  machine _ _ := .of_eq rfl rfl rfl

/-! ### Requests -/

theorem carries_publish (ad : Advertisement) (r : Responder) : r.Carries (r.publish ad).2 := by
  obtain ⟨refusal, h_eq⟩ | ⟨host, service, -, -, -, h_eq⟩ := publish_cases ad r <;> rw [h_eq]
  · exact .refl r
  · exact .of_eq rfl rfl rfl

theorem carries_browse (type : String) (scope : IpScope) (r : Responder) :
    r.Carries (r.browse type scope).2 := by
  obtain ⟨refusal, h_eq⟩ | ⟨b, -, -, -, h_eq⟩ := browse_cases type scope r <;> rw [h_eq]
  · exact .refl r
  · exact .of_eq rfl rfl rfl

/-- A resolution that is accepted gets the next number, which is in hand from then on. -/
theorem inHand_resolve_ok {sighting : Sighting} {protocol : IpScope} {id : Nat}
    (h : r.resolve sighting protocol = (.ok id, r')) :
    id = r.nextResolution ∧ r'.nextResolution = id + 1 ∧ (inHand r').Perm (id :: inHand r) := by
  obtain ⟨refusal, h_eq⟩ | ⟨refusal, h_eq⟩ | ⟨b, -, -, ⟨c, -, h_eq⟩ | ⟨packet, -, -, h_eq⟩⟩ :=
    resolve_cases sighting protocol r <;> rw [h_eq] at h
  · exact absurd h (by simp)
  · exact absurd h (by simp)
  · -- the contact is known, so the end of the resolution is queued at once
    obtain ⟨h_id, rfl⟩ := Prod.mk.inj h
    obtain rfl := Except.ok.inj h_id
    refine ⟨rfl, rfl, ?_⟩
    show (r.resolving.map (·.id) ++ ended (r.events ++ [.found r.nextResolution c])).Perm _
    rw [ended_append, ← List.append_assoc]
    exact List.perm_append_comm
  · obtain ⟨h_id, rfl⟩ := Prod.mk.inj h
    obtain rfl := Except.ok.inj h_id
    refine ⟨rfl, rfl, ?_⟩
    show ((r.resolving ++ [r.nextResolving sighting protocol]).map (·.id) ++ ended r.events).Perm _
    rw [List.map_append, List.append_assoc]
    exact List.perm_middle

/-- A refused resolution may use a number up, and leaves what is in hand as it was. -/
theorem inHand_resolve_error {sighting : Sighting} {protocol : IpScope} {refusal : Refusal}
    (h : r.resolve sighting protocol = (.error refusal, r')) :
    r.nextResolution ≤ r'.nextResolution ∧ inHand r' = inHand r := by
  obtain ⟨_, h_eq⟩ | ⟨_, h_eq⟩ | ⟨b, -, -, ⟨c, -, h_eq⟩ | ⟨packet, -, -, h_eq⟩⟩ :=
    resolve_cases sighting protocol r <;> rw [h_eq] at h
  · -- refused at once
    obtain ⟨-, rfl⟩ := Prod.mk.inj h
    exact ⟨Nat.le_refl _, rfl⟩
  · -- refused after its number was drawn, which is not used again
    obtain ⟨-, rfl⟩ := Prod.mk.inj h
    exact ⟨Nat.le_succ _, rfl⟩
  · exact absurd h (by simp)
  · exact absurd h (by simp)

/-- Releasing a number takes it out of hand, and no other. -/
theorem inHand_release (id : Nat) (r : Responder) :
    inHand (r.release id) = (inHand r).filter (· ≠ id) := by
  -- the events that are forgotten are those of this number
  have h_events : ended (r.events.filter (·.resolution? ≠ some id)) =
      (ended r.events).filter (· ≠ id) := by
    unfold ended
    rw [List.filterMap_filter, List.filter_filterMap]
    congr 1
    funext event
    cases event.resolution? <;> simp [Option.filter]
  unfold inHand release
  rw [h_events, List.filter_append, List.filter_map]
  rfl

/-- What is reported leaves the hand. -/
theorem inHand_of_events {event : Event} {events : List Event} (he : r.events = event :: events) :
    (inHand r).Perm (event.resolution?.toList ++ inHand { r with events }) := by
  -- the event in front is the only one that is taken
  have h_ended : ended (event :: events) = event.resolution?.toList ++ ended events := by
    unfold ended
    cases h : event.resolution? <;> simp [h]
  unfold inHand
  rw [he, h_ended]
  exact List.perm_append_comm_assoc _ _ _

/-! ### Dealings -/

/-- What a responder is asked for, and what happens to it. -/
inductive Input
  | publish (ad : Advertisement)
  | browse (type : String) (scope : IpScope)
  | resolve (sighting : Sighting) (protocol : IpScope)
  | release (id : Nat)
  /-- The responder is asked for its next event. -/
  | poll
  | outside (happening : Happening)

/-- What can be told of an input from the answer of the responder. -/
inductive Dealing
  /-- A resolution was accepted, under a number. -/
  | accepted (id : Nat)
  /-- A number was released. -/
  | released (id : Nat)
  /-- An event was reported. -/
  | reported (event : Event)
  /-- Nothing that concerns resolutions, or a refusal. -/
  | nothing

/-- Goes through one input. -/
def step (input : Input) (r : Responder) : Responder × Dealing :=
  match input with
  | .publish ad => ((r.publish ad).2, .nothing)
  | .browse type scope => ((r.browse type scope).2, .nothing)
  | .resolve sighting protocol =>
    match r.resolve sighting protocol with
    | (.ok id, r) => (r, .accepted id)
    | (.error _, r) => (r, .nothing)
  | .release id => (r.release id, .released id)
  | .poll =>
    match r.turn.event with
    | some event => (r.turn.engine, .reported event)
    | none => (r.turn.engine, .nothing)
  | .outside happening => (undergo happening r, .nothing)

/-- A resolution that is refused may use a number up all the same. -/
theorem step_resolve (k : Sighting) (q : IpScope) (r : Responder) :
    (r.step (.resolve k q)).1 = (r.resolve k q).2 ∧
      ∀ event, (r.step (.resolve k q)).2 ≠ .reported event := by
  unfold step
  dsimp only
  split <;> next h => exact ⟨by rw [h], by simp⟩

/-- What is reported leaves the queue. -/
theorem step_poll {R : Responder → Responder → Prop} (h : ReportsAlong R r r.turn) :
    ∃ r', R r r' ∧ (r.step .poll = (r', .nothing) ∨
      ∃ event events, r'.events = event :: events ∧
        r.step .poll = ({ r' with events }, .reported event)) := by
  obtain ⟨r', h_rel, ⟨h_event, h_engine⟩ | ⟨event, events, he, h_event, h_engine⟩⟩ := h
  · exact ⟨r', h_rel, .inl (by simp only [step, h_event, h_engine])⟩
  · exact ⟨r', h_rel, .inr ⟨event, events, he, by simp only [step, h_event, h_engine]⟩⟩

/-- **The four ways of a step.** What was dealt says what becomes of the numbers in hand. -/
theorem step_cases (input : Input) (r : Responder) :
    (∃ id, (r.step input).2 = .accepted id ∧ id = r.nextResolution ∧
      (r.step input).1.nextResolution = id + 1 ∧ (inHand (r.step input).1).Perm (id :: inHand r)) ∨
    (∃ id, (r.step input).2 = .released id ∧
      (r.step input).1.nextResolution = r.nextResolution ∧
      inHand (r.step input).1 = (inHand r).filter (· ≠ id)) ∨
    (∃ event, (r.step input).2 = .reported event ∧
      (r.step input).1.nextResolution = r.nextResolution ∧
      (inHand r).Perm (event.resolution?.toList ++ inHand (r.step input).1)) ∨
    ((r.step input).2 = .nothing ∧ r.nextResolution ≤ (r.step input).1.nextResolution ∧
      (inHand (r.step input).1).Perm (inHand r)) := by
  -- where nothing is handed over, the numbers in hand only change places
  have h_quiet : ∀ {r'}, r.Carries r' →
      r.nextResolution ≤ r'.nextResolution ∧ (inHand r').Perm (inHand r) :=
    fun h => ⟨Nat.le_of_eq h.next.symm, h.inHand⟩
  cases input with
  -- publishing, browsing and what happens outside hand over no number
  | publish ad => exact .inr (.inr (.inr ⟨rfl, h_quiet (carries_publish ad r)⟩))
  | browse type scope => exact .inr (.inr (.inr ⟨rfl, h_quiet (carries_browse type scope r)⟩))
  | outside happening =>
    exact .inr (.inr (.inr ⟨rfl, h_quiet (respected_carries.undergo happening r)⟩))
  -- the number that is released is no longer in hand
  | release id => exact .inr (.inl ⟨id, rfl, rfl, inHand_release id r⟩)
  | resolve sighting protocol =>
    rcases hr : r.resolve sighting protocol with ⟨refusal | id, r'⟩
    · -- refused: no number is handed out
      have h_step : r.step (.resolve sighting protocol) = (r', .nothing) := by simp only [step, hr]
      obtain ⟨h_next, h_hand⟩ := inHand_resolve_error hr
      rw [h_step]
      exact .inr (.inr (.inr ⟨rfl, h_next, .of_eq h_hand⟩))
    · -- an accepted one is in hand from now on
      have h_step : r.step (.resolve sighting protocol) = (r', .accepted id) := by
        simp only [step, hr]
      rw [h_step]
      exact .inl ⟨id, rfl, inHand_resolve_ok hr⟩
  | poll =>
    obtain ⟨r', h_carries, h_step | ⟨event, events, he, h_step⟩⟩ :=
      step_poll (respected_carries.turn r)
    · rw [h_step]
      exact .inr (.inr (.inr ⟨rfl, h_quiet h_carries⟩))
    · -- the responder carries its numbers up to the report, and hands one of them over
      rw [h_step]
      exact .inr (.inr (.inl
        ⟨event, rfl, h_carries.next, h_carries.inHand.symm.trans (inHand_of_events he)⟩))

/-- A responder, and what was dealt with it so far. -/
structure Dealings where
  responder : Responder
  history : List Dealing

/-- The numbers that were accepted, in order. -/
def acceptances (history : List Dealing) : List Nat :=
  history.filterMap fun
    | .accepted id => some id
    | _ => none

/-- The numbers of the resolutions whose end was reported, in order. -/
def reportedEnds (history : List Dealing) : List Nat :=
  history.filterMap fun
    | .reported event => event.resolution?
    | _ => none

/-- A number was accepted, and not released since. -/
def Held (id : Nat) (history : List Dealing) : Prop :=
  Since (fun _ d => d = .accepted id) (fun _ d => d = .released id) history

theorem acceptances_append (a b : List Dealing) :
    acceptances (a ++ b) = acceptances a ++ acceptances b :=
  List.filterMap_append

theorem reportedEnds_append (a b : List Dealing) :
    reportedEnds (a ++ b) = reportedEnds a ++ reportedEnds b :=
  List.filterMap_append

/-- A dealing that accepts nothing adds no number. -/
theorem acceptances_concat {history : List Dealing} {d : Dealing} (hd : ∀ id, d ≠ .accepted id) :
    acceptances (history ++ [d]) = acceptances history := by
  have h_none : acceptances [d] = [] := by
    cases d with
    | accepted id => exact absurd rfl (hd id)
    | _ => rfl
  rw [acceptances_append, h_none, List.append_nil]

theorem mem_acceptances {id : Nat} {history : List Dealing} :
    id ∈ acceptances history ↔ .accepted id ∈ history := by
  unfold acceptances
  rw [List.mem_filterMap]
  constructor
  · rintro ⟨d, hd, h⟩
    cases d with
    | accepted id' => rw [← Option.some.inj h]; exact hd
    | _ => exact absurd h (by simp)
  · -- and an acceptance gives its own number
    exact fun h => ⟨_, h, rfl⟩

theorem Held.mem_acceptances {id : Nat} {history : List Dealing} (h : Held id history) :
    id ∈ acceptances history := by
  obtain ⟨before, _, later, rfl, rfl, -⟩ := h
  exact Responder.mem_acceptances.mpr (by simp)

theorem not_held_nil (id : Nat) : ¬ Held id [] :=
  not_since_nil

/-- The last dealing decides whether a number is held. -/
theorem held_concat {id : Nat} {history : List Dealing} {d : Dealing} :
    Held id (history ++ [d]) ↔ d = .accepted id ∨ (Held id history ∧ d ≠ .released id) :=
  since_concat

namespace Dealings

/-- The dealings with a responder of which nothing was asked. -/
def ofResponder (r : Responder) : Dealings := { responder := r, history := [] }

/-- Goes through one input, and writes down what was dealt. -/
def advance (input : Input) (c : Dealings) : Dealings :=
  { responder := (c.responder.step input).1, history := c.history ++ [(c.responder.step input).2] }

/-- Goes through some inputs. -/
def after (inputs : List Input) (c : Dealings) : Dealings :=
  inputs.foldl (fun c input => c.advance input) c

/-- The last input acts on what the others leave. -/
theorem after_concat (inputs : List Input) (input : Input) (c : Dealings) :
    c.after (inputs ++ [input]) = (c.after inputs).advance input := by
  unfold after
  rw [List.foldl_append]
  rfl

/-- The numbers in hand are accounted for by the history. -/
structure Accounted (c : Dealings) : Prop where
  /-- A number that was accepted is not given again. -/
  accepted_lt : ∀ id ∈ acceptances c.history, id < c.responder.nextResolution
  /-- Numbers ascend. -/
  ascending : (acceptances c.history).Pairwise (· < ·)
  /-- What is in hand was accepted, and not released since. -/
  held : ∀ id ∈ inHand c.responder, Held id c.history
  /-- What was accepted and not released since is in hand or was reported, and that once. -/
  once : ∀ id, Held id c.history →
    (inHand c.responder).count id + (reportedEnds c.history).count id = 1
  /-- Only what was held at that point was reported. -/
  reported : ∀ before event later, c.history = before ++ .reported event :: later →
    ∀ id, event.resolution? = some id → Held id before
  /-- What was accepted and released later is not held any more, and was not reported since. -/
  released : ∀ before id later, c.history = before ++ .released id :: later →
    .accepted id ∈ before → ¬ Held id c.history ∧ id ∉ reportedEnds later

namespace Accounted

variable {c : Dealings}

/-- What was reported had been accepted. -/
theorem mem_acceptances_of_reported (h : c.Accounted) {id : Nat}
    (h_id : id ∈ reportedEnds c.history) : id ∈ acceptances c.history := by
  obtain ⟨d, hd, h_ends⟩ := List.mem_filterMap.mp h_id
  obtain ⟨before, later, h_split⟩ := List.append_of_mem hd
  cases d with
  | reported event =>
    -- what is reported was held, and what is held was accepted before
    have h_held : Held id before := h.reported before event later h_split id h_ends
    rw [h_split, acceptances_append]
    exact List.mem_append_left _ h_held.mem_acceptances
  | _ => exact absurd h_ends (by simp)

theorem lt_of_mem_reportedEnds (h : c.Accounted) {id : Nat} (h_id : id ∈ reportedEnds c.history) :
    id < c.responder.nextResolution :=
  h.accepted_lt id (h.mem_acceptances_of_reported h_id)

/-- A number that is not accepted yet is neither in hand nor was it reported. -/
theorem count_next (h : c.Accounted) :
    (inHand c.responder).count c.responder.nextResolution = 0 ∧
      (reportedEnds c.history).count c.responder.nextResolution = 0 := by
  constructor
  · -- a number in hand was accepted, so it is below the next one
    refine List.count_eq_zero.mpr fun h_mem => ?_
    exact absurd (h.accepted_lt _ (h.held _ h_mem).mem_acceptances) (Nat.lt_irrefl _)
  · -- so is a number that was reported
    exact List.count_eq_zero.mpr fun h_mem => absurd (h.lt_of_mem_reportedEnds h_mem)
      (Nat.lt_irrefl _)

/-- What is reported next is held so far. -/
theorem reported_concat (h : c.Accounted) {d : Dealing}
    (h_reported : ∀ event, d = .reported event →
      ∀ id, event.resolution? = some id → Held id c.history) :
    ∀ before event later, c.history ++ [d] = before ++ .reported event :: later →
      ∀ id, event.resolution? = some id → Held id before := by
  intro before event later h_split id h_id
  -- the report is the last dealing, or one of those before
  rcases concat_eq_append_cons.mp h_split with ⟨rfl, rfl, -⟩ | ⟨later, -, h_split⟩
  · exact h_reported event rfl id h_id
  · exact h.reported before event later h_split id h_id

/-- A number that is not held any more is held again only if it is accepted again. -/
theorem released_concat (h : c.Accounted) {d : Dealing}
    (h_accepted : ∀ id, d = .accepted id → id ∉ acceptances c.history)
    (h_reported : ∀ event, d = .reported event →
      ∀ id, event.resolution? = some id → Held id c.history) :
    ∀ before id later, c.history ++ [d] = before ++ .released id :: later →
      .accepted id ∈ before → ¬ Held id (c.history ++ [d]) ∧ id ∉ reportedEnds later := by
  intro before id later h_split h_before
  rw [held_concat]
  rcases concat_eq_append_cons.mp h_split with ⟨rfl, rfl, rfl⟩ | ⟨later, rfl, h_old⟩
  · -- it is released just now
    refine ⟨?_, List.not_mem_nil⟩
    rintro (h_eq | ⟨-, h_ne⟩)
    · exact absurd h_eq (by simp)
    · exact h_ne rfl
  · obtain ⟨h_gone, h_silent⟩ := h.released before id later h_old h_before
    constructor
    · rintro (h_eq | ⟨h_held, -⟩)
      · refine h_accepted id h_eq (mem_acceptances.mpr ?_)
        rw [h_old]
        exact List.mem_append_left _ h_before
      · exact h_gone h_held
    · rw [reportedEnds_append]
      intro h_mem
      rcases List.mem_append.mp h_mem with h_mem | h_mem
      · exact h_silent h_mem
      · -- what is reported just now would be held
        obtain ⟨d', hd', h_id⟩ := List.mem_filterMap.mp h_mem
        rw [List.mem_singleton.mp hd'] at h_id
        cases d with
        | reported event => exact h_gone (h_reported event rfl id h_id)
        | _ => exact absurd h_id (by simp)

theorem fresh (os : OperatingSystem) (settings : Settings) (opened : Opened) :
    (ofResponder (.on os settings opened)).Accounted where
  -- nothing has been dealt with, and nothing is in hand
  accepted_lt _ h := absurd h List.not_mem_nil
  ascending := .nil
  held _ h := absurd h List.not_mem_nil
  once id h := absurd h (not_held_nil id)
  reported before event later h := absurd h (by simp [ofResponder])
  released before id later h := absurd h (by simp [ofResponder])

/-- A number is accepted.  It is new, so nothing was known of it. -/
theorem accept (h : c.Accounted) {r : Responder} {id : Nat} (h_id : id = c.responder.nextResolution)
    (h_next : r.nextResolution = id + 1) (h_hand : (inHand r).Perm (id :: inHand c.responder)) :
    Accounted { responder := r, history := c.history ++ [.accepted id] } := by
  subst h_id
  -- the new number was neither in hand nor reported
  obtain ⟨h_hand₀, h_ends₀⟩ := h.count_next
  exact {
    accepted_lt := by
      intro id h_id
      rw [h_next]
      -- the numbers go up by one
      rcases List.mem_append.mp (acceptances_append _ _ ▸ h_id) with h_old | h_new
      · exact Nat.lt_succ_of_lt (h.accepted_lt id h_old)
      · rw [List.mem_singleton.mp h_new]
        exact Nat.lt_succ_self _
    ascending := by
      rw [acceptances_append]
      refine List.pairwise_append.mpr ⟨h.ascending, List.pairwise_singleton _ _, ?_⟩
      intro id h_id id' h_id'
      rw [List.mem_singleton.mp h_id']
      exact h.accepted_lt id h_id
    held := by
      intro id h_id
      rw [held_concat]
      rcases List.mem_cons.mp (h_hand.mem_iff.mp h_id) with rfl | h_old
      · exact .inl rfl
      · exact .inr ⟨h.held id h_old, by simp⟩
    once := by
      intro id h_id
      -- the new number is in hand once; for any other, nothing has changed
      rw [h_hand.count_eq, reportedEnds_append, List.count_append]
      by_cases h_eq : id = c.responder.nextResolution
      · subst h_eq
        rw [List.count_cons_self, h_hand₀, h_ends₀]
        rfl
      · rw [List.count_cons_of_ne (Ne.symm h_eq)]
        rw [held_concat] at h_id
        rcases h_id with h_new | ⟨h_old, -⟩
        · exact absurd (Dealing.accepted.inj h_new).symm h_eq
        · exact h.once id h_old
    reported := h.reported_concat (by simp)
    released := by
      -- a number that was released before it was accepted cannot be this one
      refine h.released_concat (fun id h_eq h_mem => ?_) (by simp)
      rw [← Dealing.accepted.inj h_eq] at h_mem
      exact absurd (h.accepted_lt _ h_mem) (Nat.lt_irrefl _) }

/-- Nothing is accepted.  What was in hand is in hand, or it is reported or released just now. -/
theorem retain (h : c.Accounted) {r : Responder} {d : Dealing} (h_none : ∀ id, d ≠ .accepted id)
    (h_next : c.responder.nextResolution ≤ r.nextResolution)
    (h_gone : ∀ id, d = .released id → id ∉ inHand r)
    (h_hand : ∀ id, d ≠ .released id →
      (inHand c.responder).count id = (reportedEnds [d]).count id + (inHand r).count id) :
    Accounted { responder := r, history := c.history ++ [d] } := by
  have h_reported : ∀ event, d = .reported event →
      ∀ id, event.resolution? = some id → Held id c.history := by
    rintro event rfl id h_id
    -- what is reported leaves the hand, so it was in it
    refine h.held id (List.count_pos_iff.mp ?_)
    have h_ends : reportedEnds [.reported event] = [id] := by
      simp [reportedEnds, h_id]
    rw [h_hand id (by simp), h_ends, List.count_singleton_self]
    omega
  exact {
    accepted_lt := by
      rw [acceptances_concat h_none]
      exact fun id h_id => Nat.lt_of_lt_of_le (h.accepted_lt id h_id) h_next
    ascending := by
      rw [acceptances_concat h_none]
      exact h.ascending
    held := by
      intro id h_id
      -- what is in hand after this dealing was not released by it
      have h_ne : d ≠ .released id := fun h_eq => h_gone id h_eq h_id
      refine held_concat.mpr (.inr ⟨h.held id (List.count_pos_iff.mp ?_), h_ne⟩)
      rw [h_hand id h_ne]
      exact Nat.lt_of_lt_of_le (List.count_pos_iff.mpr h_id) (Nat.le_add_left _ _)
    once := by
      intro id h_id
      rw [held_concat] at h_id
      -- the number was held before, and what left the hand was reported
      obtain ⟨h_old, h_ne⟩ := h_id.resolve_left (h_none id)
      have h_once := h.once id h_old
      rw [h_hand id h_ne] at h_once
      change (inHand r).count id + _ = 1
      rw [reportedEnds_append, List.count_append]
      omega
    reported := h.reported_concat h_reported
    released := h.released_concat (fun id h_eq => absurd h_eq (h_none id)) h_reported }

/-- **Invariant preservation.** By what was dealt. -/
theorem advance (h : c.Accounted) (input : Input) : (c.advance input).Accounted := by
  unfold Dealings.advance
  rcases step_cases input c.responder with
    ⟨id, hd, h_id, h_next, h_hand⟩ | ⟨id, hd, h_next, h_hand⟩ | ⟨event, hd, h_next, h_hand⟩ |
    ⟨hd, h_next, h_hand⟩
  · rw [hd]
    exact h.accept h_id h_next h_hand
  · -- what is released is no longer in hand, and everything else is
    rw [hd]
    refine h.retain (by simp) (Nat.le_of_eq h_next.symm) ?_ ?_
    · intro id' h_eq h_mem
      rw [h_hand, ← Dealing.released.inj h_eq] at h_mem
      exact absurd (List.mem_filter.mp h_mem).2 (by simp)
    · intro id' h_ne
      have h_ne' : id' ≠ id := fun h_eq => h_ne (by rw [h_eq])
      have h_count : ((inHand c.responder).filter (· ≠ id)).count id' =
          (inHand c.responder).count id' :=
        List.count_filter (by simpa using h_ne')
      rw [h_hand, h_count]
      exact (Nat.zero_add _).symm
  · -- what is reported goes from the hand to the reports
    rw [hd]
    refine h.retain (by simp) (Nat.le_of_eq h_next.symm) (by simp) fun id _ => ?_
    rw [h_hand.count_eq, List.count_append]
    unfold reportedEnds
    cases h_id : event.resolution? <;> simp [h_id]
  · rw [hd]
    refine h.retain (by simp) h_next (by simp) fun id _ => ?_
    rw [h_hand.count_eq]
    exact (Nat.zero_add _).symm

theorem after (h : c.Accounted) (inputs : List Input) : (c.after inputs).Accounted := by
  induction inputs using List.reverseRecOn with
  | nil => exact h
  | append_singleton inputs input ih =>
    rw [after_concat]
    exact ih.advance input

end Accounted
end Dealings

/-! ### One fate -/

/-- **One fate per resolution.** A responder is set up, and then asked for anything in any order,
while packets arrive, the clock goes on and the system refuses what it likes.

A number that was accepted and not released since is pending once, or the event that ends it is
queued once, or that event was reported once, and only one of these holds.  No number is accepted
twice.  Once a number that was accepted is released, it is neither pending nor queued at the end,
and no event that ends it was reported after the release. -/
theorem one_fate (os : OperatingSystem) (settings : Settings) (opened : Opened)
    (inputs : List Input) :
    let c := (Dealings.ofResponder (.on os settings opened)).after inputs
    let pending (id : Nat) := (c.responder.resolving.map (·.id)).count id
    let queued (id : Nat) := (ended c.responder.events).count id
    let delivered (id : Nat) := (reportedEnds c.history).count id
    (∀ id, Held id c.history →
      (pending id = 1 ∧ queued id = 0 ∧ delivered id = 0) ∨
      (pending id = 0 ∧ queued id = 1 ∧ delivered id = 0) ∨
      (pending id = 0 ∧ queued id = 0 ∧ delivered id = 1)) ∧
    (acceptances c.history).Nodup ∧
    ∀ before id later, c.history = before ++ .released id :: later → .accepted id ∈ before →
      pending id = 0 ∧ queued id = 0 ∧ id ∉ reportedEnds later := by
  intro c pending queued delivered
  have h : c.Accounted := (Dealings.Accounted.fresh os settings opened).after inputs
  -- in hand is what is pending and what waits in line
  have h_hand : ∀ id, (inHand c.responder).count id = pending id + queued id :=
    fun id => List.count_append
  refine ⟨?_, h.ascending.imp Nat.ne_of_lt, ?_⟩
  · intro id h_held
    -- held means in hand or reported, and only once
    have h_once : pending id + queued id + delivered id = 1 := by
      rw [← h_hand id]
      exact h.once id h_held
    omega
  · intro before id later h_split h_before
    obtain ⟨h_gone, h_silent⟩ := h.released before id later h_split h_before
    -- what is released is not held any more, so it is not in hand
    have h_none : pending id + queued id = 0 := by
      rw [← h_hand id]
      exact List.count_eq_zero.mpr fun h_mem => h_gone (h.held id h_mem)
    exact ⟨by omega, by omega, h_silent⟩

end Responder
end ServiceDiscovery
