import ServiceDiscovery.Proofs.Responder.Confinement
import ServiceDiscovery.Proofs.Responder.Deeds
import ServiceDiscovery.Proofs.Responder.Waking

/-!
# The books of the announcements

A service is entered in the list of announcements twice when it is published, and every announcement
that is made takes an entry out.  How often a service was announced does not show in the responder;
it is told by the deeds, where each announcement that is put in line is noted
(`Deed.announces`), and so is the time at which each service was published (`Deed.publishes`).

What is noted and what is left in the list belong together (`Stage`): of a service, both entries are
left, or the later one and the first announcement was made, or none and both were made.  A deed
leads from one stage to a later one, since whatever is due at a time is announced at that time
(`Stage.announce`).  The books of a responder say this of all its services, and which of them are
established (`Responder.Books`).

The events that tell that a service was established or that its name was taken are counted against
the flags of the services; every deed raises as many flags as it queues events
(`Responder.Tallies`).
-/

namespace ServiceDiscovery

open Dns (Name Packet Message)

/-! ### Announcing a service -/

namespace LocalService

/-- The service, announced. -/
def establish (s : LocalService) : LocalService := { s with established := true }

/-- What announces the service, and to whom. -/
def greeting (s : LocalService) : Packet × Destination := (s.announcement, .groups s.scope)

theorem establish_of_established {s : LocalService} (h : s.established = true) :
    s.establish = s := by
  rw [establish, ← h]

end LocalService

namespace Responder

open LocalService (establish greeting)

variable {r r' r'' : Responder}

/-- To announce a service is to put its greeting in line and to establish it, which is to be
reported if it is news.  Where there is no service, nothing is done. -/
theorem announce_eq (place : Nat) (r : Responder) :
    r.announce place = { r with
      outgoing := r.outgoing ++ (r.services[place]?.map greeting).toList
      services := r.services.modify place establish
      events := r.events ++
        if r.services[place]?.any (!·.established) then [.established] else [] } := by
  unfold announce
  cases h_place : r.services[place]? with
  | none =>
    -- no service has this place, so there is nothing to change
    have h_same : r.services.modify place establish = r.services := by
      rw [List.modify_eq_self]
      exact List.getElem?_eq_none_iff.mp h_place
    simp [h_same]
  | some service =>
    -- the service at this place is put back, established
    obtain ⟨h_lt, h_get⟩ := List.getElem?_eq_some_iff.mp h_place
    have h_modify : r.services.modify place establish = r.services.set place service.establish := by
      rw [List.modify_eq_set_getElem?, h_place]
      rfl
    cases h_news : service.established
    · simp [h_modify, h_news, establish, greeting]
    · -- establishing once more changes nothing
      have h_same : r.services.set place service.establish = r.services := by
        rw [LocalService.establish_of_established h_news, ← h_get, List.set_getElem_self]
      simp [h_modify, h_same, h_news, greeting]

/-- A service that is established stays what it was otherwise. -/
theorem map_getElem?_modify {α : Type} {f : LocalService → α} (hf : ∀ s, f s.establish = f s)
    (services : List LocalService) (place place' : Nat) :
    (services.modify place establish)[place']?.map f = services[place']?.map f := by
  rw [List.getElem?_modify]
  cases services[place']? with
  | none => rfl
  | some s => by_cases h : place = place' <;> simp [h, hf]

/-- What is due is put in line, in the order of the list. -/
theorem outgoing_announceDue_eq (now : Nat) (r : Responder) :
    (r.announceDue now).outgoing = r.outgoing ++
      (r.announcements.filter (·.1 ≤ now)).filterMap fun a => r.services[a.2]?.map greeting := by
  -- on what is due; an announcement changes no later greeting, as it only establishes
  have h_all : ∀ (due : List (Nat × Nat)) (r : Responder),
      (due.foldl (fun r announcement => r.announce announcement.2) r).outgoing =
        r.outgoing ++ due.filterMap fun a => r.services[a.2]?.map greeting := by
    intro due
    induction due with
    | nil => intro r; simp
    | cons a due ih =>
      intro r
      rw [List.foldl_cons, ih, announce_eq]
      simp only [map_getElem?_modify (f := greeting) fun _ => rfl, List.append_assoc]
      cases h_place : r.services[a.2]? <;> simp [h_place]
  exact h_all _ _

/-- What is due is established. -/
theorem established_announceDue (now : Nat) (r : Responder) (place : Nat) :
    (r.announceDue now).services[place]?.map (·.established) =
      r.services[place]?.map fun s =>
        s.established || (r.announcements.filter (·.1 ≤ now)).any (·.2 = place) := by
  -- a service is established by the announcements for its own place
  have h_all : ∀ (due : List (Nat × Nat)) (r : Responder),
      (due.foldl (fun r announcement => r.announce announcement.2) r).services[place]?.map
          (·.established) =
        r.services[place]?.map fun s => s.established || due.any (·.2 = place) := by
    intro due
    induction due with
    | nil => intro r; simp
    | cons a due ih =>
      intro r
      rw [List.foldl_cons, ih, announce_eq, List.getElem?_modify]
      cases r.services[place]? with
      | none => rfl
      | some s => by_cases h : a.2 = place <;> simp [h, establish]
  exact h_all _ _

theorem length_announceDue (now : Nat) (r : Responder) :
    (r.announceDue now).services.length = r.services.length := by
  refine announceDue_same (·.services.length) (fun r place => ?_) now r
  rw [announce_eq]
  exact List.length_modify ..

/-! ### What is noted -/

/-- When a service is published. -/
def Deed.publishes : Deed → Responder → List Nat
  | publish ad, r =>
    match (r.publish ad).1 with
    | .ok () => [r.machine.now]
    | .error _ => []
  | _, _ => []

/-- When which service is announced. -/
def Deed.announces : Deed → Responder → List (Nat × Nat)
  | announce, r =>
    ((r.announcements.filter (·.1 ≤ r.machine.now)).filter (·.2 < r.services.length)).map
      fun a => (r.machine.now, a.2)
  | _, _ => []

/-- The times that are entered for a service. -/
def timesOf (place : Nat) (entries : List (Nat × Nat)) : List Nat :=
  (entries.filter (·.2 = place)).map (·.1)

theorem timesOf_append (place : Nat) (a b : List (Nat × Nat)) :
    timesOf place (a ++ b) = timesOf place a ++ timesOf place b := by
  rw [timesOf, List.filter_append, List.map_append]
  rfl

theorem timesOf_eq_nil_iff {place : Nat} {entries : List (Nat × Nat)} :
    timesOf place entries = [] ↔ ∀ a ∈ entries, a.2 ≠ place := by
  rw [timesOf, List.map_eq_nil_iff, List.filter_eq_nil_iff]
  simp only [decide_eq_true_eq, ne_eq]

theorem timesOf_filter (place : Nat) (p : Nat → Bool) (entries : List (Nat × Nat)) :
    timesOf place (entries.filter fun a => p a.1) = (timesOf place entries).filter p := by
  simp only [timesOf, List.filter_map, List.filter_filter, Function.comp_def, Bool.and_comm]

/-- What is noted of a service is what was due of it, if every entry is one of a service. -/
theorem timesOf_announces (h : ∀ a ∈ r.announcements, a.2 < r.services.length) (place : Nat) :
    timesOf place (Deed.announce.announces r) =
      ((timesOf place r.announcements).filter (· ≤ r.machine.now)).map fun _ => r.machine.now := by
  -- every announcement that is due is for a service that exists
  have h_all : ∀ a ∈ r.announcements.filter (·.1 ≤ r.machine.now), a.2 < r.services.length :=
    fun a ha => h a (List.mem_of_mem_filter ha)
  rw [Deed.announces, List.filter_eq_self.mpr fun a ha => decide_eq_true (h_all a ha),
    ← timesOf_filter]
  simp only [timesOf, List.filter_map, List.map_map, Function.comp_def]

/-! ### Stages -/

/-- How far the announcements of a service that was published at `t` have come: when the next are
due that are left, and when those were made that were made. -/
inductive Stage (t : Nat) : (left made : List Nat) → Prop
  | fresh : Stage t [t, t + announceAgainAfter] []
  | once {a : Nat} : t ≤ a → Stage t [t + announceAgainAfter] [a]
  | twice {a b : Nat} : t ≤ a → t + announceAgainAfter ≤ b → Stage t [] [a, b]

namespace Stage

variable {t : Nat} {left made : List Nat}

theorem length_add (h : Stage t left made) : made.length + left.length = 2 := by
  cases h <;> rfl

/-- The second announcement is made a second after publishing at the earliest. -/
theorem le_second (h : Stage t left made) {b : Nat} (hb : made[1]? = some b) :
    t + announceAgainAfter ≤ b := by
  cases h with
  | fresh => exact absurd hb (by simp)
  | once _ => exact absurd hb (by simp)
  | twice _ h_second => exact Option.some.inj hb ▸ h_second

/-- What is due is announced. -/
theorem announce (h : Stage t left made) (now : Nat) :
    Stage t (left.filter (now < ·)) (made ++ (left.filter (· ≤ now)).map fun _ => now) := by
  cases h with
  | fresh =>
    -- the second is never due before the first, but both may be due at once
    by_cases h_again : t + announceAgainAfter ≤ now
    · have h_first : t ≤ now := Nat.le_of_add_right_le h_again
      simpa [h_again, h_first, Nat.not_lt_of_le] using Stage.twice h_first h_again
    · by_cases h_first : t ≤ now
      · simpa [h_again, h_first, Nat.not_lt_of_le, Nat.lt_of_not_le] using Stage.once h_first
      · simpa [h_again, h_first, Nat.lt_of_not_le] using Stage.fresh
  | once h_first =>
    by_cases h_again : t + announceAgainAfter ≤ now
    · simpa [h_again, Nat.not_lt_of_le] using Stage.twice h_first h_again
    · simpa [h_again, Nat.lt_of_not_le] using Stage.once h_first
  | twice h_first h_second => exact .twice h_first h_second

end Stage

/-! ### The books -/

theorem getElem?_concat_eq_some {α : Type} {l : List α} {x y : α} {i : Nat}
    (h : (l ++ [x])[i]? = some y) : l[i]? = some y ∨ (i = l.length ∧ y = x) := by
  obtain h_lt | h_ge := Nat.lt_or_ge i l.length
  · -- it was there before the last one came
    rw [List.getElem?_append_left h_lt] at h
    exact .inl h
  · rw [List.getElem?_append_right h_ge, List.getElem?_singleton] at h
    split at h
    · exact .inr ⟨by omega, (Option.some.inj h).symm⟩
    · exact absurd h (by simp)

/-- What was published and announced, what is left to be announced, and who is established. -/
structure Books (published : List Nat) (announced : List (Nat × Nat)) (r : Responder) : Prop where
  length : published.length = r.services.length
  left : ∀ a ∈ r.announcements, a.2 < r.services.length
  made : ∀ a ∈ announced, a.2 < r.services.length
  stages : ∀ place t, published[place]? = some t →
    Stage t (timesOf place r.announcements) (timesOf place announced)
  established : ∀ place s, r.services[place]? = some s →
    (s.established = true ↔ timesOf place announced ≠ [])

/-- Neither the list of announcements nor who is established changes. -/
structure Undisturbed (r r' : Responder) : Prop where
  announcements : r'.announcements = r.announcements
  established : r'.services.map (·.established) = r.services.map (·.established)

namespace Books

variable {published : List Nat} {announced : List (Nat × Nat)}

theorem undisturbed (h : r.Books published announced) (hr : r.Undisturbed r') :
    r'.Books published announced := by
  -- the services are as many as before, and what is due for them is the same
  have h_length : r'.services.length = r.services.length := by
    simpa using congrArg List.length hr.established
  refine ⟨by rw [h_length, h.length], ?_, ?_, ?_, fun place s' hs' => ?_⟩
  · rw [hr.announcements, h_length]
    exact h.left
  · rw [h_length]
    exact h.made
  · rw [hr.announcements]
    exact h.stages
  · have h_flag := congrArg (·[place]?) hr.established
    simp only [List.getElem?_map, hs', Option.map_some] at h_flag
    obtain ⟨s, hs, h_same⟩ := Option.map_eq_some_iff.mp h_flag.symm
    rw [← h_same]
    exact h.established place s hs

/-- A service that is published is entered twice. -/
theorem addService (h : r.Books published announced) {s : LocalService}
    (hs : s.established = false) :
    (r.addService s).Books (published ++ [r.machine.now]) announced := by
  -- one service more, with two announcements to be made
  have h_length : (r.addService s).services.length = r.services.length + 1 := by
    simp [Responder.addService]
  refine ⟨by rw [h_length, List.length_append, h.length]; rfl, fun a ha => ?_, fun a ha => ?_,
    fun place t ht => ?_, fun place s' hs' => ?_⟩
  · rw [h_length]
    obtain ha | ha := List.mem_append.mp ha
    · exact Nat.lt_succ_of_lt (h.left a ha)
    · -- the new announcements are for the new service
      simp only [List.mem_cons, List.not_mem_nil, or_false] at ha
      obtain rfl | rfl := ha <;> exact Nat.lt_succ_self _
  · -- what was announced so far was for services that existed
    rw [h_length]
    exact Nat.lt_succ_of_lt (h.made a ha)
  · have h_left : timesOf place (r.addService s).announcements = timesOf place r.announcements ++
        timesOf place [(r.machine.now, r.services.length),
          (r.machine.now + announceAgainAfter, r.services.length)] := timesOf_append ..
    rw [h_left]
    obtain h_old | ⟨h_new, rfl⟩ := getElem?_concat_eq_some ht
    · -- both new announcements are for another service
      obtain ⟨h_lt, -⟩ := List.getElem?_eq_some_iff.mp h_old
      have h_other : r.services.length ≠ place := h.length ▸ Nat.ne_of_gt h_lt
      have h_none : timesOf place [(r.machine.now, r.services.length),
          (r.machine.now + announceAgainAfter, r.services.length)] = [] :=
        timesOf_eq_nil_iff.mpr (by simpa using h_other)
      rw [h_none, List.append_nil]
      exact h.stages place t h_old
    · -- nothing has been entered for the new service before
      obtain rfl : place = r.services.length := h_new.trans h.length
      rw [timesOf_eq_nil_iff.mpr fun a ha => Nat.ne_of_lt (h.left a ha),
        timesOf_eq_nil_iff.mpr fun a ha => Nat.ne_of_lt (h.made a ha)]
      simpa [timesOf] using Stage.fresh
  · obtain h_old | ⟨rfl, rfl⟩ := getElem?_concat_eq_some hs'
    · -- an old service is as established as it was, and the new one is not
      exact h.established place s' h_old
    · rw [timesOf_eq_nil_iff.mpr fun a ha => Nat.ne_of_lt (h.made a ha)]
      simp [hs]

/-- What is due is announced, and not left any more. -/
theorem announce (h : r.Books published announced) :
    (Deed.announce.act r).Books published (announced ++ Deed.announce.announces r) := by
  show (r.announceDue r.machine.now).Books _ _
  have h_length := length_announceDue r.machine.now r
  have h_left := (announceDue_leaves r.machine.now r).1
  refine ⟨by rw [h_length, h.length], fun a ha => ?_, fun a ha => ?_, fun place t ht => ?_,
    fun place s' hs' => ?_⟩
  · rw [h_left] at ha
    exact h_length ▸ h.left a (List.mem_of_mem_filter ha)
  · rw [h_length]
    obtain ha | ha := List.mem_append.mp ha
    · exact h.made a ha
    · obtain ⟨a', ha', rfl⟩ := List.mem_map.mp ha
      exact of_decide_eq_true (List.mem_filter.mp ha').2
  · -- of each service, what was due moves from what is left to what was made
    rw [h_left, timesOf_filter place (r.machine.now < ·), timesOf_append, timesOf_announces h.left]
    exact (h.stages place t ht).announce r.machine.now
  · have h_flag := established_announceDue r.machine.now r place
    rw [hs'] at h_flag
    obtain ⟨s, hs, h_flag⟩ := Option.map_eq_some_iff.mp h_flag.symm
    change _ = s'.established at h_flag
    -- the service was established before, or is announced with this deed
    have h_now : timesOf place (Deed.announce.announces r) ≠ [] ↔
        (r.announcements.filter (·.1 ≤ r.machine.now)).any (·.2 = place) = true := by
      rw [timesOf_announces h.left, ← timesOf_filter place (· ≤ r.machine.now), ne_eq,
        List.map_eq_nil_iff, timesOf_eq_nil_iff]
      simp
    rw [← h_flag, Bool.or_eq_true, h.established place s hs, ← h_now, timesOf_append, ne_eq, ne_eq,
      ne_eq, List.append_eq_nil_iff, not_and_or]

end Books

/-! ### Tallies -/

/-- A service is established. -/
def isEstablished : Event → Bool
  | .established => true
  | _ => false

/-- The name of a service is taken. -/
def isNameTaken : Event → Bool
  | .nameTaken => true
  | _ => false

/-- As many services become established, or lose their names, as there are events queued that say
so. -/
structure Tallies (r r' : Responder) : Prop where
  established : r'.events.countP isEstablished + r.services.countP (·.established) =
    r.events.countP isEstablished + r'.services.countP (·.established)
  nameTaken : r'.events.countP isNameTaken + r.services.countP (·.collided) =
    r.events.countP isNameTaken + r'.services.countP (·.collided)

namespace Tallies

theorem trans (h : r.Tallies r') (h' : r'.Tallies r'') : r.Tallies r'' :=
  ⟨by have := h.established; have := h'.established; omega,
    by have := h.nameTaken; have := h'.nameTaken; omega⟩

/-- Where the services stay, and other events are queued. -/
theorem of_append (events : List Event)
    (h_other : ∀ event ∈ events, isEstablished event = false ∧ isNameTaken event = false)
    (he : r'.events = r.events ++ events) (hs : r'.services = r.services) : r.Tallies r' := by
  -- none of the events is counted
  have h_established : events.countP isEstablished = 0 :=
    List.countP_eq_zero.mpr fun event h_mem => by simp [(h_other event h_mem).1]
  have h_taken : events.countP isNameTaken = 0 :=
    List.countP_eq_zero.mpr fun event h_mem => by simp [(h_other event h_mem).2]
  constructor <;> rw [he, hs, List.countP_append]
  · rw [h_established, Nat.add_zero]
  · rw [h_taken, Nat.add_zero]

theorem of_eq (he : r'.events = r.events) (hs : r'.services = r.services) : r.Tallies r' :=
  of_append [] (fun _ h => absurd h List.not_mem_nil) (by rw [he, List.append_nil]) hs

theorem refl (r : Responder) : r.Tallies r := of_eq rfl rfl

end Tallies

/-- Whoever establishes a service that was not established has one more. -/
theorem countP_modify_establish (services : List LocalService) (place : Nat) :
    (services.modify place establish).countP (·.established) =
        services.countP (·.established) +
          (if services[place]?.any (!·.established) then 1 else 0) ∧
      (services.modify place establish).countP (·.collided) = services.countP (·.collided) := by
  induction services generalizing place with
  | nil => simp
  -- at the place itself one more is established, and none if it was so before
  | cons s services ih =>
    cases place with
    | zero => cases h : s.established <;> simp [List.countP_cons, establish, h]
    | succ place =>
      obtain ⟨h_established, h_collided⟩ := ih place
      simp only [List.modify_succ_cons, List.countP_cons, h_established, h_collided,
        List.getElem?_cons_succ, and_true]
      omega

theorem tallies_announce (place : Nat) (r : Responder) : r.Tallies (r.announce place) := by
  obtain ⟨h_established, h_collided⟩ := countP_modify_establish r.services place
  rw [announce_eq]
  constructor <;> dsimp only
  · -- the event is queued just when the service was not established
    rw [h_established, List.countP_append]
    split
    · simp [isEstablished]
      omega
    · simp
  · rw [h_collided, List.countP_append]
    split <;> simp [isNameTaken]

theorem tallies_announceDue (now : Nat) (r : Responder) : r.Tallies (r.announceDue now) :=
  announceDue_induction (P := r.Tallies) (fun _ _ h => h.trans (.of_eq rfl rfl))
    (fun r' place h => h.trans (tallies_announce place r')) now (.refl r)

theorem countP_or {α : Type} (p q : α → Bool) (l : List α) :
    l.countP (fun a => p a || q a) = l.countP p + l.countP fun a => !p a && q a := by
  induction l with
  | nil => rfl
  | cons a l ih =>
    simp only [List.countP_cons, ih]
    cases p a <;> cases q a <;> simp <;> omega

/-- Whoever claims the names of services takes those that were not taken. -/
theorem tallies_noteClaims (m : Message) (r : Responder) : r.Tallies (r.noteClaims m) := by
  -- `claims` says which services the message is about, `noted` what becomes of one
  let claims (s : LocalService) : Bool := m.records.any s.isClaimedBy
  let noted (s : LocalService) : LocalService :=
    if !s.collided && claims s then { s with collided := true } else s
  have h_established : ∀ s, (noted s).established = s.established := by
    intro s
    simp only [noted]
    split <;> rfl
  have h_collided : ∀ s, (noted s).collided = (s.collided || claims s) := by
    intro s
    simp only [noted]
    cases h : s.collided <;> cases claims s <;> simp [h]
  -- a service that had lost its name before is not counted again
  have h_names : r.services.countP (fun s => s.collided || claims s) =
      r.services.countP (·.collided) + r.services.countP fun s => !s.collided && claims s :=
    countP_or _ claims r.services
  have h_events : (r.noteClaims m).events =
      r.events ++ (r.services.filter fun s => !s.collided && claims s).map fun _ => .nameTaken := rfl
  have h_services : (r.noteClaims m).services = r.services.map noted := rfl
  constructor <;>
    rw [h_events, h_services, List.countP_append, List.countP_map, List.countP_map]
  · -- whether a service is established is not touched
    simp [Function.comp_def, h_established, isEstablished]
  · simp only [Function.comp_def, h_collided, h_names, isNameTaken, List.countP_true,
      ← List.countP_eq_length_filter]
    omega

/-! ### One deed -/

/-- The list of announcements stays, and the flags of services that are raised are told. -/
structure Quiet (r r' : Responder) : Prop where
  undisturbed : r.Undisturbed r'
  tallies : r.Tallies r'

namespace Quiet

theorem trans (h : r.Quiet r') (h' : r'.Quiet r'') : r.Quiet r'' where
  undisturbed := ⟨h'.undisturbed.announcements.trans h.undisturbed.announcements,
    h'.undisturbed.established.trans h.undisturbed.established⟩
  tallies := h.tallies.trans h'.tallies

/-- Where other events are queued. -/
theorem of_append (events : List Event)
    (h_other : ∀ event ∈ events, isEstablished event = false ∧ isNameTaken event = false)
    (he : r'.events = r.events ++ events) (hs : r'.services = r.services)
    (ha : r'.announcements = r.announcements) : r.Quiet r' :=
  ⟨⟨ha, by rw [hs]⟩, .of_append events h_other he hs⟩

theorem of_eq (he : r'.events = r.events) (hs : r'.services = r.services)
    (ha : r'.announcements = r.announcements) : r.Quiet r' :=
  ⟨⟨ha, by rw [hs]⟩, .of_eq he hs⟩

theorem refl (r : Responder) : r.Quiet r := of_eq rfl rfl rfl

/-- Where the table reports something. -/
theorem of_reports {t t' : PeerTable} {events : List Event} (h : t.Reports t' events)
    (he : r'.events = r.events ++ events) (hs : r'.services = r.services)
    (ha : r'.announcements = r.announcements) : r.Quiet r' := by
  refine of_append events (fun event h_event => ?_) he hs ha
  obtain ⟨k, rfl | rfl⟩ := h.about event h_event <;> exact ⟨rfl, rfl⟩

theorem resolve (k : Sighting) (q : IpScope) (r : Responder) : r.Quiet (r.resolve k q).2 := by
  obtain ⟨_, h_eq⟩ | ⟨_, h_eq⟩ | ⟨b, -, -, ⟨c, -, h_eq⟩ | ⟨packet, -, -, h_eq⟩⟩ :=
    resolve_cases k q r <;> rw [h_eq]
  · exact refl r
  · exact of_eq rfl rfl rfl
  · exact of_append [.found r.nextResolution c] (by simp [isEstablished, isNameTaken]) rfl rfl rfl
  · exact of_eq rfl rfl rfl

theorem browse (type : String) (scope : IpScope) (r : Responder) :
    r.Quiet (r.browse type scope).2 := by
  obtain ⟨refusal, h_eq⟩ | ⟨b, -, -, -, h_eq⟩ := browse_cases type scope r <;> rw [h_eq] <;>
    exact of_eq rfl rfl rfl

/-- Only events of resolutions are released. -/
theorem release (id : Nat) (r : Responder) : r.Quiet (r.release id) := by
  have h_count : ∀ p : Event → Bool, (∀ event, p event = true → event.resolution? = none) →
      (r.release id).events.countP p = r.events.countP p := by
    intro p hp
    show (r.events.filter (·.resolution? ≠ some id)).countP p = _
    rw [List.countP_filter]
    refine List.countP_congr fun event _ => ?_
    -- what ends a resolution is not counted, and nothing else is released
    cases h_event : p event
    · simp
    · simp [hp event h_event]
  have h_established := h_count isEstablished fun event h => by
    cases event with
    | established => rfl
    | _ => exact absurd h Bool.false_ne_true
  have h_taken := h_count isNameTaken fun event h => by
    cases event with
    | nameTaken => rfl
    | _ => exact absurd h Bool.false_ne_true
  exact ⟨⟨rfl, rfl⟩, by rw [h_established]; rfl, by rw [h_taken]; rfl⟩

theorem queryDue (now : Nat) (r : Responder) : r.Quiet (r.queryDue now) := by
  obtain h_eq | ⟨b, -, -, h_eq⟩ := queryDue_cases now r <;> rw [h_eq]
  · exact refl r
  · exact of_reports (PeerTable.reports_age _ _) rfl rfl rfl

theorem settleDue (now : Nat) (r : Responder) : r.Quiet (r.settleDue now) := by
  obtain h_eq | ⟨b, -, h_eq⟩ := settleDue_cases now r <;> rw [h_eq]
  · exact refl r
  · exact of_append [.cacheExhausted, .allForNow] (by simp [isEstablished, isNameTaken]) rfl rfl rfl

theorem expireDue (now : Nat) (r : Responder) : r.Quiet (r.expireDue now) := by
  refine of_append _ (fun event h_event => ?_) rfl rfl rfl
  obtain ⟨p, -, rfl⟩ := List.mem_map.mp h_event
  exact ⟨rfl, rfl⟩

theorem flushSome (count : Nat) (r : Responder) : r.Quiet (r.flushSome count).2 := by
  obtain h_eq | ⟨t, -, h_eq⟩ := flushSome_cases count r <;> rw [h_eq] <;> exact of_eq rfl rfl rfl

theorem noteClaims (m : Message) (r : Responder) : r.Quiet (r.noteClaims m) := by
  refine ⟨⟨rfl, ?_⟩, tallies_noteClaims m r⟩
  show (r.services.map _).map _ = _
  rw [List.map_map]
  refine List.map_congr_left fun s _ => ?_
  simp only [Function.comp_apply]
  split <;> rfl

theorem completeKnown (table : PeerTable) (r : Responder) : r.Quiet (r.completeKnown table) := by
  refine of_append _ (fun event h_event => ?_) rfl rfl rfl
  obtain ⟨p, -, h_found⟩ := List.mem_filterMap.mp h_event
  obtain ⟨contact, -, rfl⟩ := Option.map_eq_some_iff.mp h_found
  exact ⟨rfl, rfl⟩

theorem receive (octets : Packet) (source : SocketAddress) (r : Responder) :
    r.Quiet (r.receive octets source) := by
  obtain h_eq | ⟨m, -, -, ⟨-, h_eq⟩ | ⟨-, h_eq⟩⟩ := receive_cases octets source r <;> rw [h_eq]
  · exact refl r
  · -- claims, what the table takes in, and what is completed, one after the other
    refine (noteClaims m r).trans ?_
    obtain h_eq | ⟨b, -, -, h_eq⟩ := takeIn_cases m source r <;> rw [h_eq]
    · exact refl _
    · refine .trans ?_ (completeKnown _ _)
      exact of_reports (PeerTable.reports_takeIn _ _ _) rfl rfl rfl
  · exact of_eq rfl rfl rfl

theorem attach (r : Responder) : r.Quiet (r.attach.toOption.getD r) := by
  cases ha : r.attach with
  | error fault => exact refl r
  | ok r' =>
    obtain ⟨t, -, rfl⟩ | ⟨t, -, rfl⟩ := attach_cases ha
    · exact refl _
    · exact of_append [.engine .running] (by simp [isEstablished, isNameTaken]) rfl rfl rfl

end Quiet

/-- A deed publishes, or announces, or reports, or none of these. -/
theorem deed_cases (d : Deed) (r : Responder) :
    (∃ ad, d = .publish ad) ∨ d = .announce ∨ d = .report ∨
      (d.publishes r = [] ∧ d.announces r = [] ∧ d.reports r = [] ∧ r.Quiet (d.act r)) := by
  cases d with
  | publish ad => exact .inl ⟨ad, rfl⟩
  | announce => exact .inr (.inl rfl)
  | report => exact .inr (.inr (.inl rfl))
  | browse type scope => exact .inr (.inr (.inr ⟨rfl, rfl, rfl, .browse type scope r⟩))
  | resolve k q => exact .inr (.inr (.inr ⟨rfl, rfl, rfl, .resolve k q r⟩))
  | release id => exact .inr (.inr (.inr ⟨rfl, rfl, rfl, .release id r⟩))
  | machine m => exact .inr (.inr (.inr ⟨rfl, rfl, rfl, .of_eq rfl rfl rfl⟩))
  | attach => exact .inr (.inr (.inr ⟨rfl, rfl, rfl, .attach r⟩))
  | ask => exact .inr (.inr (.inr ⟨rfl, rfl, rfl, .queryDue _ r⟩))
  | settle => exact .inr (.inr (.inr ⟨rfl, rfl, rfl, .settleDue _ r⟩))
  | expire => exact .inr (.inr (.inr ⟨rfl, rfl, rfl, .expireDue _ r⟩))
  | send count => exact .inr (.inr (.inr ⟨rfl, rfl, rfl, .flushSome count r⟩))
  | receive octets source => exact .inr (.inr (.inr ⟨rfl, rfl, rfl, .receive octets source r⟩))
  | fail =>
    exact .inr (.inr (.inr ⟨rfl, rfl, rfl,
      .of_append [.engine .failure] (by simp [isEstablished, isNameTaken]) rfl rfl rfl⟩))

/-- A service that is published has neither been announced nor lost its name. -/
theorem flags_of_create {ad : Advertisement} {host : Name} {addresses : Std.ExtTreeSet IpAddress}
    {ttl : UInt32} {s : LocalService} (h : LocalService.create ad host addresses ttl = .ok s) :
    s.established = false ∧ s.collided = false := by
  have h_same := (LocalService.asPublished_of_create h).1
  exact ⟨congrArg (·.established) h_same.symm, congrArg (·.collided) h_same.symm⟩

/-- What a deed publishes and announces is entered in the books. -/
theorem Books.act {published : List Nat} {announced : List (Nat × Nat)}
    (h : r.Books published announced) (d : Deed) :
    (d.act r).Books (published ++ d.publishes r) (announced ++ d.announces r) := by
  obtain ⟨ad, rfl⟩ | rfl | rfl | ⟨h_publishes, h_announces, -, h_quiet⟩ := deed_cases d r
  · -- a service that is accepted is entered with the time; if it is refused, nothing is
    show (r.publish ad).2.Books _ (announced ++ [])
    rw [List.append_nil, Deed.publishes]
    obtain ⟨refusal, h_eq⟩ | ⟨host, s, -, -, h_create, h_eq⟩ := publish_cases ad r <;> rw [h_eq]
    · rwa [List.append_nil]
    · exact h.addService (flags_of_create h_create).1
  · -- what was due has become what was announced
    show (Deed.announce.act r).Books (published ++ []) _
    rw [List.append_nil]
    exact h.announce
  · show Books (published ++ []) (announced ++ []) _
    rw [List.append_nil, List.append_nil]
    exact h.undisturbed ⟨rfl, rfl⟩
  · -- any other deed leaves the books as they are
    rw [h_publishes, h_announces, List.append_nil, List.append_nil]
    exact h.undisturbed h_quiet.undisturbed

/-- With each announcement that is noted the greeting of its service is put in line. -/
theorem outgoing_announce (r : Responder) :
    (Deed.announce.act r).outgoing = r.outgoing ++
      (Deed.announce.announces r).filterMap fun a => r.services[a.2]?.map greeting := by
  show (r.announceDue r.machine.now).outgoing = _
  rw [outgoing_announceDue_eq, Deed.announces, List.filterMap_map]
  generalize r.announcements.filter (·.1 ≤ r.machine.now) = due
  rw [List.filterMap_filter]
  congr 1
  refine List.filterMap_congr fun a _ => ?_
  -- where there is no service nothing is put in line
  by_cases h_lt : a.2 < r.services.length <;> simp [h_lt]

/-- As many events have been reported or are to be reported as services are established, or have
lost their names. -/
structure Tallied (reports : List Event) (r : Responder) : Prop where
  established : (reports ++ r.events).countP isEstablished = r.services.countP (·.established)
  nameTaken : (reports ++ r.events).countP isNameTaken = r.services.countP (·.collided)

namespace Tallied

variable {reports : List Event}

theorem tallies (h : r.Tallied reports) (ht : r.Tallies r') : r'.Tallied reports := by
  obtain ⟨h_established, h_taken⟩ := h
  obtain ⟨ht_established, ht_taken⟩ := ht
  rw [List.countP_append] at h_established h_taken
  constructor <;> rw [List.countP_append] <;> omega

/-- What a deed reports was to be reported before. -/
theorem act (h : r.Tallied reports) (d : Deed) : (d.act r).Tallied (reports ++ d.reports r) := by
  obtain ⟨ad, rfl⟩ | rfl | rfl | ⟨-, -, h_reports, h_quiet⟩ := deed_cases d r
  · -- a new service is neither established nor without its name
    show (r.publish ad).2.Tallied (reports ++ [])
    rw [List.append_nil]
    obtain ⟨refusal, h_eq⟩ | ⟨host, s, -, -, h_create, h_eq⟩ := publish_cases ad r <;> rw [h_eq]
    · exact h
    · obtain ⟨h_established, h_collided⟩ := flags_of_create h_create
      refine h.tallies ⟨?_, ?_⟩ <;> simp [addService, h_established, h_collided]
  · -- an announcement establishes, and says so
    show (r.announceDue r.machine.now).Tallied (reports ++ [])
    rw [List.append_nil]
    exact h.tallies (tallies_announceDue _ r)
  · -- the first event goes over from what is to be reported to what was
    have h_same : (reports ++ Deed.report.reports r) ++ (Deed.report.act r).events =
        reports ++ r.events := by
      rw [List.append_assoc]
      cases h_events : r.events <;> simp [Deed.reports, Deed.act, h_events]
    constructor <;> rw [h_same]
    · exact h.established
    · exact h.nameTaken
  · -- any other deed changes neither the services nor what is counted of the events
    rw [h_reports, List.append_nil]
    exact h.tallies h_quiet.tallies

end Tallied

/-! ### Any number of deeds -/

section Runs

variable (os : OperatingSystem) (settings : Settings) (opened : Opened) (deeds : List Deed)

theorem books_through :
    let start := Responder.on os settings opened
    (start.through deeds).Books (noted Deed.publishes deeds start)
      (noted Deed.announces deeds start) := by
  intro start
  induction deeds using List.reverseRecOn with
  -- at the start nothing is published and nothing is due
  | nil =>
    exact ⟨rfl, fun _ h => absurd h List.not_mem_nil, fun _ h => absurd h List.not_mem_nil,
      fun _ _ h => absurd h (by simp [noted]), fun _ _ h => absurd h (by simp [start, through, on])⟩
  | append_singleton deeds d ih =>
    rw [through_concat, noted_concat, noted_concat]
    exact ih.act d

theorem tallied_through :
    let start := Responder.on os settings opened
    (start.through deeds).Tallied (noted Deed.reports deeds start) := by
  intro start
  induction deeds using List.reverseRecOn with
  | nil => exact ⟨rfl, rfl⟩
  | append_singleton deeds d ih =>
    rw [through_concat, noted_concat]
    exact ih.act d

end Runs

/-! ### Taking leave -/

/-- Whoever is closed takes leave for what is established, if its sockets are attached. -/
theorem close_attached {t : Transport} (h : r.link = .attached t) :
    r.close = { r with
      machine := (r.services.filter (·.established)).foldl
        (fun m s => (m.multicastNow t s.farewell s.scope).2) r.machine } := by
  simp only [close, h]

/-- The services that have been announced. -/
def everAnnounced (announced : List (Nat × Nat)) (services : List LocalService) :
    List LocalService :=
  (services.zipIdx.filter fun s => timesOf s.2 announced ≠ []).map (·.1)

theorem Books.everAnnounced_eq {published : List Nat} {announced : List (Nat × Nat)}
    (h : r.Books published announced) :
    everAnnounced announced r.services = r.services.filter (·.established) := by
  -- by the books, what was announced at least once is what is established
  have h_same : ∀ s ∈ r.services.zipIdx,
      decide (timesOf s.2 announced ≠ []) = s.1.established := by
    intro s hs
    rw [Bool.eq_iff_iff, decide_eq_true_iff]
    exact (h.established s.2 s.1 (List.mem_zipIdx_iff_getElem?.mp hs)).symm
  have h_map : r.services.zipIdx.map (·.1) = r.services := List.zipIdx_map_fst 0 r.services
  rw [everAnnounced, List.filter_congr h_same]
  conv_rhs => rw [← h_map]
  rw [List.filter_map]
  rfl

/-- Nothing has been established while the sockets wait to be attached: nothing has been reported
and nothing is to be reported then. -/
theorem established_of_waiting {t t' : Transport} {reported : List Event}
    (h : Lives t reported r) (h_tallied : r.Tallied reported) (h_link : r.link = .waiting t') :
    ∀ s ∈ r.services, s.established = false := by
  -- nothing was told while the engine was connecting, so no service was established
  have h_told := h.told
  rw [(h.connecting h_link).1] at h_told
  have h_count := h_tallied.established
  rw [h_told.nil_of_connecting, List.countP_nil] at h_count
  intro s hs
  exact Bool.eq_false_iff.mpr (List.countP_eq_zero.mp h_count.symm s hs)

/-- **Announcements add up.** A responder is set up on sockets, and anything is done to it and by
it, in any order; every run is made of such deeds, up to any point of a turn, and what it has
delivered is what they report.

For every service that was published, the announcements that were put in line and those that are
entered for later are two, and the second is not made before a second has passed since publishing.
What is entered is entered for a service.  A service is established exactly if it was announced.
With an announcement that is due, the greeting of its service is put in line.

Of the events that have been reported or are to be reported, there is one for every service that is
established, and one for every service that has lost its name.

Whoever is closed with its sockets attached tries to take leave for exactly the services that are
established, which are those that were announced; and in a run none is established before. -/
theorem announcements_add_up (os : OperatingSystem) (settings : Settings) (opened : Opened) :
    let start := Responder.on os settings opened
    (∀ inputs r', ((Dealings.ofResponder start).after inputs).responder.Moves r' →
      (∃ deeds, r' = start.through deeds ∧
        delivered ((Dealings.ofResponder start).after inputs).history =
          noted Deed.reports deeds start) ∧
      ∀ t, r'.link = .waiting t → ∀ s ∈ r'.services, s.established = false) ∧
    ∀ deeds,
      let r := start.through deeds
      let published := noted Deed.publishes deeds start
      let announced := noted Deed.announces deeds start
      let events := noted Deed.reports deeds start ++ r.events
      (published.length = r.services.length ∧
        ∀ place t, published[place]? = some t →
          (timesOf place announced).length + (timesOf place r.announcements).length = 2 ∧
          ∀ second, (timesOf place announced)[1]? = some second → t + announceAgainAfter ≤ second) ∧
      (∀ a ∈ r.announcements, a.2 < r.services.length) ∧
      (∀ place s, r.services[place]? = some s →
        (s.established = true ↔ timesOf place announced ≠ [])) ∧
      (Deed.announce.act r).outgoing = r.outgoing ++
        (Deed.announce.announces r).filterMap (fun a => r.services[a.2]?.map greeting) ∧
      events.countP isEstablished = r.services.countP (·.established) ∧
      events.countP isNameTaken = r.services.countP (·.collided) ∧
      everAnnounced announced r.services = r.services.filter (·.established) ∧
      ∀ t, r.link = .attached t → r.close = { r with
        machine := (everAnnounced announced r.services).foldl
          (fun m s => (m.multicastNow t s.farewell s.scope).2) r.machine } := by
  intro start
  refine ⟨fun inputs r' h_moves => ?_, fun deeds => ?_⟩
  · -- the moment is one after some deeds, and its state tells whether the sockets wait
    have h_deeds := exists_deeds start inputs h_moves
    refine ⟨h_deeds, fun t h_link => ?_⟩
    have h_lives := ((Dealings.Lives.fresh os settings opened).after inputs).moves h_moves
    obtain ⟨deeds, rfl, h_delivered⟩ := h_deeds
    rw [h_delivered] at h_lives
    exact established_of_waiting h_lives.1 (tallied_through os settings opened deeds) h_link
  intro r published announced events
  -- everything else is read off the books and the count of the events
  have h : r.Books published announced := books_through os settings opened deeds
  have h_tallied : r.Tallied (noted Deed.reports deeds start) :=
    tallied_through os settings opened deeds
  refine ⟨⟨h.length, fun place t ht => ⟨(h.stages place t ht).length_add, fun second hs =>
    (h.stages place t ht).le_second hs⟩⟩, h.left, h.established, outgoing_announce r,
    h_tallied.established, h_tallied.nameTaken, h.everAnnounced_eq, fun t h_link => ?_⟩
  rw [h.everAnnounced_eq]
  exact close_attached h_link

end Responder
end ServiceDiscovery
