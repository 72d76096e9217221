import Std
import ServiceDiscovery.Proofs.Dns.Pieces
import ServiceDiscovery.Proofs.EventLoop.Presence
import ServiceDiscovery.Proofs.EventLoop.WakeUp
import ServiceDiscovery.Proofs.Responder.Disclosure
import ServiceDiscovery.Proofs.Since
import ServiceDiscovery.Proofs.Sweep.Listings

/-!
# How old a listing is

A listing says how to reach a server as it was known when it was listed (`EventLoop.Fresh`).  A
responder reports that instances appear and vanish, and nothing else: if a server that is there
announces another port, another address or another tag, then the responder knows, but the listing
stays as it is (`EventLoop.moved_server_is_stale`).

So what can be relied on is this.  Whatever is listed once nothing is left to be reported was
fresh at some moment, and since then it has been listed, and its server has been there, without a
break (`EventLoop.listed_since_fresh`).  A server that vanishes and comes back is listed as it was
when it was found again; one that stays is listed as it was when it was resolved, whatever it has
announced since (`EventLoop.listed_until_gone`).

The proof goes along the run.  A step lists a server as what is known at that moment, or leaves its
listing as it was (`EventLoop.follows_step`).  If the server vanishes in between, then this is to be
reported, and stays so until it is reported, which strikes the server off.
-/

namespace ServiceDiscovery

open Responder (undergo)

namespace EventLoop

/-! ### Listings and what is known -/

/-- A sighting is listed, and its listing says what the responder knows. -/
def Fresh (k : Sighting) (v : Listing) (l : EventLoop Responder) : Prop :=
  l.sweep.directory.get? k = some v ∧
    ∃ c, l.engine.contact? k k.protocol = some c ∧ c.txt[tagAttribute]? = some v.tag ∧
      v.url = connectionUrl c.address c.port k.protocol k.interface

/-- A sighting is listed, and it is there. -/
def Kept (k : Sighting) (v : Listing) (l : EventLoop Responder) : Prop :=
  l.sweep.directory.get? k = some v ∧ l.engine.Sees k

end EventLoop

/-! ### What one event does to a listing -/

namespace Sweep

variable {s : Sweep} {r : Responder} {event : Event} {events : List Event} {k : Sighting}
  {v : Listing}

/-- What is observed of the network lists nobody, and strikes off who has vanished. -/
theorem get?_observe {σ : Type} [Engine σ] {s : Sweep} {e : σ} :
    (s.observe event e).1.directory.get? k = some v →
      s.directory.get? k = some v ∧ (s.started = true → event ≠ .vanished k) := by
  -- a sweep that has not started ignores the event, and what appears is only resolved
  unfold observe
  split
  · next hs => exact fun hk => ⟨hk, fun hs' => absurd hs (by simp [hs'])⟩
  · cases event with
    | appeared k' =>
      rcases hr : Engine.resolve k' k'.protocol e with ⟨refusal | id, e'⟩
      · simp only [hr]
        exact fun hk => ⟨hk, by simp⟩
      · simp only [hr]
        exact fun hk => ⟨hk, by simp⟩
    | vanished k' =>
      show (s.directory.erase k').get? k = some v → _
      -- what is dropped now is not listed any more, so `k` is another server
      rw [Directory.get?_erase]
      split
      · exact fun hk => absurd hk (by simp)
      · next h_ne => exact fun hk => ⟨hk, fun _ h_eq => h_ne (Event.vanished.inj h_eq)⟩
    | browseFailed reason =>
      show (s.giveUp e).1.directory.get? k = some v → _
      rw [directory_giveUp]
      exact fun hk => ⟨hk, by simp⟩
    | _ => exact fun hk => ⟨hk, by simp⟩

/-- The end of a resolution leaves a listing as it was, or lists the contact that was found. -/
theorem get?_conclude_cases {σ : Type} [Engine σ] {s : Sweep} {e : σ} (id : Nat)
    (contact? : Option Contact)
    (hk : (s.conclude id contact? e).1.directory.get? k = some v) :
    s.directory.get? k = some v ∨
      ∃ c, contact? = some c ∧ s.outstanding[id]? = some k ∧ listing? k c = some v := by
  rw [get?_conclude] at hk
  split at hk
  · next ho =>
    -- the resolution that ends is one of `k`, and the listing is that of its contact
    rcases Option.or_eq_some_iff.mp hk with h_new | ⟨-, h_old⟩
    · obtain ⟨c, h_contact, h_listing⟩ := Option.bind_eq_some_iff.mp h_new
      exact .inr ⟨c, h_contact, ho, h_listing⟩
    · exact .inl h_old
  · exact .inl hk

/-- Whoever is listed was not just reported gone.  It was listed before, or the contact that is
known of it was just found. -/
theorem TrueTo.get?_handle (h : s.TrueTo r) (he : r.events = event :: events)
    (hk : (s.handle event { r with events }).1.directory.get? k = some v) :
    event ≠ .vanished k ∧
      (s.directory.get? k = some v ∨
        ∃ c, (s.handle event { r with events }).2.1.contact? k k.protocol = some c ∧
          listing? k c = some v) := by
  cases event with
  | found id c =>
    refine ⟨by simp, (get?_conclude_cases id (some c) hk).imp_right ?_⟩
    rintro ⟨c', h_contact, ho, h_listing⟩
    obtain rfl := Option.some.inj h_contact
    refine ⟨c, ?_, h_listing⟩
    show Responder.contact? k k.protocol (s.conclude id (some c) { r with events }).2 = some c
    rw [engine_conclude (some c) _ ho]
    -- the contact that is reported is the one that is known
    exact h.found id c k (he ▸ List.mem_cons_self ..) ho
  | unresolved id reason =>
    refine ⟨by simp, (get?_conclude_cases id none hk).imp_right ?_⟩
    rintro ⟨c, h_contact, -⟩
    exact absurd h_contact (by simp)
  | _ =>
    obtain ⟨h_old, h_stays⟩ := get?_observe hk
    -- before the sweep has started, nobody is listed
    have hs : s.started = true := by
      by_contra hs
      exact absurd h_old (by simp [(h.idle (by simpa using hs)).2 k])
    exact ⟨h_stays hs, .inl h_old⟩

/-- A sighting is listed, and nothing is outstanding that could list it anew. -/
def Stands (k : Sighting) (v : Listing) (s : Sweep) : Prop :=
  s.directory.get? k = some v ∧ ∀ id : Nat, s.outstanding[id]? ≠ some k

theorem Stands.giveUp {σ : Type} [Engine σ] {s : Sweep} (h : s.Stands k v) (e : σ) :
    (s.giveUp e).1.Stands k v := by
  refine ⟨by rw [directory_giveUp]; exact h.1, fun id => ?_⟩
  unfold Sweep.giveUp
  split
  · simp
  · exact h.2 id

theorem Stands.conclude {σ : Type} [Engine σ] {s : Sweep} (h : s.Stands k v) (id : Nat)
    (contact? : Option Contact) (e : σ) : (s.conclude id contact? e).1.Stands k v := by
  -- whatever is resolved, it is not `k`
  refine ⟨by rw [get?_conclude, if_neg (h.2 id)]; exact h.1, fun id' => ?_⟩
  rw [getElem?_outstanding_conclude]
  split
  · simp
  · exact h.2 id'

/-- **What leaves a listing as it is.** Only that its server vanishes or appears concerns it. -/
theorem Stands.handle {σ : Type} [Engine σ] {s : Sweep} (h : s.Stands k v)
    (h_stays : event ≠ .vanished k) (h_new : event ≠ .appeared k) (e : σ) :
    (s.handle event e).1.Stands k v := by
  -- the listing stays while nobody reports it gone, and no resolution of it comes up
  have h_observe : (s.observe event e).1.Stands k v := by
    unfold observe
    split
    · exact h
    · cases event with
      | appeared k' =>
        rcases hr : Engine.resolve k' k'.protocol e with ⟨refusal | id, e'⟩
        · simp only [hr]
          exact h
        · -- what is resolved now is somebody else
          simp only [hr]
          refine ⟨h.1, fun id' => ?_⟩
          rw [Std.ExtTreeMap.getElem?_insert]
          split
          · exact fun h_eq => h_new (congrArg Event.appeared (Option.some.inj h_eq))
          · exact h.2 id'
      | vanished k' =>
        -- another one is dropped
        refine ⟨?_, h.2⟩
        rw [Directory.get?_erase, if_neg fun h_eq => h_stays (congrArg Event.vanished h_eq)]
        exact h.1
      | browseFailed reason => exact h.giveUp e
      | _ => exact h
  cases event with
  | found id c => exact h.conclude id (some c) e
  | unresolved id reason => exact h.conclude id none e
  | _ => exact h_observe

/-! ### What one event does to the queue -/

/-- Giving up drops no event but those that end resolutions. -/
theorem mem_events_giveUp (h : event ∈ r.events) (h_id : event.resolution? = none) :
    event ∈ (s.giveUp r).2.events :=
  giveUp_induction (P := fun r : Responder => event ∈ r.events)
    (fun _ id h => Responder.mem_events_release h (by simp [h_id])) h

/-- Taking in one event drops no other, but those that end resolutions. -/
theorem mem_events_handle {event' : Event} (h : event' ∈ r.events)
    (h_id : event'.resolution? = none) : event' ∈ (s.handle event r).2.1.events := by
  refine handle_induction (P := fun r : Responder => event' ∈ r.events) ?_ ?_ h event
  · exact fun r id h => Responder.mem_events_release h (by simp [h_id])
  · exact fun r k => (Responder.keeps_resolve k k.protocol r).events event'

end Sweep

/-! ### What one step does to a listing -/

namespace EventLoop

variable {l : EventLoop Responder} {event : Event} {events : List Event} {k : Sighting}
  {v : Listing}

theorem fresh_of_listing? (hk : l.sweep.directory.get? k = some v) {c : Contact}
    (h_contact : l.engine.contact? k k.protocol = some c)
    (h_listing : Sweep.listing? k c = some v) :
    Fresh k v l := by
  obtain ⟨h_tag, -, h_url⟩ := Sweep.listing?_eq_some_iff.mp h_listing
  exact ⟨hk, c, h_contact, (Contact.tag?_eq_some_iff.mp h_tag).1, h_url⟩

/-- From one loop to the next, a listing becomes fresh; or it stays as it is, and if its server is
to be reported gone, then it still is. -/
def Follows (k : Sighting) (v : Listing) (l l' : EventLoop Responder) : Prop :=
  Fresh k v l' ∨
    (l.sweep.directory.get? k = some v ∧
      (.vanished k ∈ l.engine.events → .vanished k ∈ l'.engine.events))

/-- Where the directory stays and nothing leaves the queue. -/
theorem Follows.of_eq {l' : EventLoop Responder}
    (h_directory : l'.sweep.directory = l.sweep.directory)
    (h_events : ∀ event ∈ l.engine.events, event ∈ l'.engine.events)
    (hk : l'.sweep.directory.get? k = some v) : Follows k v l l' :=
  .inr ⟨h_directory ▸ hk, h_events _⟩

/-- Taking in the first event of the responder. -/
theorem follows_handle (h : l.sweep.TrueTo l.engine) (he : l.engine.events = event :: events) :
    let l' := ({ l with engine := { l.engine with events } } : EventLoop Responder)
    (l'.handle event).1.sweep.directory.get? k = some v → Follows k v l (l'.handle event).1 := by
  intro l'
  -- the report that is taken off is not that of its going, or there is nothing to show
  have h_rest : event ≠ .vanished k → .vanished k ∈ l.engine.events →
      .vanished k ∈ l'.engine.events := by
    intro h_ne h_gone
    rw [he] at h_gone
    exact (List.mem_cons.mp h_gone).resolve_left h_ne.symm
  unfold EventLoop.handle
  split
  · -- giving up neither lists anybody nor drops what is to be reported
    intro hk
    refine .inr ⟨?_, fun h_gone => ?_⟩
    · rw [← Sweep.directory_giveUp l.sweep l'.engine]
      exact hk
    · exact Sweep.mem_events_giveUp (h_rest (by simp) h_gone) rfl
  · exact fun hk => .inr ⟨hk, h_rest (by simp)⟩
  · exact fun hk => .inr ⟨hk, h_rest (by simp)⟩
  · exact fun hk => .inr ⟨hk, h_rest (by simp)⟩
  · exact fun hk => .inr ⟨hk, h_rest (by simp)⟩
  · exact fun hk => .inr ⟨hk, h_rest (by simp)⟩
  · intro hk
    obtain ⟨h_stays, h_old | ⟨c, h_contact, h_listing⟩⟩ := h.get?_handle he hk
    · exact .inr ⟨h_old, fun h_gone => Sweep.mem_events_handle (h_rest h_stays h_gone) rfl⟩
    · exact .inl (fresh_of_listing? hk h_contact h_listing)

/-- A command lists nobody. -/
theorem directory_obey (ticket : Nat) (command : Command) (l : EventLoop Responder) :
    (l.obey ticket command).1.sweep.directory = l.sweep.directory := by
  obtain ⟨hs, -⟩ | ⟨_, hs, -⟩ | ⟨_, hs, -⟩ | ⟨_, _, -, hs, -⟩ :=
    obey_cases ticket command l <;> rw [hs]

/-- A command drops nothing that is to be reported. -/
theorem mem_events_obey (ticket : Nat) (command : Command) (h : event ∈ l.engine.events) :
    event ∈ (l.obey ticket command).1.engine.events := by
  have h_browse : ∀ scope, event ∈ (Engine.browse serverType scope l.engine).2.events :=
    fun scope => (Responder.keeps_browse serverType scope l.engine).events event h
  -- what the commands do to the engine leaves its reports in place
  obtain ⟨-, he⟩ | ⟨ad, -, he⟩ | ⟨scope, -, he⟩ | ⟨scope, r, hb, -, he⟩ :=
    obey_cases ticket command l <;> rw [he]
  · exact h
  · exact (Responder.keeps_publish ad l.engine).events event h
  · exact h_browse scope
  · have h_browsing := h_browse scope
    rwa [hb] at h_browsing

/-- **One step.** A listing becomes fresh, or it stays as it is. -/
theorem follows_step (input : Input Responder.Happening) (h : l.sweep.TrueTo l.engine)
    (hk : (l.step undergo input).1.sweep.directory.get? k = some v) :
    Follows k v l (l.step undergo input).1 := by
  cases input with
  | command ticket command =>
    -- a command lists nobody
    refine .of_eq ?_ (fun event h_event => ?_) hk
    · show (l.serve ticket command).1.sweep.directory = _
      rw [serve_fst, sweep_answerParked, directory_obey]
    · show event ∈ (l.serve ticket command).1.engine.events
      rw [serve_fst, engine_answerParked]
      exact mem_events_obey ticket command h_event
  | outside happening =>
    -- the outside world does not reach the sweep
    exact .of_eq rfl (Responder.keeps_undergo happening l.engine).events hk
  | poll =>
    obtain ⟨r', h_along, ⟨h_event, h_engine⟩ | ⟨event, events, he, h_event, h_engine⟩⟩ :=
      reports_learning l.engine
    · rw [step_poll_none undergo h_event] at hk ⊢
      refine .of_eq rfl (fun event h_mem => ?_) hk
      show event ∈ l.engine.turn.engine.events
      rw [h_engine]
      exact h_along.2.events event h_mem
    · -- up to the report nothing is dropped, and then one event is taken in
      rw [step_poll_some undergo h_event, receive_fst] at hk ⊢
      have h_handle := follows_handle (k := k) (v := v) (l := { l with engine := r' })
        (h.along h_along) he
      have h_report : ({ l with engine := (Engine.next l.engine).engine } : EventLoop Responder) =
          { l with engine := { r' with events } } := by
        rw [show Engine.next l.engine = l.engine.turn from rfl, h_engine]
      rw [h_report] at hk ⊢
      rw [sweep_answerParked] at hk
      refine (h_handle hk).imp (fun h_fresh => ?_) fun h_old => ⟨h_old.1, fun h_gone => ?_⟩
      · rw [Fresh, sweep_answerParked, engine_answerParked]
        exact h_fresh
      · rw [engine_answerParked]
        exact h_old.2 (h_along.2.events _ h_gone)

/-! ### What a run does to a listing -/

/-- **Every listing was fresh.** A responder is set up and asked for anything, and then a loop
runs over it, with commands in any order, while packets arrive, the clock goes on, turns are
broken off and the system refuses what it likes.  Once the responder has nothing to report,
whatever is listed was fresh at some moment of the run; and since that moment it has been listed
as it is, and its server has been there, without a break. -/
theorem listed_since_fresh (os : OperatingSystem) (settings : Settings) (opened : Opened)
    (prior : List Responder.Input) (inputs : List (Input Responder.Happening)) :
    let r := ((Responder.Dealings.ofResponder (.on os settings opened)).after prior).responder
    let loop (inputs : List (Input Responder.Happening)) := ((ofEngine r).after undergo inputs).1
    (loop inputs).engine.events = [] →
      ∀ k v, (loop inputs).sweep.directory.get? k = some v →
        Since (fun past input => Fresh k v (loop (past ++ [input])))
          (fun past input => ¬ Kept k v (loop (past ++ [input]))) inputs := by
  intro r loop h_quiet k v hk
  -- along the run, there may also be left to report that the server is gone
  have h_since : ∀ inputs, (loop inputs).sweep.directory.get? k = some v →
      .vanished k ∈ (loop inputs).engine.events ∨
        Since (fun past input => Fresh k v (loop (past ++ [input])))
          (fun past input => ¬ Kept k v (loop (past ++ [input]))) inputs := by
    intro inputs
    -- from the end: what is listed now was listed before, or has been listed just now
    induction inputs using List.reverseRecOn with
    | nil => exact fun hk => absurd hk (by simp [loop, ofEngine, Sweep.fresh, Directory.get?_empty])
    | append_singleton inputs input ih =>
      intro hk
      have h_true := trueTo_after os settings opened prior (inputs ++ [input])
      have h_step : loop (inputs ++ [input]) = ((loop inputs).step undergo input).1 := by
        show ((ofEngine r).after undergo (inputs ++ [input])).1 = _
        rw [after_concat]
      rw [since_concat]
      have hk' := hk
      rw [h_step] at hk'
      rcases follows_step input (trueTo_after os settings opened prior inputs) hk' with
        h_fresh | ⟨h_before, h_still⟩
      · -- it is listed now, with what the server says
        exact .inr (.inl (h_step ▸ h_fresh))
      · -- it was listed before: it is kept if the server is still there
        rcases ih h_before with h_gone | h_since
        · exact .inl (h_step ▸ h_still h_gone)
        · rcases h_true.listed k (by rw [hk]; simp) with h_sees | h_gone
          · exact .inr (.inr ⟨h_since, not_not.mpr ⟨hk, h_sees⟩⟩)
          · exact .inl h_gone
  refine (h_since inputs hk).resolve_left ?_
  rw [h_quiet]
  exact List.not_mem_nil

/-! ### How long a listing stays -/

/-- A listing stands, and if its server vanishes, that is reported. -/
def Settled (k : Sighting) (v : Listing) (l : EventLoop Responder) : Prop :=
  l.sweep.Stands k v ∧ l.engine.Discloses k

/-- Whatever is reported but that the server is gone. -/
theorem settled_handle (h : Settled k v l) (he : l.engine.events = event :: events)
    (h_stays : event ≠ .vanished k) :
    let l' := ({ l with engine := { l.engine with events } } : EventLoop Responder)
    Settled k v (l'.handle event).1 := by
  intro l'
  obtain ⟨h_stands, h_discloses⟩ := h
  -- the report that is taken off is about somebody else
  obtain ⟨h_new, h_rest⟩ := h_discloses.rest he h_stays
  unfold EventLoop.handle
  -- of the events for the loop itself only a failure gives up
  split
  · exact ⟨h_stands.giveUp _, Sweep.giveUp_induction (fun _ id h => h.release id) h_rest⟩
  · exact ⟨h_stands, h_rest⟩
  · exact ⟨h_stands, h_rest⟩
  · exact ⟨h_stands, h_rest⟩
  · exact ⟨h_stands, h_rest⟩
  · exact ⟨h_stands, h_rest⟩
  · exact ⟨h_stands.handle h_stays h_new _,
      Sweep.handle_induction (fun _ id h => h.release id) (fun _ k' h => h.resolve k' k'.protocol)
        h_rest event⟩

theorem settled_obey (ticket : Nat) (command : Command) (h : Settled k v l) :
    Settled k v (l.obey ticket command).1 := by
  -- what the commands make of the sweep is no more than that it starts
  obtain ⟨hs, he⟩ | ⟨ad, hs, he⟩ | ⟨scope, hs, he⟩ | ⟨scope, r, hb, hs, he⟩ :=
    obey_cases ticket command l <;> rw [Settled, hs, he]
  · exact h
  · exact ⟨h.1, h.2.publish ad⟩
  · exact ⟨h.1, h.2.browse serverType scope⟩
  · have h_browsing := h.2.browse serverType scope
    rw [show l.engine.browse serverType scope = (.ok (), r) from hb] at h_browsing
    exact ⟨h.1, h_browsing⟩

/-- **One step.** Whatever the loop goes through, if it is not told that the server is gone. -/
theorem settled_step (input : Input Responder.Happening) (h : Settled k v l)
    (h_stays : input = .poll → l.engine.turn.event ≠ some (.vanished k)) :
    Settled k v (l.step undergo input).1 := by
  cases input with
  | command ticket command =>
    show Settled k v (l.serve ticket command).1
    rw [serve_fst, Settled, sweep_answerParked, engine_answerParked]
    exact settled_obey ticket command h
  | outside happening => exact ⟨h.1, (Responder.upheld_discloses k).undergo happening h.2⟩
  | poll =>
    -- the turn of the engine leaves the server disclosed, and then one event is taken in
    obtain ⟨r', h_turn, ⟨h_event, h_engine⟩ | ⟨event, events, he, h_event, h_engine⟩⟩ :=
      (Responder.upheld_discloses k).turn h.2
    · rw [step_poll_none undergo h_event]
      exact ⟨h.1, h_engine ▸ h_turn⟩
    · have h_handle := settled_handle (l := { l with engine := r' }) ⟨h.1, h_turn⟩ he
        fun h_eq => h_stays rfl (h_event.trans (congrArg some h_eq))
      rw [step_poll_some undergo h_event, receive_fst, Settled, sweep_answerParked,
        engine_answerParked, show Engine.next l.engine = l.engine.turn from rfl, h_engine]
      exact h_handle

/-- **A listing stands until its server is reported gone.** A responder is set up and asked for
anything, and then a loop runs over it.  At some moment the responder has nothing to report, and a
server is listed that is not being resolved.  Then it is listed as it is for as long as the
responder does not report it gone, whatever else happens: however often the server announces itself
anew, with another port, another address or another tag. -/
theorem listed_until_gone (os : OperatingSystem) (settings : Settings) (opened : Opened)
    (prior : List Responder.Input) (inputs more : List (Input Responder.Happening)) :
    let r := ((Responder.Dealings.ofResponder (.on os settings opened)).after prior).responder
    let loop (inputs : List (Input Responder.Happening)) := ((ofEngine r).after undergo inputs).1
    (loop inputs).engine.events = [] → (loop inputs).sweep.directory.get? k = some v →
      (∀ id : Nat, (loop inputs).sweep.outstanding[id]? ≠ some k) →
      (∀ past rest, more = past ++ .poll :: rest →
        (loop (inputs ++ past)).engine.turn.event ≠ some (.vanished k)) →
      (loop (inputs ++ more)).sweep.directory.get? k = some v := by
  intro r loop h_quiet hk h_resolved h_stays
  -- with nothing left to report, whoever is listed is there
  have h_sees : (loop inputs).engine.Sees k :=
    (listed_is_seen os settings opened prior inputs).2 h_quiet k (by rw [hk]; simp)
  have h_begin : Settled k v (loop inputs) :=
    ⟨⟨hk, h_resolved⟩, .of_sees h_sees (by rw [h_quiet]; rfl)⟩
  suffices h : Settled k v (loop (inputs ++ more)) from h.1.1
  induction more using List.reverseRecOn with
  | nil => rwa [List.append_nil]
  | append_singleton more input ih =>
    have h_before := ih fun past rest h_eq => h_stays past (rest ++ [input]) (by simp [h_eq])
    rw [← List.append_assoc, show loop (inputs ++ more ++ [input]) =
      ((loop (inputs ++ more)).step undergo input).1 by simp only [loop, after_concat]]
    exact settled_step input h_before fun h_poll => h_stays more [] (by rw [h_poll])

end EventLoop

/-! ### A server that moves to another port

Reading a packet is much work, and the rest of a turn is not.  So what the packets say is proved
first (`MovingServer.decode?_packet`), and the turns in which they are read are run with what they
say. -/

namespace Responder

/-- A turn to which one response has come. -/
def hear (m : Dns.Message) (source : SocketAddress) (r : Responder) : Turn Responder :=
  if r.events ≠ [] ∨ r.state = .failure then r.report []
  else
    match r.work with
    | .error fault => r.fail.report [.socketFailed fault]
    | .ok (notices, r) =>
      if r.events ≠ [] then r.report notices
      else
        let r := { r with machine := { r.machine with inbox := [] } }
        let turn := (r.takeIn m source).turnWith []
        { turn with notices := notices ++ turn.notices }

/-- A packet that has come is heard as the response that it is read as. -/
theorem turn_eq_hear {r : Responder} {octets : Dns.Packet} {source : SocketAddress}
    {m : Dns.Message} (h_inbox : r.machine.inbox = [.datagram octets source])
    (h_read : Dns.Message.decode? (octets.take receiveLimit) = some m)
    (h_whole : m.truncated = false) (h_response : m.isResponse = true) :
    r.turn = r.hear m source := by
  -- the packet is read as the message, so it is taken in as a response
  have h_receive : ∀ r : Responder, r.receive octets source = r.takeIn m source := by
    intro r
    unfold receive
    rw [h_read]
    simp only [h_whole, h_response, Bool.false_eq_true, if_false, if_true]
  unfold turn hear
  rw [h_inbox, turnWith]
  -- a responder with something to report, or one that has failed, does not read
  by_cases h_idle : r.events ≠ [] ∨ r.state = .failure
  · rw [if_pos h_idle, if_pos h_idle]
  · rw [if_neg h_idle, if_neg h_idle]
    rcases r.work with fault | ⟨notices, r'⟩
    · rfl
    · dsimp only
      rw [h_receive]

end Responder

namespace MovingServer

def name (labels : List String) : Dns.Name :=
  (Dns.Name.ofLabels? (labels.map Utf8.bytes)).getD .root

/-- The server on the bench says that it listens on a port. -/
def message (port : UInt16) : Dns.Message :=
  let type := name ["_soapy", "_tcp", "local"]
  let peer := name ["bench", "_soapy", "_tcp", "local"]
  let host := name ["bench", "local"]
  { isResponse := true, truncated := false, questions := []
    answers := [{ owner := type, ttl := 120, cacheFlush := false, data := .ptr peer }]
    additionals := [
      { owner := peer, ttl := 120, cacheFlush := true, data := .srv 0 0 port host },
      { owner := peer, ttl := 120, cacheFlush := true,
        data := .txt [Utf8.bytes "uuid=7f0c"] },
      { owner := host, ttl := 120, cacheFlush := true, data := .a ⟨192, 168, 1, 7⟩ }] }

/-- What it sends to say so, where the two octets are the port. -/
def packetWith (high low : UInt8) : Dns.Packet :=
  #[0, 0, 132, 0, 0, 0, 0, 1, 0, 0, 0, 3,
    6, 95, 115, 111, 97, 112, 121, 4, 95, 116, 99, 112, 5, 108, 111, 99, 97, 108, 0,
    0, 12, 0, 1, 0, 0, 0, 120, 0, 8, 5, 98, 101, 110, 99, 104, 192, 12,
    192, 41, 0, 33, 128, 1, 0, 0, 0, 120, 0, 14, 0, 0, 0, 0, high, low,
    5, 98, 101, 110, 99, 104, 192, 24,
    192, 41, 0, 16, 128, 1, 0, 0, 0, 120, 0, 10, 9, 117, 117, 105, 100, 61, 55, 102, 48, 99,
    192, 67, 0, 1, 128, 1, 0, 0, 0, 120, 0, 4, 192, 168, 1, 7]

def packet (port : UInt16) : Dns.Packet := packetWith (port >>> 8).toUInt8 port.toUInt8

set_option maxRecDepth 10000 in
theorem decode?_packetWith (high low : UInt8) :
    Dns.Message.decode? ((packetWith high low).take receiveLimit) =
      some (message (high.toUInt16 <<< 8 ||| low.toUInt16)) := by
  -- the reader follows pointers by recursion that `decide` cannot open; `cbv` opens it by its
  -- equations, those of the reader's monad are in `Std`
  cbv

theorem decode?_packet (port : UInt16) :
    Dns.Message.decode? ((packet port).take receiveLimit) = some (message port) := by
  rw [packet, decode?_packetWith, Dns.toUInt16_octets]

def source : SocketAddress := .v4 ⟨192, 168, 1, 7⟩ 5353

def arrives (port : UInt16) : EventLoop.Input Responder.Happening :=
  .outside (.arrives .v4 (.datagram (packet port) source))

end MovingServer

namespace EventLoop

/-- Takes in what is reported by a turn. -/
def takeTurn (turn : Turn Responder) (l : EventLoop Responder) : EventLoop Responder :=
  match turn.event with
  | none => { l with engine := turn.engine }
  | some event => ({ l with engine := turn.engine }.receive event).1

theorem step_poll_fst (l : EventLoop Responder) :
    (l.step undergo .poll).1 = l.takeTurn l.engine.turn := by
  unfold takeTurn
  cases h_event : l.engine.turn.event with
  | none =>
    rw [step_poll_none undergo h_event]
    rfl
  | some event =>
    rw [step_poll_some undergo h_event]
    rfl

def stepAll (inputs : List (Input Responder.Happening)) (l : EventLoop Responder) :
    EventLoop Responder :=
  inputs.foldl (fun l input => (l.step undergo input).1) l

-- named, as the elaborator runs the loop where it is asked for this of a run
theorem stepAll_nil (l : EventLoop Responder) : l.stepAll [] = l := rfl

/-- A run goes on from what a turn in the middle of it leaves. -/
theorem stepAll_of_poll {inputs : List (Input Responder.Happening)} {l l' : EventLoop Responder}
    (h : ((l.stepAll inputs).step undergo .poll).1 = l')
    (inputs' : List (Input Responder.Happening)) :
    l.stepAll (inputs ++ .poll :: inputs') = l'.stepAll inputs' := by
  rw [← h, stepAll, List.foldl_append]
  rfl

theorem after_fst (inputs : List (Input Responder.Happening)) (l : EventLoop Responder) :
    (l.after undergo inputs).1 = l.stepAll inputs := by
  induction inputs using List.reverseRecOn with
  | nil => rfl
  | append_singleton inputs input ih =>
    rw [after_concat, ih, stepAll, stepAll, List.foldl_append]
    rfl

end EventLoop

namespace MovingServer

open EventLoop

/-- Somebody asks for servers, and the question is sent.  The server on the bench answers. -/
def asked : EventLoop Responder :=
  (ofEngine plainResponder).stepAll [.command 0 (.query .any), .poll, arrives 55132]

/-- What it answers is heard. -/
def answered : EventLoop Responder :=
  asked.takeTurn (asked.engine.hear (message 55132) source)

/-- It is resolved and listed, and then it says that it listens on the next port. -/
def restarted : EventLoop Responder := answered.stepAll [.poll, .poll, arrives 55133]

/-- That is heard, too. -/
def moved : EventLoop Responder :=
  restarted.takeTurn (restarted.engine.hear (message 55133) source)

/-- A host without interfaces. -/
def system : OperatingSystem where
  hostName := .ok []
  interfaces := []
  listingFault := none
  refuses _ _ := none

/-- Its responder, of which nothing was asked. -/
theorem after_nothing :
    ((Responder.Dealings.ofResponder (.on system {} { transport := .v4 })).after []).responder =
      plainResponder := rfl

/-- A loop over it. -/
def loop (inputs : List (Input Responder.Happening)) : EventLoop Responder :=
  ((ofEngine plainResponder).after undergo inputs).1

def inputs : List (Input Responder.Happening) :=
  [.command 0 (.query .any), .poll, arrives 55132, .poll, .poll, .poll, arrives 55133, .poll]

theorem poll_of_inbox {l : EventLoop Responder} {port : UInt16}
    (h_inbox : l.engine.machine.inbox = [.datagram (packet port) source]) :
    (l.step undergo .poll).1 = l.takeTurn (l.engine.hear (message port) source) := by
  rw [step_poll_fst, Responder.turn_eq_hear h_inbox (decode?_packet port) rfl rfl]

theorem asked_inbox : asked.engine.machine.inbox = [.datagram (packet 55132) source] := by
  decide +kernel

theorem restarted_inbox : restarted.engine.machine.inbox = [.datagram (packet 55133) source] := by
  decide +kernel

theorem loop_inputs : loop inputs = moved := by
  have h_answered : (asked.step undergo .poll).1 = answered := poll_of_inbox asked_inbox
  have h_moved : (restarted.step undergo .poll).1 = moved := poll_of_inbox restarted_inbox
  calc loop inputs
    _ = (ofEngine plainResponder).stepAll inputs := after_fst ..
    _ = answered.stepAll [.poll, .poll, arrives 55133, .poll] := stepAll_of_poll h_answered _
    _ = moved.stepAll [] := stepAll_of_poll h_moved []
    _ = moved := stepAll_nil moved

/-- The server on the bench. -/
def sighting : Sighting where
  interface := 0
  protocol := .v4
  name := "bench"
  serviceType := serverType
  domain

/-- How it is listed. -/
def listing : Listing where
  tag := "7f0c"
  version := .v4
  url := "tcp://192.168.1.7:55132"

theorem get?_moved : moved.sweep.directory.get? sighting = some listing := by decide +kernel

theorem events_moved : moved.engine.events = [] := by
  apply List.isEmpty_iff.mp
  decide +kernel

end MovingServer

namespace EventLoop

open MovingServer

/-- The responder knows the new port of the server.  Nothing is left to be reported or resolved, and
nothing has failed; and the server is listed with the old port. -/
theorem moved_server_is_stale :
    (loop inputs).engine.state = .running ∧ (loop inputs).engine.events = [] ∧
      (loop inputs).sweep.outstanding.isEmpty = true ∧
      (loop inputs).sweep.directory.get? sighting = some listing ∧
      ((loop inputs).engine.contact? sighting sighting.protocol).map (·.port) = some 55133 ∧
      ¬ Fresh sighting listing (loop inputs) := by
  rw [loop_inputs]
  refine ⟨by decide +kernel, events_moved, by decide +kernel, get?_moved, by decide +kernel, ?_⟩
  rintro ⟨-, c, h_contact, -, h_url⟩
  have h_ne : (moved.engine.contact? sighting sighting.protocol).map
      (fun c => connectionUrl c.address c.port sighting.protocol sighting.interface) ≠
        some listing.url := by decide +kernel
  exact h_ne (by rw [h_contact, Option.map_some, h_url])

/-- It was fresh when it was listed, and has been there since. -/
theorem listed_since_fresh_bench :
    (loop inputs).engine.events = [] ∧ (loop inputs).sweep.directory.get? sighting = some listing ∧
      Since (fun past input => Fresh sighting listing (loop (past ++ [input])))
        (fun past input => ¬ Kept sighting listing (loop (past ++ [input]))) inputs := by
  have h_events : (loop inputs).engine.events = [] := by rw [loop_inputs, events_moved]
  have h_listed : (loop inputs).sweep.directory.get? sighting = some listing := by
    rw [loop_inputs, get?_moved]
  have h_since := listed_since_fresh system {} { transport := .v4 } [] inputs
  have h_loop : ∀ inputs, ((ofEngine plainResponder).after undergo inputs).1 = loop inputs :=
    fun _ => rfl
  simp only [after_nothing, h_loop] at h_since
  exact ⟨h_events, h_listed, h_since h_events sighting listing h_listed⟩

end EventLoop
end ServiceDiscovery
