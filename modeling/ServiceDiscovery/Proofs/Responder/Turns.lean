import Mathlib.Logic.Relation
import ServiceDiscovery.Proofs.Multicast.Reports
import ServiceDiscovery.Proofs.Responder.Operations
import ServiceDiscovery.Proofs.Responder.Sending

/-!
# What a responder does by itself

All work of a responder is made of a few elementary operations: acting on times that have come,
sending, taking in what arrives, attaching its sockets and failing.  `Responder.Move r r'` says that
one of them leads from `r` to `r'` at a point where a turn comes to it: nothing is begun after a
failure, nothing but attaching without sockets, and nothing is received while something is to be
reported.  A whole turn is made of moves, up to its report (`Responder.moves_turn`), and so is a
turn that is given up.

A turn does not begin anything while something is to be reported.  So nothing is to be reported when
a packet is taken in; and when peers age, at most that the sockets were attached and that services
were announced, but no contact (`Responder.NothingFound`).

`Responder.Upheld P` says that every elementary operation upholds `P`.  Then a whole turn upholds
`P` up to its report (`Responder.Upheld.turn`), and so does a turn that is given up, and whatever
happens outside (`Responder.Upheld.undergo`).  Often an operation leads along a preorder `R`,
wherever it starts (`Responder.Respected R`).  Then being `R`-related to the responder at the
beginning is upheld.

So what a turn keeps is proved one elementary operation at a time, and the induction over what has
arrived is done once, here.
-/

namespace ServiceDiscovery
namespace Responder

open Dns (Packet Message)

variable {r r' : Responder}

/-! ### When peers age -/

/-- No contact is to be reported. -/
def NothingFound (r : Responder) : Prop := ∀ id contact, .found id contact ∉ r.events

namespace NothingFound

theorem of_nil (he : r.events = []) : r.NothingFound := by
  intro id contact h
  rw [he] at h
  exact absurd h List.not_mem_nil

theorem append (h : r.NothingFound) (events : List Event) (h_none : ∀ id c, .found id c ∉ events)
    (he : r'.events = r.events ++ events) : r'.NothingFound := by
  intro id contact h_event
  rw [he] at h_event
  exact (List.mem_append.mp h_event).elim (h id contact) (h_none id contact)

/-- Sockets that are attached are no contact. -/
theorem attach (h : r.NothingFound) (ha : r.attach = .ok r') : r'.NothingFound := by
  obtain ⟨t, -, rfl⟩ | ⟨t, -, rfl⟩ := attach_cases ha
  · exact h
  · exact h.append [.engine .running] (by simp) rfl

/-- Neither are services that are announced. -/
theorem announceDue (h : r.NothingFound) (now : Nat) : (r.announceDue now).NothingFound := by
  refine announceDue_induction (fun _ _ h => h) (fun r place h => ?_) now h
  obtain h_eq | ⟨service, -, h_eq | h_eq⟩ := announce_cases place r <;> rw [h_eq]
  · exact h
  · exact h
  · -- the one event that an announcement may queue
    exact h.append [.established] (by simp) rfl

end NothingFound

/-! ### Work between attaching and failing -/

/-- Nothing became of the sockets, the state, the clock and what has arrived, and nothing is to be
reported of the engine itself that was not before. -/
structure Steady (r r' : Responder) : Prop where
  link : r'.link = r.link
  state : r'.state = r.state
  now : r'.machine.now = r.machine.now
  inbox : r'.machine.inbox = r.machine.inbox
  events : ∃ events, r'.events = r.events ++ events ∧ ∀ state, .engine state ∉ events

namespace Steady

variable {r'' : Responder}

theorem trans (h : r.Steady r') (h' : r'.Steady r'') : r.Steady r'' where
  link := h'.link.trans h.link
  state := h'.state.trans h.state
  now := h'.now.trans h.now
  inbox := h'.inbox.trans h.inbox
  events := by
    -- the events of the one are queued before those of the other
    obtain ⟨events, he, h_none⟩ := h.events
    obtain ⟨events', he', h_none'⟩ := h'.events
    refine ⟨events ++ events', by rw [he', he, List.append_assoc], fun state h_mem => ?_⟩
    exact (List.mem_append.mp h_mem).elim (h_none state) (h_none' state)

/-- Where the machine stays. -/
theorem of_append (events : List Event) (h_none : ∀ state, .engine state ∉ events)
    (h_link : r'.link = r.link) (h_state : r'.state = r.state) (h_machine : r'.machine = r.machine)
    (he : r'.events = r.events ++ events) : r.Steady r' :=
  ⟨h_link, h_state, by rw [h_machine], by rw [h_machine], events, he, h_none⟩

theorem of_eq (h_link : r'.link = r.link) (h_state : r'.state = r.state)
    (h_machine : r'.machine = r.machine) (he : r'.events = r.events) : r.Steady r' :=
  of_append [] (fun _ => List.not_mem_nil) h_link h_state h_machine (by rw [he, List.append_nil])

theorem refl (r : Responder) : r.Steady r := of_eq rfl rfl rfl rfl

end Steady

theorem steady_announceDue (now : Nat) (r : Responder) : r.Steady (r.announceDue now) := by
  refine announceDue_induction (P := r.Steady) ?_ ?_ now (.refl r)
  · exact fun _ _ h => h.trans (.of_eq rfl rfl rfl rfl)
  · intro r' place h
    -- announcing puts packets in line, and may tell of the service, but not of the engine
    refine h.trans ?_
    obtain h_eq | ⟨service, -, h_eq | h_eq⟩ := announce_cases place r' <;> rw [h_eq]
    · exact .refl r'
    · exact .of_eq rfl rfl rfl rfl
    · exact .of_append [.established] (by simp) rfl rfl rfl rfl

/-- A table reports who is there, and nothing about the engine. -/
theorem engine_not_mem_reports {t t' : PeerTable} {events : List Event} (h : t.Reports t' events)
    (state : EngineState) : .engine state ∉ events := by
  intro h_mem
  obtain ⟨k, h_eq | h_eq⟩ := h.about _ h_mem <;> exact absurd h_eq (by simp)

theorem steady_queryDue (now : Nat) (r : Responder) : r.Steady (r.queryDue now) := by
  obtain h_eq | ⟨b, -, -, h_eq⟩ := queryDue_cases now r <;> rw [h_eq]
  · exact .refl r
  · exact .of_append _ (engine_not_mem_reports (PeerTable.reports_age _ _)) rfl rfl rfl rfl

theorem steady_settleDue (now : Nat) (r : Responder) : r.Steady (r.settleDue now) := by
  obtain h_eq | ⟨b, -, h_eq⟩ := settleDue_cases now r <;> rw [h_eq]
  · exact .refl r
  · exact .of_append [.cacheExhausted, .allForNow] (by simp) rfl rfl rfl rfl

theorem steady_expireDue (now : Nat) (r : Responder) : r.Steady (r.expireDue now) := by
  refine .of_append _ (fun state h => ?_) rfl rfl rfl rfl
  obtain ⟨p, -, h_eq⟩ := List.mem_map.mp h
  exact absurd h_eq (by simp)

theorem steady_actOnTime (now : Nat) (r : Responder) : r.Steady (r.actOnTime now) :=
  (((steady_announceDue now r).trans (steady_queryDue now _)).trans
    (steady_settleDue now _)).trans (steady_expireDue now _)

theorem steady_flushSome (count : Nat) (r : Responder) : r.Steady (r.flushSome count).2 := by
  obtain h_eq | ⟨t, -, h_eq⟩ := flushSome_cases count r <;> rw [h_eq]
  · exact .refl r
  · have h := sends_dispatchAll t (r.outgoing.take count) r.machine
    exact ⟨rfl, rfl, h.now, h.inbox, [], (List.append_nil _).symm, fun _ => List.not_mem_nil⟩

theorem steady_sendPart {passed : Nat} (h : r.sendPart? passed = some r') : r.Steady r' := by
  obtain ⟨t, packet, scope, rest, m, -, -, hm, rfl⟩ := sendPart?_eq_some h
  have h_sends := Machine.sends_multicastUntil? hm
  exact ⟨rfl, rfl, h_sends.now, h_sends.inbox, [], (List.append_nil _).symm,
    fun _ => List.not_mem_nil⟩

theorem steady_noteClaims (m : Message) (r : Responder) : r.Steady (r.noteClaims m) := by
  refine .of_append _ (fun state h => ?_) rfl rfl rfl rfl
  obtain ⟨_, -, h_eq⟩ := List.mem_map.mp h
  exact absurd h_eq (by simp)

theorem steady_completeKnown (table : PeerTable) (r : Responder) :
    r.Steady (r.completeKnown table) := by
  refine .of_append _ (fun state h => ?_) rfl rfl rfl rfl
  -- what is completed is reported as a contact found
  obtain ⟨p, -, h_found⟩ := List.mem_filterMap.mp h
  obtain ⟨contact, -, h_eq⟩ := Option.map_eq_some_iff.mp h_found
  exact absurd h_eq (by simp)

theorem steady_takeIn (m : Message) (source : SocketAddress) (r : Responder) :
    r.Steady (r.takeIn m source) := by
  refine (steady_noteClaims m r).trans ?_
  -- what the response claims is noted first, and then the table takes it in
  obtain h_eq | ⟨b, -, -, h_eq⟩ := takeIn_cases m source r <;> rw [h_eq]
  · exact .refl _
  · refine .trans ?_ (steady_completeKnown _ _)
    exact .of_append _ (engine_not_mem_reports (PeerTable.reports_takeIn _ _ _)) rfl rfl rfl rfl

theorem steady_receive (octets : Packet) (source : SocketAddress) (r : Responder) :
    r.Steady (r.receive octets source) := by
  obtain h_eq | ⟨m, -, -, ⟨-, h_eq⟩ | ⟨-, h_eq⟩⟩ := receive_cases octets source r <;> rw [h_eq]
  · exact .refl r
  · exact steady_takeIn m source r
  · exact .of_eq rfl rfl rfl rfl

/-! ### Moves -/

/-- The sockets are attached, and the responder has not failed. -/
structure Ready (r : Responder) : Prop where
  attached : ∃ t, r.link = .attached t
  state : r.state ≠ .failure

theorem Ready.steady (h : r.Ready) (hs : r.Steady r') : r'.Ready where
  attached := hs.link ▸ h.attached
  state := hs.state ▸ h.state

/-- Something arrived first, and is taken from what has arrived. -/
def pop (inbox : List Arrival) (r : Responder) : Responder :=
  { r with machine := { r.machine with inbox } }

/-- One elementary operation, where a turn comes to it. -/
inductive Move (r : Responder) : Responder → Prop
  | attach {r' : Responder} : r.state ≠ .failure → r.attach = .ok r' → Move r r'
  | announceDue : r.Ready → Move r (r.announceDue r.machine.now)
  | queryDue : r.Ready → r.NothingFound → Move r (r.queryDue r.machine.now)
  | settleDue : r.Ready → Move r (r.settleDue r.machine.now)
  | expireDue : r.Ready → Move r (r.expireDue r.machine.now)
  | flushSome (count : Nat) : r.Ready → Move r (r.flushSome count).2
  /-- A multicast waits for the IPv6 socket. -/
  | sendPart {passed : Nat} {r' : Responder} : r.Ready → r.sendPart? passed = some r' → Move r r'
  | receive {octets : Packet} {source : SocketAddress} {inbox : List Arrival} :
      r.Ready → r.events = [] → r.machine.inbox = .datagram octets source :: inbox →
      Move r ((r.pop inbox).receive octets source)
  /-- The sockets cannot be attached. -/
  | unattached {fault : IoFault} : r.state ≠ .failure → r.attach = .error fault → Move r r.fail
  /-- Receiving fails. -/
  | unheard {errno : Errno} {inbox : List Arrival} :
      r.Ready → r.events = [] → r.machine.inbox = .fault errno :: inbox → Move r (r.pop inbox).fail

/-- Some moves, one after the other. -/
def Moves : Responder → Responder → Prop := Relation.ReflTransGen Move

namespace Moves

variable {r'' : Responder}

theorem refl (r : Responder) : r.Moves r := Relation.ReflTransGen.refl

theorem trans (h : r.Moves r') (h' : r'.Moves r'') : r.Moves r'' := Relation.ReflTransGen.trans h h'

theorem single (h : r.Move r') : r.Moves r' := Relation.ReflTransGen.single h

/-- What every move keeps, any number of them keeps. -/
theorem keep {P : Responder → Prop} (h_move : ∀ {r r'}, Move r r' → P r → P r') (h : r.Moves r')
    (hr : P r) : P r' := by
  induction h with
  | refl => exact hr
  | tail _ h_last ih => exact h_move h_last ih

/-- After a failure no move is left. -/
theorem eq_of_failure (h : r.Moves r') (h_failed : r.state = .failure) : r' = r := by
  -- a failed responder does not make a first move
  obtain rfl | ⟨r₁, h_move, -⟩ := Relation.ReflTransGen.cases_head h
  · rfl
  · cases h_move with
    | attach hs _ | unattached hs _ => exact absurd h_failed hs
    | announceDue hr | queryDue hr _ | settleDue hr | expireDue hr | flushSome _ hr
    | sendPart hr _ | receive hr _ _ | unheard hr _ _ => exact absurd h_failed hr.state

end Moves

/-- Whoever has attached its sockets is ready, on the same machine. -/
theorem ready_attach (h_state : r.state ≠ .failure) (h : r.attach = .ok r') :
    r'.Ready ∧ r'.machine = r.machine := by
  obtain ⟨t, ht, rfl⟩ | ⟨t, -, rfl⟩ := attach_cases h
  · exact ⟨⟨⟨t, ht⟩, h_state⟩, rfl⟩
  · exact ⟨⟨⟨t, rfl⟩, by simp⟩, rfl⟩

theorem moves_actOnTime (h : r.Ready) (hn : r.NothingFound) :
    r.Moves (r.actOnTime r.machine.now) ∧ r.Steady (r.actOnTime r.machine.now) := by
  unfold actOnTime
  generalize h_now : r.machine.now = now
  -- what has been done so far does not stop the clock
  have h₁ : r.Steady (r.announceDue now) := steady_announceDue now r
  have h₂ : r.Steady ((r.announceDue now).queryDue now) := h₁.trans (steady_queryDue now _)
  have h₃ : r.Steady (((r.announceDue now).queryDue now).settleDue now) :=
    h₂.trans (steady_settleDue now _)
  have m₁ : r.Move (r.announceDue now) := h_now ▸ .announceDue h
  have m₂ := Move.queryDue (h.steady h₁) (hn.announceDue now)
  have m₃ := Move.settleDue (h.steady h₂)
  have m₄ := Move.expireDue (h.steady h₃)
  rw [h₁.now, h_now] at m₂
  rw [h₂.now, h_now] at m₃
  rw [h₃.now, h_now] at m₄
  exact ⟨.trans (.trans (.trans (.single m₁) (.single m₂)) (.single m₃)) (.single m₄),
    h₃.trans (steady_expireDue now _)⟩

/-- A round up to where it sends: the sockets are attached, and what is due is done. -/
theorem moves_due (h_state : r.state ≠ .failure) (he : r.events = []) (ha : r.attach = .ok r') :
    let acted := r'.actOnTime r'.machine.now
    r.Moves acted ∧ acted.Ready ∧ acted.machine.inbox = r.machine.inbox := by
  intro acted
  obtain ⟨h_ready, h_machine⟩ := ready_attach h_state ha
  obtain ⟨h_moves, h_acted⟩ := moves_actOnTime h_ready ((NothingFound.of_nil he).attach ha)
  exact ⟨(Moves.single (.attach h_state ha)).trans h_moves, h_ready.steady h_acted,
    h_acted.inbox.trans (by rw [h_machine])⟩

theorem moves_flushUntil (h : r.Ready) (sent : Nat) (passed : Option Nat) :
    r.Moves (r.flushUntil sent passed).2 := by
  unfold flushUntil
  have h_flush : r.Moves (r.flushSome sent).2 := .single (.flushSome sent h)
  dsimp only
  cases h_part : passed.bind (r.flushSome sent).2.sendPart? with
  | none => exact h_flush
  | some r' =>
    -- the packet that waits is the first of those that are left
    obtain ⟨n, -, hn⟩ := Option.bind_eq_some_iff.mp h_part
    exact h_flush.trans (.single (.sendPart (h.steady (steady_flushSome sent r)) hn))

theorem work_error {fault : IoFault} (h : r.work = .error fault) : r.attach = .error fault := by
  unfold work at h
  cases ha : r.attach with
  | error fault' => rw [ha] at h; exact congrArg Except.error (Except.error.inj h)
  | ok r₁ => rw [ha] at h; exact absurd h (by simp [bind, Except.bind, pure, Except.pure])

theorem moves_work (h_state : r.state ≠ .failure) (he : r.events = []) {notices : List Notice}
    (h : r.work = .ok (notices, r')) :
    r.Moves r' ∧ r'.Ready ∧ r'.machine.inbox = r.machine.inbox := by
  unfold work at h
  -- there is a round only if the sockets can be attached
  cases ha : r.attach with
  | error fault => rw [ha] at h; exact absurd h (by simp [bind, Except.bind])
  | ok r₁ =>
    rw [ha] at h
    obtain rfl : (r₁.actOnTime r₁.machine.now).flush.2 = r' := congrArg Prod.snd (Except.ok.inj h)
    obtain ⟨h_moves, h_ready, h_inbox⟩ := moves_due h_state he ha
    have h_steady := steady_flushSome (r₁.actOnTime r₁.machine.now).outgoing.length
      (r₁.actOnTime r₁.machine.now)
    exact ⟨h_moves.trans (.single (.flushSome _ h_ready)), h_ready.steady h_steady,
      h_steady.inbox.trans h_inbox⟩

/-! ### Turns -/

/-- A turn leads to an `R`-related responder and reports its first event, if it has one. -/
def ReportsAlong (R : Responder → Responder → Prop) (r : Responder) (turn : Turn Responder) :
    Prop :=
  ∃ r', R r r' ∧
    ((turn.event = none ∧ turn.engine = r') ∨
      ∃ event events, r'.events = event :: events ∧ turn.event = some event ∧
        turn.engine = { r' with events })

theorem ReportsAlong.mono {R S : Responder → Responder → Prop} {turn : Turn Responder}
    (h : ReportsAlong R r turn) (hRS : ∀ r', R r r' → S r r') : ReportsAlong S r turn := by
  obtain ⟨r', h_rel, h_report⟩ := h
  exact ⟨r', hRS r' h_rel, h_report⟩

/-- Where a turn ends, the first event is reported. -/
theorem reportsAlong_report {R : Responder → Responder → Prop} (notices : List Notice)
    (h : R r r') : ReportsAlong R r (r'.report notices) := by
  refine ⟨r', h, ?_⟩
  unfold Responder.report
  split
  · exact .inl ⟨rfl, rfl⟩
  · -- only the first event is taken out, and the rest waits for the next poll
    next event events he => exact .inr ⟨event, events, he, rfl, rfl⟩

/-- By induction on what has arrived. -/
theorem moves_turnWith (arrivals : List Arrival) (h_inbox : r.machine.inbox = arrivals) :
    ReportsAlong Moves r (r.turnWith arrivals) := by
  induction arrivals generalizing r with
  | nil =>
    unfold turnWith
    split
    · exact reportsAlong_report [] (.refl r)
    · next h_idle =>
      obtain ⟨h_events, h_state⟩ := not_or.mp h_idle
      split
      · next fault hw =>
        exact reportsAlong_report _ (.single (.unattached h_state (work_error hw)))
      · next notices r' hw =>
        have h_work := (moves_work h_state (Classical.not_not.mp h_events) hw).1
        split <;> exact reportsAlong_report _ h_work
  | cons arrival arrivals ih =>
    unfold turnWith
    split
    · -- something is to be reported already, or the responder has failed
      exact reportsAlong_report [] (.refl r)
    · next h_idle =>
      obtain ⟨h_events, h_state⟩ := not_or.mp h_idle
      split
      · next fault hw =>
        exact reportsAlong_report _ (.single (.unattached h_state (work_error hw)))
      · next notices r' hw =>
        obtain ⟨h_work, h_ready, h_same⟩ := moves_work h_state (Classical.not_not.mp h_events) hw
        split
        · exact reportsAlong_report _ h_work
        · -- nothing came up in time, so what arrived first is taken in
          next h_quiet =>
          have he' : r'.events = [] := Classical.not_not.mp h_quiet
          have h_inbox' : r'.machine.inbox = arrival :: arrivals := h_same.trans h_inbox
          cases arrival with
          | fault errno =>
            exact reportsAlong_report _ (h_work.trans (.single (.unheard h_ready he' h_inbox')))
          | datagram octets source =>
            -- and the turn starts over
            have h_taken := h_work.trans (.single (.receive h_ready he' h_inbox'))
            have h_left := (steady_receive octets source (r'.pop arrivals)).inbox
            obtain ⟨r'', h_rest, h_report⟩ := ih h_left
            exact ⟨r'', h_taken.trans h_rest, h_report⟩

/-- **Turns.** A turn is made of moves, up to its report. -/
theorem moves_turn (r : Responder) : ReportsAlong Moves r r.turn :=
  moves_turnWith r.machine.inbox rfl

/-- So is a turn up to where it waits to send a packet.  By induction on the packets that it has
received by then. -/
theorem moves_turnUntil? {sent received : Nat} {passed : Option Nat} {notices : List Notice}
    (h : r.turnUntil? sent passed received = some (notices, r')) : r.Moves r' := by
  induction received generalizing r notices with
  -- the pause is in this round, before anything more is received
  | zero =>
    unfold turnUntil? at h
    split at h
    · exact absurd h (by simp)
    · next h_idle =>
      obtain ⟨h_events, h_state⟩ := not_or.mp h_idle
      split at h
      · exact absurd h (by simp)
      · next r₁ ha =>
        obtain rfl := congrArg Prod.snd (Option.some.inj h)
        obtain ⟨h_moves, h_ready, -⟩ := moves_due h_state (Classical.not_not.mp h_events) ha
        exact h_moves.trans (moves_flushUntil h_ready sent passed)
  | succ received ih =>
    -- the round of this packet is done in full, and the pause is in a later one
    unfold turnUntil? at h
    split at h
    · exact absurd h (by simp)
    · next h_idle =>
      obtain ⟨h_events, h_state⟩ := not_or.mp h_idle
      split at h
      · exact absurd h (by simp)
      · next first r₁ hw =>
        obtain ⟨h_work, h_ready, -⟩ := moves_work h_state (Classical.not_not.mp h_events) hw
        split at h
        · -- the round leaves nothing to report, so what arrived first is taken in
          next octets source inbox he h_inbox =>
          obtain ⟨⟨more, r₂⟩, h_rest, h_same⟩ := Option.map_eq_some_iff.mp h
          obtain rfl := congrArg Prod.snd h_same
          exact (h_work.trans (.single (.receive h_ready he h_inbox))).trans (ih h_rest)
        · exact absurd h (by simp)

/-- So is a turn that is given up. -/
theorem moves_breakOff (pause : Pause) (r : Responder) : r.Moves (r.breakOff pause).2 := by
  unfold breakOff
  cases h : r.turnUntil? pause.sent pause.passed pause.received with
  | none => exact .refl r
  | some result => exact moves_turnUntil? h

/-! ### What happens outside -/

/-- What happens to a responder without its doing, and where a turn is given up. -/
inductive Happening
  | timePasses (time : Nat)
  | systemChanges (change : OperatingSystem → OperatingSystem)
  | arrives (family : Family) (arrival : Arrival)
  | breaksOff (pause : Pause)

def undergo : Happening → Responder → Responder
  | .timePasses time, r => r.elapse time
  | .systemChanges change, r => r.setSystem change
  | .arrives family arrival, r => r.arrive family arrival
  | .breaksOff pause, r => (r.breakOff pause).2

/-- **What happens outside.** A turn is given up; or something arrives and waits to be received; or
it does not concern what has arrived or what went out. -/
theorem undergo_cases (happening : Happening) (r : Responder) :
    r.Moves (undergo happening r) ∨
    ∃ m : Machine, undergo happening r = { r with machine := m } ∧ m.sent = r.machine.sent ∧
      (m.inbox = r.machine.inbox ∨ ∃ family arrival, happening = .arrives family arrival ∧
        m.inbox = r.machine.inbox ++ [arrival]) := by
  cases happening with
  | timePasses time => exact .inr ⟨_, rfl, rfl, .inl rfl⟩
  | systemChanges change => exact .inr ⟨_, rfl, rfl, .inl rfl⟩
  | breaksOff pause => exact .inl (moves_breakOff pause r)
  | arrives family arrival =>
    rw [undergo, arrive]
    dsimp only
    -- where there is no socket for it, it is lost
    split <;> split
    · exact .inr ⟨_, rfl, rfl, .inr ⟨family, arrival, rfl, rfl⟩⟩
    · exact .inl (.refl r)
    · exact .inr ⟨_, rfl, rfl, .inr ⟨family, arrival, rfl, rfl⟩⟩
    · exact .inl (.refl r)
    · exact .inr ⟨_, rfl, rfl, .inr ⟨family, arrival, rfl, rfl⟩⟩
    · exact .inl (.refl r)

/-! ### Properties that are upheld -/

/-- What every elementary operation upholds, wherever a turn comes to it. -/
structure Upheld (P : Responder → Prop) : Prop where
  announceDue (now : Nat) {r : Responder} : P r → P (r.announceDue now)
  queryDue (now : Nat) {r : Responder} : r.NothingFound → P r → P (r.queryDue now)
  settleDue (now : Nat) {r : Responder} : P r → P (r.settleDue now)
  expireDue (now : Nat) {r : Responder} : P r → P (r.expireDue now)
  flushSome (count : Nat) {r : Responder} : P r → P (r.flushSome count).2
  receive (octets : Packet) (source : SocketAddress) {r : Responder} :
    r.events = [] → P r → P (r.receive octets source)
  attach {r r' : Responder} : r.attach = .ok r' → P r → P r'
  fail {r : Responder} : P r → P r.fail
  /-- The clock, the system and what waits to be received do not matter. -/
  machine (m : Machine) {r : Responder} : P r → P { r with machine := m }

/-- A preorder along which every elementary operation leads. -/
structure Respected (R : Responder → Responder → Prop) : Prop where
  refl (r : Responder) : R r r
  trans {r r' r'' : Responder} : R r r' → R r' r'' → R r r''
  announceDue (now : Nat) (r : Responder) : R r (r.announceDue now)
  queryDue (now : Nat) (r : Responder) : R r (r.queryDue now)
  settleDue (now : Nat) (r : Responder) : R r (r.settleDue now)
  expireDue (now : Nat) (r : Responder) : R r (r.expireDue now)
  flushSome (count : Nat) (r : Responder) : R r (r.flushSome count).2
  receive (octets : Packet) (source : SocketAddress) (r : Responder) : R r (r.receive octets source)
  attach {r r' : Responder} : r.attach = .ok r' → R r r'
  fail (r : Responder) : R r r.fail
  /-- The clock, the system and what waits to be received do not matter. -/
  machine (m : Machine) (r : Responder) : R r { r with machine := m }

/-- Where every operation leads along a preorder, one that is `R`-related to where it began stays
so. -/
theorem Respected.upheld {R : Responder → Responder → Prop} (hR : Respected R) (r : Responder) :
    Upheld (R r) where
  announceDue now r' h := hR.trans h (hR.announceDue now r')
  queryDue now r' _ h := hR.trans h (hR.queryDue now r')
  settleDue now r' h := hR.trans h (hR.settleDue now r')
  expireDue now r' h := hR.trans h (hR.expireDue now r')
  flushSome count r' h := hR.trans h (hR.flushSome count r')
  receive octets source r' _ h := hR.trans h (hR.receive octets source r')
  attach ha h := hR.trans h (hR.attach ha)
  fail h := hR.trans h (hR.fail _)
  machine m r' h := hR.trans h (hR.machine m r')

namespace Upheld

variable {P Q : Responder → Prop}

/-- What is upheld by itself is upheld together. -/
theorem and (hP : Upheld P) (hQ : Upheld Q) : Upheld fun r => P r ∧ Q r where
  announceDue now _ h := ⟨hP.announceDue now h.1, hQ.announceDue now h.2⟩
  queryDue now _ hn h := ⟨hP.queryDue now hn h.1, hQ.queryDue now hn h.2⟩
  settleDue now _ h := ⟨hP.settleDue now h.1, hQ.settleDue now h.2⟩
  expireDue now _ h := ⟨hP.expireDue now h.1, hQ.expireDue now h.2⟩
  flushSome count _ h := ⟨hP.flushSome count h.1, hQ.flushSome count h.2⟩
  receive octets source _ he h :=
    ⟨hP.receive octets source he h.1, hQ.receive octets source he h.2⟩
  attach ha h := ⟨hP.attach ha h.1, hQ.attach ha h.2⟩
  fail h := ⟨hP.fail h.1, hQ.fail h.2⟩
  machine m _ h := ⟨hP.machine m h.1, hQ.machine m h.2⟩

theorem move (hP : Upheld P) (h_move : r.Move r') (h : P r) : P r' := by
  cases h_move with
  | attach _ ha => exact hP.attach ha h
  | announceDue _ => exact hP.announceDue _ h
  | queryDue _ hn => exact hP.queryDue _ hn h
  | settleDue _ => exact hP.settleDue _ h
  | expireDue _ => exact hP.expireDue _ h
  | flushSome count _ => exact hP.flushSome count h
  -- a part of a packet went out, which only the machine shows
  | sendPart _ hm =>
    obtain ⟨-, -, -, -, m, -, -, -, rfl⟩ := sendPart?_eq_some hm
    exact hP.machine m h
  | receive _ he _ => exact hP.receive _ _ he (hP.machine _ h)
  | unattached _ _ => exact hP.fail h
  | unheard _ _ _ => exact hP.fail (hP.machine _ h)

/-- What every elementary operation upholds is upheld by a turn up to its report. -/
theorem turn (hP : Upheld P) (h : P r) : ReportsAlong (fun _ => P) r r.turn :=
  (moves_turn r).mono fun _ h_moves => h_moves.keep hP.move h

/-- Nothing that happens outside breaks what every elementary operation upholds. -/
theorem undergo (hP : Upheld P) (happening : Happening) (h : P r) :
    P (Responder.undergo happening r) := by
  -- it is a move, or the machine alone is another one
  obtain h_moves | ⟨m, h_eq, -⟩ := undergo_cases happening r
  · exact h_moves.keep hP.move h
  · rw [h_eq]
    exact hP.machine m h

end Upheld

/-- A turn leads along a preorder along which every elementary operation leads. -/
theorem Respected.turn {R : Responder → Responder → Prop} (hR : Respected R) (r : Responder) :
    ReportsAlong R r r.turn :=
  (hR.upheld r).turn (hR.refl r)

/-- So does what happens outside. -/
theorem Respected.undergo {R : Responder → Responder → Prop} (hR : Respected R)
    (happening : Happening) (r : Responder) : R r (Responder.undergo happening r) :=
  (hR.upheld r).undergo happening (hR.refl r)

end Responder
end ServiceDiscovery
