import ServiceDiscovery.Proofs.Responder.Fates
import ServiceDiscovery.Proofs.Responder.Learning

/-!
# The life of a responder

A responder is connecting until it attaches its sockets, then it is running; and from either state
it may fail, for good.  It reports both.  `Tells s events s'` reads its events as the tale of this:
they lead from `s` to `s'`, nothing is told before the responder runs or fails, and nothing after it
has failed.

What a responder has reported, together with what is queued, is always the tale of how it came from
connecting to its state, and the state says what became of its sockets (`Responder.Lives`).  Every
move continues the tale (`Responder.Lives.move`), and so do requests and reports
(`Dealings.Lives.advance`).  From this `Responder.life_cycle`.  In particular a responder
that has not failed holds its sockets, so its sockets are never missing when it attaches them
(`Responder.socketClosed_not_mem_notices`).
-/

namespace ServiceDiscovery

/-! ### Tales -/

/-- Some events tell how an engine comes from one state to another. -/
inductive Tells : EngineState → List Event → EngineState → Prop
  | ends (s : EngineState) : Tells s [] s
  | runs {events : List Event} {s : EngineState} :
      Tells .running events s → Tells .connecting (.engine .running :: events) s
  | failsAtOnce {events : List Event} {s : EngineState} :
      Tells .failure events s → Tells .connecting (.engine .failure :: events) s
  | fails {events : List Event} {s : EngineState} :
      Tells .failure events s → Tells .running (.engine .failure :: events) s
  /-- Something else happens to an engine that runs. -/
  | goesOn {event : Event} {events : List Event} {s : EngineState} :
      (∀ state, event ≠ .engine state) → Tells .running events s → Tells .running (event :: events) s

namespace Tells

variable {a b c : EngineState} {l l' : List Event}

theorem append (h : Tells a l b) (h' : Tells b l' c) : Tells a (l ++ l') c := by
  induction h with
  | ends => exact h'
  | runs _ ih => exact .runs (ih h')
  | failsAtOnce _ ih => exact .failsAtOnce (ih h')
  | fails _ ih => exact .fails (ih h')
  | goesOn h_other _ ih => exact .goesOn h_other (ih h')

/-- While an engine runs, anything may happen that does not concern its state. -/
theorem of_quiet (h : ∀ state, .engine state ∉ l) : Tells .running l .running := by
  induction l with
  | nil => exact .ends _
  | cons event l ih =>
    refine .goesOn (fun state h_eq => h state ?_) (ih fun state h_mem => h state ?_)
    · exact h_eq ▸ List.mem_cons_self ..
    · exact List.mem_cons_of_mem _ h_mem

/-- Events that do not concern the state can be left out. -/
theorem filter {p : Event → Bool} (hp : ∀ state, p (.engine state)) (h : Tells a l b) :
    Tells a (l.filter p) b := by
  -- events about the engine stay, and the others do not matter
  induction h with
  | ends => exact .ends _
  | runs _ ih => rw [List.filter_cons_of_pos (hp _)]; exact .runs ih
  | failsAtOnce _ ih => rw [List.filter_cons_of_pos (hp _)]; exact .failsAtOnce ih
  | fails _ ih => rw [List.filter_cons_of_pos (hp _)]; exact .fails ih
  | @goesOn event events s h_other _ ih =>
    by_cases h_event : p event
    · rw [List.filter_cons_of_pos h_event]; exact .goesOn h_other ih
    · rw [List.filter_cons_of_neg h_event]; exact ih

/-- Also from some point of the tale on. -/
theorem filter_right {p : Event → Bool} (hp : ∀ state, p (.engine state))
    (h : Tells a (l ++ l') b) : Tells a (l ++ l'.filter p) b := by
  induction l generalizing a with
  -- the first part is passed over, event by event
  | nil => exact h.filter hp
  | cons event l ih =>
    cases h with
    | runs h => exact .runs (ih h)
    | failsAtOnce h => exact .failsAtOnce (ih h)
    | fails h => exact .fails (ih h)
    | goesOn h_other h => exact .goesOn h_other (ih h)

/-- An engine that has failed has nothing to tell. -/
theorem of_failure (h : Tells .failure l b) : l = [] ∧ b = .failure := by
  cases h
  exact ⟨rfl, rfl⟩

/-- The states that an engine comes to. -/
theorem state (h : Tells a l b) (ha : a ≠ .collision) : b ≠ .collision := by
  induction h with
  | ends => exact ha
  | runs _ ih | failsAtOnce _ ih | fails _ ih | goesOn _ _ ih => exact ih (by simp)

/-- What is told first of an engine that was connecting. -/
theorem first {event : Event} (h : Tells .connecting (event :: l) b) :
    event = .engine .running ∨ event = .engine .failure := by
  cases h with
  | runs _ => exact .inl rfl
  | failsAtOnce _ => exact .inr rfl

/-- An engine that is not connecting any more does not come back to that. -/
theorem ne_connecting (h : Tells a l b) (ha : a ≠ .connecting) : b ≠ .connecting := by
  induction h with
  | ends => exact ha
  | runs _ ih | failsAtOnce _ ih | fails _ ih | goesOn _ _ ih => exact ih (by simp)

/-- While an engine is connecting there is nothing to tell. -/
theorem nil_of_connecting (h : Tells a l .connecting) : l = [] := by
  cases h with
  | ends => rfl
  | runs h | failsAtOnce h | fails h | goesOn _ h => exact absurd rfl (h.ne_connecting (by simp))

/-- Nothing is told after the failure of an engine. -/
theorem nil_of_cons {event : Event} {before after : List Event} (h : Tells .failure l b)
    (hl : .engine .failure :: l = before ++ event :: after) : after = [] := by
  rw [h.of_failure.1] at hl
  cases before with
  | nil => exact (List.cons.inj hl).2.symm
  | cons event before => exact absurd (List.cons.inj hl).2 (by simp)

/-- A failure is told last. -/
theorem failure_last {before after : List Event} (h : Tells a l b)
    (hl : l = before ++ .engine .failure :: after) : after = [] := by
  induction h generalizing before with
  | ends => exact absurd hl (by simp)
  -- only the end of the list can be told after a failure, so a failure found further on is the last
  | runs _ ih =>
    cases before with
    | nil => exact absurd (List.cons.inj hl).1 (by simp)
    | cons event before => exact ih (List.cons.inj hl).2
  | goesOn h_other _ ih =>
    cases before with
    | nil => exact absurd (List.cons.inj hl).1 (h_other _)
    | cons event before => exact ih (List.cons.inj hl).2
  | failsAtOnce h _ | fails h _ => exact h.nil_of_cons hl

/-- That an engine runs is told at its beginning, if at all. -/
theorem running_not_mem (h : Tells .running l b) : .engine .running ∉ l := by
  -- the state that is told about first is a variable of the induction
  generalize h_start : EngineState.running = s at h
  induction h with
  | ends => exact List.not_mem_nil
  | runs _ _ | failsAtOnce _ _ => exact absurd h_start (by simp)
  | fails h _ => rw [h.of_failure.1]; simp
  | goesOn h_other _ ih =>
    rw [List.mem_cons, not_or]
    exact ⟨fun h_eq => h_other _ h_eq.symm, ih rfl⟩

/-- No state is told twice. -/
theorem once {before after : List Event} {state : EngineState} (h : Tells a l b)
    (hl : l = before ++ .engine state :: after) : .engine state ∉ after := by
  induction h generalizing before with
  | ends => exact absurd hl (by simp)
  | runs h ih =>
    cases before with
    -- the state is the one told about, so what follows speaks of no other
    | nil =>
      obtain ⟨h_state, rfl⟩ := List.cons.inj hl
      exact h_state ▸ h.running_not_mem
    | cons event before => exact ih (List.cons.inj hl).2
  -- after a failure nothing is told
  | failsAtOnce h _ | fails h _ =>
    rw [h.nil_of_cons hl]
    exact List.not_mem_nil
  | goesOn h_other _ ih =>
    cases before with
    | nil => exact absurd (List.cons.inj hl).1 (h_other state)
    | cons event before => exact ih (List.cons.inj hl).2

/-- Whoever comes to fail tells it. -/
theorem failure_mem_iff (h : Tells a l b) (ha : a ≠ .failure) :
    .engine .failure ∈ l ↔ b = .failure := by
  -- a failure that is told is the last, and so what has become of the engine
  induction h with
  | ends => exact ⟨fun h => absurd h List.not_mem_nil, fun h => absurd h ha⟩
  | runs _ ih => simpa using ih (by simp)
  | failsAtOnce h _ | fails h _ => exact ⟨fun _ => h.of_failure.2, fun _ => List.mem_cons_self ..⟩
  | goesOn h_other _ ih =>
    rw [List.mem_cons, ih (by simp), or_iff_right fun h_eq => h_other _ h_eq.symm]

end Tells

/-- How a state may follow another: an engine that is connecting comes to run, and either fails for
good. -/
inductive EngineState.Leads : EngineState → EngineState → Prop
  | stays (s : EngineState) : Leads s s
  | runs : Leads .connecting .running
  | failsAtOnce : Leads .connecting .failure
  | fails : Leads .running .failure

theorem EngineState.Leads.trans {a b c : EngineState} (h : a.Leads b) (h' : b.Leads c) :
    a.Leads c := by
  cases h <;> cases h' <;> constructor

namespace Responder

/-! ### Requests and the state -/

theorem state_publish (ad : Advertisement) (r : Responder) : (r.publish ad).2.state = r.state := by
  obtain ⟨refusal, h_eq⟩ | ⟨host, service, -, -, -, h_eq⟩ := publish_cases ad r <;> rw [h_eq]
  rfl

theorem state_browse (type : String) (scope : IpScope) (r : Responder) :
    (r.browse type scope).2.state = r.state := by
  obtain ⟨refusal, h_eq⟩ | ⟨b, -, -, -, h_eq⟩ := browse_cases type scope r <;> rw [h_eq]

theorem state_resolve (k : Sighting) (q : IpScope) (r : Responder) :
    (r.resolve k q).2.state = r.state := by
  obtain ⟨_, h_eq⟩ | ⟨_, h_eq⟩ | ⟨b, -, -, ⟨c, -, h_eq⟩ | ⟨packet, -, -, h_eq⟩⟩ :=
    resolve_cases k q r <;> rw [h_eq] <;> rfl

/-! ### The state and the sockets -/

/-- What becomes of the sockets of a transport as an engine comes to a state. -/
def linkIn (t : Transport) : EngineState → Link
  | .connecting => .waiting t
  | .failure => .closed
  | _ => .attached t

/-- A responder with these sockets lives as it should, if it has reported some events. -/
structure Lives (t : Transport) (reported : List Event) (r : Responder) : Prop where
  /-- What it has reported and what is queued tell how it came to its state. -/
  told : Tells .connecting (reported ++ r.events) r.state
  link : r.link = linkIn t r.state
  /-- Whoever has failed has nothing to send. -/
  outgoing : r.state = .failure → r.outgoing = []
  /-- Whoever is still connecting knows nobody. -/
  contact : r.state = .connecting → ∀ k q, r.contact? k q = none

namespace Lives

variable {t : Transport} {reported : List Event} {r r' : Responder}

/-- Sockets that are attached are those of a responder that runs. -/
theorem running (h : Lives t reported r) (hr : r.Ready) : r.state = .running := by
  -- who is ready has sockets, and sockets mean that it is running
  obtain ⟨t', h_link⟩ := hr.attached
  have h_known := h.told.state (by simp)
  cases h_state : r.state with
  | running => rfl
  | connecting => rw [h.link, h_state] at h_link; exact absurd h_link (by simp [linkIn])
  | collision => exact absurd h_state h_known
  | failure => exact absurd h_state hr.state

/-- A responder that has not failed is connecting or running. -/
theorem alive (h : Lives t reported r) (hr : r.state ≠ .failure) :
    r.state = .connecting ∨ r.state = .running := by
  have h_known := h.told.state (by simp)
  -- only these two states are left: a collision is of the host, not of the engine
  cases h_state : r.state with
  | connecting => exact .inl rfl
  | running => exact .inr rfl
  | collision => exact absurd h_state h_known
  | failure => exact absurd h_state hr

/-- While the responder runs, anything may be queued that does not concern its state. -/
theorem of_running (h : Lives t reported r) (h_running : r.state = .running) (events : List Event)
    (h_quiet : ∀ state, .engine state ∉ events) (h_state : r'.state = r.state)
    (h_link : r'.link = r.link) (he : r'.events = r.events ++ events) : Lives t reported r' where
  told := by
    -- what is added speaks of nothing about the engine, so the tale goes on as it was
    rw [he, h_state, ← List.append_assoc, h_running]
    exact (h_running ▸ h.told).append (.of_quiet h_quiet)
  link := by rw [h_link, h_state, h.link]
  outgoing h_failed := absurd (h_state.symm.trans h_failed) (by simp [h_running])
  contact h_connecting := absurd (h_state.symm.trans h_connecting) (by simp [h_running])

/-- Work between attaching and failing. -/
theorem steady (h : Lives t reported r) (hr : r.Ready) (h_steady : r.Steady r') :
    Lives t reported r' ∧ r.state.Leads r'.state := by
  obtain ⟨events, he, h_quiet⟩ := h_steady.events
  refine ⟨h.of_running (h.running hr) events h_quiet h_steady.state h_steady.link he, ?_⟩
  rw [h_steady.state]
  exact .stays _

/-- Whatever else changes. -/
theorem of_eq (h : Lives t reported r) (h_state : r'.state = r.state) (h_link : r'.link = r.link)
    (he : r'.events = r.events) (ho : r.state = .failure → r'.outgoing = r.outgoing)
    (hc : r.state = .connecting → ∀ k q, r'.contact? k q = r.contact? k q) :
    Lives t reported r' where
  -- the responder told nothing new, so its state, link and line are the ones told
  told := by rw [he, h_state]; exact h.told
  link := by rw [h_link, h_state, h.link]
  outgoing h_failed := by
    rw [h_state] at h_failed
    rw [ho h_failed, h.outgoing h_failed]
  contact h_connecting k q := by
    rw [h_state] at h_connecting
    rw [hc h_connecting, h.contact h_connecting]

/-- Sockets that have been waiting are those of a responder that is connecting. -/
theorem connecting {t' : Transport} (h : Lives t reported r) (h_waiting : r.link = .waiting t') :
    r.state = .connecting ∧ t' = t := by
  have h_link := h.link.symm.trans h_waiting
  cases h_state : r.state with
  | connecting => rw [h_state] at h_link; exact ⟨rfl, (Link.waiting.inj h_link).symm⟩
  | _ => rw [h_state] at h_link; exact absurd h_link (by simp [linkIn])

/-- Attaching is told once. -/
theorem attach (h : Lives t reported r) (ha : r.attach = .ok r') :
    Lives t reported r' ∧ r.state.Leads r'.state := by
  -- already attached: nothing is told
  obtain ⟨t', -, rfl⟩ | ⟨t', h_waiting, rfl⟩ := attach_cases ha
  · exact ⟨h, .stays _⟩
  · -- it was connecting, and now it is told that it runs
    obtain ⟨h_state, rfl⟩ := h.connecting h_waiting
    refine ⟨⟨?_, rfl, fun h => absurd h (by simp), fun h => absurd h (by simp)⟩, h_state ▸ .runs⟩
    show Tells _ (reported ++ (r.events ++ [.engine .running])) .running
    rw [← List.append_assoc]
    exact (h_state ▸ h.told).append (.runs (.ends _))

/-- Failing is told once. -/
theorem fail (h : Lives t reported r) (hr : r.state ≠ .failure) :
    Lives t reported r.fail ∧ r.state.Leads r.fail.state := by
  have h_last : Tells r.state [.engine .failure] .failure ∧ r.state.Leads .failure := by
    obtain h_state | h_state := h.alive hr <;> rw [h_state]
    · exact ⟨.failsAtOnce (.ends _), .failsAtOnce⟩
    · exact ⟨.fails (.ends _), .fails⟩
  -- what was queued stays queued, and the failure is behind it
  refine ⟨⟨?_, rfl, fun _ => rfl, fun h => absurd h (by simp [Responder.fail])⟩, h_last.2⟩
  show Tells _ (reported ++ (r.events ++ [.engine .failure])) .failure
  rw [← List.append_assoc]
  exact h.told.append h_last.1

/-- **Moves.** Every elementary operation goes on with the life of a responder. -/
theorem move (h : Lives t reported r) (h_move : r.Move r') :
    Lives t reported r' ∧ r.state.Leads r'.state := by
  cases h_move with
  | attach _ ha => exact h.attach ha
  | announceDue hr => exact h.steady hr (steady_announceDue _ r)
  | queryDue hr _ => exact h.steady hr (steady_queryDue _ r)
  | settleDue hr => exact h.steady hr (steady_settleDue _ r)
  | expireDue hr => exact h.steady hr (steady_expireDue _ r)
  | flushSome count hr => exact h.steady hr (steady_flushSome count r)
  | sendPart hr h_part => exact h.steady hr (steady_sendPart h_part)
  | @receive octets source inbox hr _ _ =>
    -- what has arrived does not matter
    have h_pop : Lives t reported (r.pop inbox) :=
      h.of_eq rfl rfl rfl (fun _ => rfl) fun _ _ _ => rfl
    exact h_pop.steady (r := r.pop inbox) ⟨hr.attached, hr.state⟩ (steady_receive _ _ _)
  | unattached hr _ => exact h.fail hr
  | @unheard errno inbox hr _ _ =>
    have h_pop : Lives t reported (r.pop inbox) :=
      h.of_eq rfl rfl rfl (fun _ => rfl) fun _ _ _ => rfl
    exact h_pop.fail hr.state

theorem moves (h : Lives t reported r) (h_moves : r.Moves r') :
    Lives t reported r' ∧ r.state.Leads r'.state := by
  refine h_moves.keep (P := fun r' => Lives t reported r' ∧ r.state.Leads r'.state) ?_ ⟨h, .stays _⟩
  intro r₁ r₂ h_move h₁
  obtain ⟨h₂, h_leads⟩ := h₁.1.move h_move
  exact ⟨h₂, h₁.2.trans h_leads⟩

/-- What is queued first is reported first. -/
theorem report {event : Event} {events : List Event} (h : Lives t reported r)
    (he : r.events = event :: events) : Lives t (reported ++ [event]) { r with events } where
  told := by
    -- the event moves from those in line to those told
    show Tells _ (reported ++ [event] ++ events) r.state
    rw [List.append_assoc, List.singleton_append, ← he]
    exact h.told
  link := h.link
  outgoing := h.outgoing
  contact := h.contact

/-! ### Requests -/

theorem publish (h : Lives t reported r) (ad : Advertisement) :
    Lives t reported (r.publish ad).2 := by
  obtain ⟨refusal, h_eq⟩ | ⟨host, service, -, -, -, h_eq⟩ := publish_cases ad r <;> rw [h_eq]
  · exact h
  · exact h.of_eq rfl rfl rfl (fun _ => rfl) fun _ _ _ => rfl

/-- Whoever begins to browse knows nobody yet. -/
theorem browse (h : Lives t reported r) (type : String) (scope : IpScope) :
    Lives t reported (r.browse type scope).2 := by
  -- refused, or a browse has begun: nothing is told about the engine
  obtain ⟨refusal, h_eq⟩ | ⟨b, -, -, hb, h_eq⟩ := browse_cases type scope r <;> rw [h_eq]
  · exact h
  · -- a responder that has just begun to browse knows no contact
    refine h.of_eq rfl rfl rfl (fun _ => rfl) fun h_connecting k q => ?_
    rw [h.contact h_connecting]
    show b.table.contact? k q = none
    rw [table_beginBrowsing hb]
    rfl

/-- A resolution can only end at once if the responder runs. -/
theorem resolve (h : Lives t reported r) (k : Sighting) (q : IpScope) :
    Lives t reported (r.resolve k q).2 := by
  obtain ⟨_, h_eq⟩ | ⟨_, h_eq⟩ | ⟨b, h_state, hb, ⟨c, hc, h_eq⟩ | ⟨packet, -, -, h_eq⟩⟩ :=
    resolve_cases k q r <;> rw [h_eq]
  · exact h
  · exact h.of_eq rfl rfl rfl (fun _ => rfl) fun _ _ _ => rfl
  · -- whose contact is known was heard of, so the sockets are attached
    have h_contact : r.contact? k q = some c := by
      rw [contact?, table?_of_browsing hb]
      exact hc
    have h_running : r.state = .running :=
      (h.alive h_state).resolve_left fun h_connecting => by
        rw [h.contact h_connecting] at h_contact
        exact absurd h_contact (by simp)
    exact h.of_running h_running [.found r.nextResolution c] (by simp) rfl rfl rfl
  · exact h.of_eq rfl rfl rfl (fun h_failed => absurd h_failed h_state) fun _ _ _ => rfl

/-- What is left out when a resolution is released does not concern the state. -/
theorem release (h : Lives t reported r) (id : Nat) : Lives t reported (r.release id) where
  told := h.told.filter_right (by simp [Event.resolution?])
  link := h.link
  outgoing := h.outgoing
  contact := h.contact

end Lives

/-! ### Runs -/

/-- The events that were reported, in order. -/
def delivered (history : List Dealing) : List Event :=
  history.filterMap fun
    | .reported event => some event
    | _ => none

theorem delivered_reported (history : List Dealing) (event : Event) :
    delivered (history ++ [.reported event]) = delivered history ++ [event] :=
  List.filterMap_append

/-- A dealing that reports nothing adds no event. -/
theorem delivered_concat {history : List Dealing} {d : Dealing} (hd : ∀ event, d ≠ .reported event) :
    delivered (history ++ [d]) = delivered history := by
  have h_none : delivered [d] = [] := by
    cases d with
    | reported event => exact absurd rfl (hd event)
    | _ => rfl
  rw [delivered, List.filterMap_append]
  exact (congrArg _ h_none).trans (List.append_nil _)

/-- The life of a responder with these sockets, and what was reported in some dealings with it. -/
def Dealings.Lives (t : Transport) (c : Dealings) : Prop :=
  Responder.Lives t (delivered c.history) c.responder

namespace Dealings.Lives

variable {t : Transport} {c : Dealings}

theorem fresh (os : OperatingSystem) (settings : Settings) (opened : Opened) :
    (Dealings.ofResponder (.on os settings opened)).Lives opened.transport where
  told := .ends _
  link := rfl
  outgoing _ := rfl
  contact _ _ _ := rfl

/-- **Every input goes on with the life of a responder.** -/
theorem advance (h : c.Lives t) (input : Input) :
    (c.advance input).Lives t ∧ c.responder.state.Leads (c.responder.step input).1.state := by
  -- where nothing is reported
  have h_quiet : ∀ {r' d}, c.responder.step input = (r', d) → (∀ event, d ≠ .reported event) →
      Responder.Lives t (delivered c.history) r' → (c.advance input).Lives t := by
    intro r' d h_step hd h'
    unfold Dealings.advance Dealings.Lives
    rw [h_step, delivered_concat hd]
    exact h'
  cases input with
  | publish ad =>
    refine ⟨h_quiet rfl (by simp) (h.publish ad), ?_⟩
    rw [step, state_publish]
    exact .stays _
  | browse type scope =>
    refine ⟨h_quiet rfl (by simp) (h.browse type scope), ?_⟩
    rw [step, state_browse]
    exact .stays _
  | resolve k q =>
    obtain ⟨h_step, hd⟩ := step_resolve k q c.responder
    refine ⟨h_quiet rfl hd (h_step ▸ h.resolve k q), ?_⟩
    rw [h_step, state_resolve]
    exact .stays _
  | release id => exact ⟨h_quiet rfl (by simp) (h.release id), .stays _⟩
  | poll =>
    obtain ⟨r', h_moves, h_step | ⟨event, events, he, h_step⟩⟩ :=
      step_poll (moves_turn c.responder)
    all_goals
      obtain ⟨h', h_leads⟩ := h.moves h_moves
      rw [h_step]
      refine ⟨?_, h_leads⟩
    · exact h_quiet h_step (by simp) h'
    · unfold Dealings.advance Dealings.Lives
      rw [h_step, delivered_reported]
      exact h'.report he
  | outside happening =>
    obtain h_moves | ⟨m, h_eq, -⟩ := undergo_cases happening c.responder
    · obtain ⟨h', h_leads⟩ := h.moves h_moves
      exact ⟨h_quiet rfl (by simp) h', h_leads⟩
    · rw [step, h_eq]
      refine ⟨h_quiet (by rw [step, h_eq]) (by simp) ?_, .stays _⟩
      exact h.of_eq rfl rfl rfl (fun _ => rfl) fun _ _ _ => rfl

theorem after (h : c.Lives t) (inputs : List Input) : (c.after inputs).Lives t := by
  induction inputs using List.reverseRecOn with
  | nil => exact h
  | append_singleton inputs input ih =>
    rw [after_concat]
    exact (ih.advance input).1

end Dealings.Lives

/-! ### Failures -/

/-- Before a failure, attaching fails only because the system refuses it. -/
theorem attach_error {r : Responder} {fault : IoFault} (h_open : r.link ≠ .closed)
    (h : r.attach = .error fault) : ∃ errno, fault = .system errno := by
  unfold attach at h
  split at h
  · -- it was attached already
    exact absurd h (by simp)
  · split at h
    · exact ⟨_, (Except.error.inj h).symm⟩
    · exact absurd h (by simp)
  · -- it was closed, which is excluded
    next h_closed => exact absurd h_closed h_open

theorem notices_work {r r' : Responder} {notices : List Notice}
    (h : r.work = .ok (notices, r')) : .socketFailed .socketClosed ∉ notices := by
  unfold work at h
  cases ha : r.attach with
  | error fault => rw [ha] at h; exact absurd h (by simp [bind, Except.bind])
  | ok r₁ =>
    rw [ha] at h
    obtain rfl : (r₁.actOnTime r₁.machine.now).flush.1 = notices :=
      congrArg Prod.fst (Except.ok.inj h)
    intro h_mem
    -- a flush reports packets that could not be sent, and nothing else
    obtain ⟨fault, h_eq⟩ := notices_flushSome _ _ _ h_mem
    exact absurd h_eq (by simp)

@[simp] theorem notices_report (notices : List Notice) (r : Responder) :
    (r.report notices).notices = notices := by
  unfold report
  split <;> rfl

/-- **Sockets are never missing.** By induction on what has arrived: after every round the sockets
are attached, if it did not fail. -/
theorem socketClosed_not_mem_notices (arrivals : List Arrival) {r : Responder}
    (h_open : r.state ≠ .failure → r.link ≠ .closed) :
    .socketFailed .socketClosed ∉ (r.turnWith arrivals).notices := by
  induction arrivals generalizing r with
  | nil =>
    unfold turnWith
    split
    · -- nothing is done: the events of the last turn are still there
      simp
    · next h_idle =>
      split
      · next fault hw =>
        -- attaching the sockets failed, so it was not for lack of any
        obtain ⟨errno, rfl⟩ := attach_error (h_open (not_or.mp h_idle).2) (work_error hw)
        simp
      · -- whether there is something to report or not, the round has not failed
        next notices r' hw => split <;> simpa using notices_work hw
  | cons arrival arrivals ih =>
    unfold turnWith
    split
    · simp
    · next h_idle =>
      obtain ⟨h_events, h_state⟩ := not_or.mp h_idle
      split
      · next fault hw =>
        obtain ⟨errno, rfl⟩ := attach_error (h_open h_state) (work_error hw)
        simp
      · next notices r' hw =>
        obtain ⟨-, h_ready, -⟩ := moves_work h_state (Classical.not_not.mp h_events) hw
        split
        · simpa using notices_work hw
        · cases arrival with
          | fault errno => simpa using notices_work hw
          | datagram octets source =>
            -- the round has attached the sockets, and they stay so as the packet is taken in
            have h_next := steady_receive octets source (r'.pop arrivals)
            obtain ⟨t, h_link⟩ := h_ready.attached
            have h_rest := ih (r := (r'.pop arrivals).receive octets source) fun _ => by
              rw [h_next.link]
              show r'.link ≠ .closed
              simp [h_link]
            simp only [List.mem_append, not_or]
            exact ⟨notices_work hw, h_rest⟩

/-- After a failure nothing is queued any more. -/
theorem events_step_of_failure {r : Responder} (h : r.state = .failure) (input : Input) :
    (r.step input).1.events.Sublist r.events := by
  cases input with
  | publish ad =>
    -- a failed responder refuses to publish
    rw [step, publish, if_pos h]
  | browse type scope =>
    rw [step, browse, if_pos h]
  | resolve k q =>
    rw [(step_resolve k q r).1, resolve, if_pos h]
  -- forgetting an event forgets nothing about the engine
  | release id => exact List.filter_sublist
  | poll =>
    obtain ⟨r', h_moves, h_step | ⟨event, events, he, h_step⟩⟩ := step_poll (moves_turn r) <;>
      -- a failed responder neither moves nor reports
      (rw [h_step]; obtain rfl := h_moves.eq_of_failure h)
    · exact .refl _
    · rw [he]
      exact List.sublist_cons_self event events
  | outside happening =>
    obtain h_moves | ⟨m, h_eq, -⟩ := undergo_cases happening r
    · rw [step, h_moves.eq_of_failure h]
    · rw [step, h_eq]

/-! ### The life cycle -/

/-- **Life cycle.** A responder is set up on sockets, and then asked for anything in any order,
while packets arrive, the clock goes on and the system refuses what it likes.

It is connecting, or running, or it has failed; an input can only lead from connecting to running or
failing, and from running to failing.  What is reported first is that it runs or that it has failed;
neither is reported twice.  It has failed as soon as that is queued, which is the last that ever is:
nothing is behind it, nothing is queued by any input from then on, and once it was reported nothing
is left to report.

A responder that runs has attached its sockets, and one that has failed has given them up and has
nothing to send; and this is also so at any point of a turn that is just going on (`Moves`), where
attaching therefore never finds the sockets closed.  So no turn notes that. -/
theorem life_cycle (os : OperatingSystem) (settings : Settings) (opened : Opened)
    (inputs : List Input) :
    let c := (Dealings.ofResponder (.on os settings opened)).after inputs
    let r := c.responder
    let reported := delivered c.history
    (r.state = .connecting ∨ r.state = .running ∨ r.state = .failure) ∧
    (∀ input, r.state.Leads (r.step input).1.state) ∧
    (∀ event rest, reported = event :: rest → event = .engine .running ∨ event = .engine .failure) ∧
    (∀ state before after, reported = before ++ .engine state :: after → .engine state ∉ after) ∧
    (.engine .failure ∈ reported ++ r.events ↔ r.state = .failure) ∧
    (∀ before after, reported ++ r.events = before ++ .engine .failure :: after → after = []) ∧
    (r.state = .failure → ∀ input, (r.step input).1.events.Sublist r.events) ∧
    (∀ before after, reported = before ++ .engine .failure :: after → after = [] ∧ r.events = []) ∧
    (∀ r', r.Moves r' →
      (r'.state = .running → r'.link = .attached opened.transport) ∧
      (r'.state = .failure → r'.link = .closed ∧ r'.outgoing = []) ∧
      (r'.state ≠ .failure → r'.attach ≠ .error .socketClosed)) ∧
    .socketFailed .socketClosed ∉ r.turn.notices := by
  intro c r reported
  have h : c.Lives opened.transport := (Dealings.Lives.fresh os settings opened).after inputs
  have h_told : Tells .connecting (reported ++ r.events) r.state := Responder.Lives.told h
  -- sockets are given up only by failing
  have h_open : ∀ {r'}, Responder.Lives opened.transport reported r' → r'.state ≠ .failure →
      r'.link ≠ .closed := by
    intro r' h' h_state
    obtain h_alive | h_alive := h'.alive h_state <;> rw [h'.link, h_alive] <;> simp [linkIn]
  refine ⟨?_, fun input => (h.advance input).2, ?_, ?_, h_told.failure_mem_iff (by simp), ?_,
    events_step_of_failure, ?_, ?_, socketClosed_not_mem_notices _ (h_open h)⟩
  · by_cases h_failed : r.state = .failure
    · exact .inr (.inr h_failed)
    · exact (Responder.Lives.alive h h_failed).imp_right .inl
  · intro event rest h_eq
    rw [h_eq] at h_told
    exact h_told.first
  · intro state before after h_eq h_mem
    have h_all : reported ++ r.events = before ++ .engine state :: (after ++ r.events) := by
      rw [h_eq, List.append_assoc, List.cons_append]
    exact h_told.once h_all (List.mem_append_left _ h_mem)
  · exact fun before after h_eq => h_told.failure_last h_eq
  · intro before after h_eq
    have h_all : reported ++ r.events = before ++ .engine .failure :: (after ++ r.events) := by
      rw [h_eq, List.append_assoc, List.cons_append]
    exact List.append_eq_nil_iff.mp (h_told.failure_last h_all)
  · intro r' h_moves
    have h' : Responder.Lives opened.transport reported r' := (Responder.Lives.moves h h_moves).1
    refine ⟨fun hs => by rw [h'.link, hs]; rfl, fun hs => ⟨?_, h'.outgoing hs⟩, ?_⟩
    · rw [h'.link, hs]
      rfl
    · intro hs h_error
      obtain ⟨errno, h_eq⟩ := attach_error (h_open h' hs) h_error
      exact absurd h_eq (by simp)

end Responder
end ServiceDiscovery
