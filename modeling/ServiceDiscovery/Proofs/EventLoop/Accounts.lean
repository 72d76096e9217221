import Mathlib.Data.List.Nodup
import ServiceDiscovery.Proofs.EventLoop.Queries
import ServiceDiscovery.Proofs.EventLoop.Translation
import ServiceDiscovery.Proofs.Sweep.Removal
import ServiceDiscovery.Segment.Member

/-!
# The account of resolutions

An event loop starts resolutions and has to release every one of them: when it ends, when browsing
fails, or when the engine fails.  Events about a resolution may still come after that.

To speak of all the resolutions of a run, the engine is put behind a clerk, who passes on every
request and keeps an account of the numbers that were accepted and of those that were released
(`Noted`).  The loop over the clerk is the loop over the engine, as it forgets the account
(`EventLoop.after_forget`).

The account balances (`Sweep.Balances`): what was accepted is what was released and what is
outstanding, and nothing is released twice or released and outstanding.  Each of the three ways in
which numbers move keeps the balance, provided that a number is not accepted twice: a resolution is
accepted (`Sweep.Balances.accept`), one ends (`Sweep.Balances.conclude`), or all are given up
(`Sweep.Balances.giveUp`).
-/

namespace ServiceDiscovery

/-! ### An engine with an account -/

/-- An engine, with an account of its resolutions. -/
structure Noted (σ : Type) where
  engine : σ
  /-- The numbers of the resolutions that the engine accepted, in order. -/
  accepted : List Nat
  /-- The numbers that were released, in order. -/
  released : List Nat

namespace Noted

variable {σ ω : Type} [Engine σ]

/-- The engine at the beginning of the account. -/
def opened (engine : σ) : Noted σ := { engine, accepted := [], released := [] }

/-- Starts a resolution, and notes its number if it is accepted. -/
def resolve (sighting : Sighting) (protocol : IpScope) (n : Noted σ) :
    Except Refusal Nat × Noted σ :=
  match Engine.resolve sighting protocol n.engine with
  | (.ok id, engine) => (.ok id, { n with engine, accepted := n.accepted ++ [id] })
  | (.error refusal, engine) => (.error refusal, { n with engine })

/-- Requests reach the engine, and what concerns resolutions is noted. -/
instance : Engine (Noted σ) where
  state n := Engine.state n.engine
  info n := Engine.info n.engine
  publish advertisement n :=
    let (result, engine) := Engine.publish advertisement n.engine
    (result, { n with engine })
  browse serviceType scope n :=
    let (result, engine) := Engine.browse serviceType scope n.engine
    (result, { n with engine })
  resolve
  release id n :=
    { n with engine := Engine.release id n.engine, released := n.released ++ [id] }
  next n :=
    let turn := Engine.next n.engine
    { event := turn.event, notices := turn.notices, engine := { n with engine := turn.engine } }
  backlog n := Engine.backlog n.engine
  close n := { n with engine := Engine.close n.engine }

omit [Engine σ] in
/-- What happens outside reaches the engine, and is not noted. -/
def behind (world : ω → σ → σ) (happening : ω) (n : Noted σ) : Noted σ :=
  { n with engine := world happening n.engine }

/-- A resolution is refused, or its number is noted. -/
theorem resolve_cases (sighting : Sighting) (protocol : IpScope) (n : Noted σ) :
    (∃ refusal engine, Engine.resolve sighting protocol n.engine = (.error refusal, engine) ∧
      Engine.resolve sighting protocol n = (.error refusal, { n with engine })) ∨
    ∃ id engine, Engine.resolve sighting protocol n.engine = (.ok id, engine) ∧
      Engine.resolve sighting protocol n =
        (.ok id, { n with engine, accepted := n.accepted ++ [id] }) := by
  -- the engine within decides, and the number is noted
  have h_eq : Engine.resolve sighting protocol n = n.resolve sighting protocol := rfl
  rw [h_eq, resolve]
  rcases Engine.resolve sighting protocol n.engine with ⟨refusal | id, engine⟩
  · exact .inl ⟨refusal, engine, rfl, rfl⟩
  · exact .inr ⟨id, engine, rfl, rfl⟩

/-- Several releases are noted in order. -/
theorem foldl_release (ids : List Nat) (n : Noted σ) :
    ids.foldl (fun n id => Engine.release id n) n =
      { n with
        engine := ids.foldl (fun e id => Engine.release id e) n.engine
        released := n.released ++ ids } := by
  induction ids generalizing n with
  | nil => rw [List.append_nil]; rfl
  | cons id ids ih =>
    rw [List.foldl_cons, ih]
    show Noted.mk _ _ (n.released ++ [id] ++ ids) = Noted.mk _ _ (n.released ++ id :: ids)
    rw [List.append_assoc]
    rfl

end Noted

/-! ### Forgetting the account -/

/-- An account does not change the answers of an engine. -/
theorem Noted.translates {σ : Type} [Engine σ] : Engine.Translates (engine : Noted σ → σ) where
  state _ := rfl
  info _ := rfl
  publish _ _ := rfl
  browse _ _ _ := rfl
  -- the only command whose outcome decides what is noted
  resolve k q n := by
    obtain ⟨refusal, engine, h, h'⟩ | ⟨id, engine, h, h'⟩ := n.resolve_cases k q <;> rw [h, h']
  release _ _ := rfl
  next _ := rfl

namespace EventLoop

variable {σ ω : Type}

/-- The loop over the engine itself. -/
def forget (l : EventLoop (Noted σ)) : EventLoop σ :=
  { engine := l.engine.engine, sweep := l.sweep, parked := l.parked }

/-- **The account changes nothing.** The loop over an engine with an account goes the way of the
loop over the engine, and shows the same. -/
theorem after_forget [Engine σ] (world : ω → σ → σ) (inputs : List (Input ω))
    (l : EventLoop (Noted σ)) :
    l.forget.after world inputs =
      ((l.after (Noted.behind world) inputs).1.forget,
        (l.after (Noted.behind world) inputs).2) :=
  after_map Noted.translates (fun _ _ => rfl) inputs l

end EventLoop

/-! ### The balance -/

namespace Sweep

variable {σ : Type}

/-- The account of the resolutions of a sweep balances. -/
structure Balances (s : Sweep) (n : Noted σ) : Prop where
  /-- Nothing is released twice. -/
  distinct : n.released.Nodup
  /-- What is released is not outstanding. -/
  apart : ∀ id ∈ n.released, id ∉ s.outstanding
  /-- What was accepted is released or outstanding, and nothing else is. -/
  accounted : ∀ id, id ∈ n.accepted ↔ id ∈ n.released ∨ id ∈ s.outstanding

namespace Balances

variable {s s' : Sweep} {n n' : Noted σ}

/-- Only the numbers that are outstanding and the account itself matter. -/
theorem of_eq (h : s.Balances n) (h_outstanding : s'.outstanding = s.outstanding)
    (h_accepted : n'.accepted = n.accepted) (h_released : n'.released = n.released) :
    s'.Balances n' where
  distinct := h_released ▸ h.distinct
  apart := by rw [h_released, h_outstanding]; exact h.apart
  accounted := by rw [h_accepted, h_released, h_outstanding]; exact h.accounted

/-- A number that was not accepted before becomes outstanding. -/
theorem accept (h : s.Balances n) {id : Nat} (h_new : id ∉ n.accepted) (sighting : Sighting)
    (engine : σ) :
    ({ s with outstanding := s.outstanding.insert id sighting } : Sweep).Balances
      { n with engine, accepted := n.accepted ++ [id] } where
  distinct := h.distinct
  apart id' h_released := by
    rw [Std.ExtTreeMap.mem_insert, Std.LawfulEqOrd.compare_eq_iff_eq]
    -- the number that is accepted now was not released before
    rintro (rfl | h_outstanding)
    · exact h_new ((h.accounted id).mpr (.inl h_released))
    · exact h.apart id' h_released h_outstanding
  accounted id' := by
    rw [List.mem_append, List.mem_singleton, h.accounted, Std.ExtTreeMap.mem_insert,
      Std.LawfulEqOrd.compare_eq_iff_eq]
    tauto

variable [Engine σ]

/-- Everything that is outstanding is released, each number once. -/
theorem giveUp (h : s.Balances n) : (s.giveUp n).1.Balances (s.giveUp n).2 := by
  unfold Sweep.giveUp
  split
  · -- what was outstanding is released in one go
    rw [Noted.foldl_release]
    constructor
    · refine List.Nodup.append h.distinct Std.ExtTreeMap.nodup_keys ?_
      intro id h_released h_key
      exact h.apart id h_released (Std.ExtTreeMap.mem_keys.mp h_key)
    · exact fun id _ => Std.ExtTreeMap.not_mem_empty
    · intro id
      show id ∈ n.accepted ↔ id ∈ n.released ++ s.outstanding.keys ∨ id ∈ _
      rw [List.mem_append, Std.ExtTreeMap.mem_keys, h.accounted]
      exact (or_iff_left Std.ExtTreeMap.not_mem_empty).symm
  · exact h

/-- A resolution that ends is released, if it is outstanding. -/
theorem conclude (h : s.Balances n) (id : Nat) (contact? : Option Contact) :
    (s.conclude id contact? n).1.Balances (s.conclude id contact? n).2 := by
  cases h_get : s.outstanding[id]? with
  -- the number is not outstanding, so the end of it is ignored
  | none => rw [conclude_of_none contact? n h_get]; exact h
  | some sighting =>
    have h_mem : id ∈ s.outstanding := by
      rw [Std.ExtTreeMap.mem_iff_isSome_getElem?, h_get]
      rfl
    -- the number moves from the one side to the other
    have h_left : ∀ id', id' ∈ (s.conclude id contact? n).1.outstanding ↔
        id ≠ id' ∧ id' ∈ s.outstanding := by
      intro id'
      rw [Std.ExtTreeMap.mem_iff_isSome_getElem?, getElem?_outstanding_conclude,
        Std.ExtTreeMap.mem_iff_isSome_getElem?]
      split
      · next h_eq => exact ⟨fun h => absurd h Bool.false_ne_true, fun h => absurd h_eq h.1⟩
      · next h_ne => exact (and_iff_right h_ne).symm
    rw [engine_conclude contact? n h_get]
    constructor
    · -- what is outstanding has not been released
      show (n.released ++ [id]).Nodup
      refine List.Nodup.append h.distinct (List.nodup_singleton id) ?_
      exact List.disjoint_singleton.mpr fun h_released => h.apart id h_released h_mem
    · -- what was released before was not outstanding either
      intro id' h_released
      rw [h_left]
      rcases List.mem_append.mp h_released with h_released | h_last
      · exact fun h' => h.apart id' h_released h'.2
      · exact fun h' => h'.1 (List.mem_singleton.mp h_last).symm
    · intro id'
      show id' ∈ n.accepted ↔ id' ∈ n.released ++ [id] ∨ _
      rw [List.mem_append, List.mem_singleton, h_left, h.accounted]
      -- for the number itself: it was accepted, since it was outstanding
      by_cases h_eq : id' = id
      · subst h_eq; tauto
      · have h_ne := Ne.symm h_eq; tauto

end Balances

end Sweep

/-! ### What the loop does to the account -/

namespace Sweep

variable {σ : Type} [Engine σ] {s : Sweep} {n : Noted σ}

/-- The account balances unless a number was accepted twice. -/
def Accounts (s : Sweep) (n : Noted σ) : Prop := n.accepted.Nodup → s.Balances n

omit [Engine σ] in
/-- Requests that do not concern resolutions leave the account as it is. -/
theorem Accounts.of_eq (h : s.Accounts n) {s' : Sweep} {n' : Noted σ}
    (h_outstanding : s'.outstanding = s.outstanding) (h_accepted : n'.accepted = n.accepted)
    (h_released : n'.released = n.released) : s'.Accounts n' :=
  fun h_fresh => (h (h_accepted ▸ h_fresh)).of_eq h_outstanding h_accepted h_released

theorem accepted_giveUp (s : Sweep) (n : Noted σ) : (s.giveUp n).2.accepted = n.accepted := by
  unfold giveUp
  split
  · rw [Noted.foldl_release]
  · rfl

theorem accepted_conclude (id : Nat) (contact? : Option Contact) (s : Sweep) (n : Noted σ) :
    (s.conclude id contact? n).2.accepted = n.accepted := by
  cases h_get : s.outstanding[id]? with
  | none => rw [conclude_of_none contact? n h_get]
  | some sighting => rw [engine_conclude contact? n h_get]; rfl

theorem Accounts.giveUp (h : s.Accounts n) : (s.giveUp n).1.Accounts (s.giveUp n).2 := by
  intro h_fresh
  rw [accepted_giveUp] at h_fresh
  exact (h h_fresh).giveUp

theorem Accounts.conclude (h : s.Accounts n) (id : Nat) (contact? : Option Contact) :
    (s.conclude id contact? n).1.Accounts (s.conclude id contact? n).2 := by
  intro h_fresh
  rw [accepted_conclude] at h_fresh
  exact (h h_fresh).conclude id contact?

/-- What is seen of the network may start a resolution, or end them all. -/
theorem Accounts.observe (h : s.Accounts n) (event : Event) :
    (s.observe event n).1.Accounts (s.observe event n).2.1 := by
  unfold Sweep.observe
  -- a sweep that has not started ignores the event
  split
  · exact h
  · cases event with
    | appeared sighting =>
      -- a refusal is not noted, an acceptance is
      obtain ⟨refusal, engine, -, h_refused⟩ | ⟨id, engine, -, h_accepted⟩ :=
        n.resolve_cases sighting sighting.protocol
      · simp only [h_refused]
        exact h.of_eq rfl rfl rfl
      · simp only [h_accepted]
        intro h_fresh
        -- the number is new because the accepted ones are still distinct with it
        have h_apart := List.disjoint_of_nodup_append h_fresh
        exact (h h_fresh.of_append_left).accept
          (fun h_mem => h_apart h_mem (List.mem_singleton_self id)) sighting engine
    | browseFailed reason => exact h.giveUp
    | vanished sighting => exact h.of_eq rfl rfl rfl
    | cacheExhausted => exact h.of_eq rfl rfl rfl
    | allForNow => exact h.of_eq rfl rfl rfl
    | _ => exact h

theorem Accounts.handle (h : s.Accounts n) (event : Event) :
    (s.handle event n).1.Accounts (s.handle event n).2.1 := by
  cases event with
  | found id contact => exact h.conclude id (some contact)
  | unresolved id reason => exact h.conclude id none
  | _ => exact h.observe _

end Sweep

namespace EventLoop

variable {σ ω : Type} [Engine σ] {l : EventLoop (Noted σ)}

theorem accounts_handle (event : Event) (h : l.sweep.Accounts l.engine) :
    (l.handle event).1.sweep.Accounts (l.handle event).1.engine := by
  unfold handle
  -- of the events for the loop itself only a failure gives up
  split
  · exact h.giveUp
  · exact h
  · exact h
  · exact h
  · exact h
  · exact h
  · exact h.handle event

/-- No command concerns resolutions. -/
theorem accounts_obey (ticket : Nat) (command : Command) (h : l.sweep.Accounts l.engine) :
    (l.obey ticket command).1.sweep.Accounts (l.obey ticket command).1.engine := by
  obtain ⟨hs, he⟩ | ⟨ad, hs, he⟩ | ⟨scope, hs, he⟩ | ⟨scope, n, hb, hs, he⟩ :=
    obey_cases ticket command l <;> rw [hs, he]
  · exact h
  · exact h.of_eq rfl rfl rfl
  · exact h.of_eq rfl rfl rfl
  · -- the sweep starts with the seat that the browse left, and a browse notes nothing
    have h_browse : Engine.browse serverType scope l.engine =
        ((Engine.browse serverType scope l.engine.engine).1,
          { l.engine with engine := (Engine.browse serverType scope l.engine.engine).2 }) := rfl
    rw [hb] at h_browse
    obtain ⟨-, rfl⟩ := Prod.ext_iff.mp h_browse
    exact h.of_eq rfl rfl rfl

/-- **Invariant preservation.** Every input keeps the account in balance. -/
theorem accounts_step (world : ω → σ → σ) (input : Input ω) (l : EventLoop (Noted σ))
    (h : l.sweep.Accounts l.engine) :
    (l.step (Noted.behind world) input).1.sweep.Accounts
      (l.step (Noted.behind world) input).1.engine := by
  cases input with
  | command ticket command =>
    show (l.serve ticket command).1.sweep.Accounts (l.serve ticket command).1.engine
    rw [serve_fst, sweep_answerParked, engine_answerParked]
    exact accounts_obey ticket command h
  | poll =>
    -- being asked for an event concerns no resolution
    have h_next : l.sweep.Accounts (Engine.next l.engine).engine := h.of_eq rfl rfl rfl
    cases h_event : (Engine.next l.engine).event with
    | none => rw [step_poll_none _ h_event]; exact h_next
    | some event =>
      rw [step_poll_some _ h_event, receive_fst, sweep_answerParked, engine_answerParked]
      exact accounts_handle (l := { l with engine := (Engine.next l.engine).engine }) event h_next
  | outside happening => exact h.of_eq rfl rfl rfl

/-- An event about a resolution that is not outstanding is ignored. -/
theorem receive_of_not_outstanding {σ : Type} [Engine σ] {l : EventLoop σ} {event : Event}
    {id : Nat} (h_parked : l.ParkedWhileBrowsing) (h_event : event.resolution? = some id)
    (h_id : id ∉ l.sweep.outstanding) : l.receive event = (l, {}) := by
  -- the number is not outstanding, so the event ends nothing
  have h_get : l.sweep.outstanding[id]? = none := Std.ExtTreeMap.getElem?_eq_none h_id
  have h_handle : l.handle event = (l, []) := by
    cases event with
    | found id' contact =>
      obtain rfl : id' = id := Option.some.inj h_event
      simp only [EventLoop.handle, Sweep.handle, Sweep.conclude_of_none _ _ h_get]
    | unresolved id' reason =>
      obtain rfl : id' = id := Option.some.inj h_event
      simp only [EventLoop.handle, Sweep.handle, Sweep.conclude_of_none _ _ h_get]
    | _ => exact absurd h_event (by simp [Event.resolution?])
  have h_answer : l.answerParked = (l, {}) := by
    unfold answerParked
    split
    · next h_complete =>
      -- nobody waits for a sweep that is complete already
      have h_nobody := h_parked.parked_eq_nil (by rw [h_complete]; decide)
      rw [h_nobody]
      cases l
      subst h_nobody
      rfl
    · rfl
  simp only [receive, h_handle, h_answer]
  rfl

/-- **The account balances.** Whatever the engine reports, in whatever world: keeping an account
does not change what the loop does.  After every run in which no number was accepted twice, the
numbers that were released are distinct and none of them is outstanding, and together with those
that are outstanding they are the numbers that were accepted.  An event about a resolution that is
not outstanding changes nothing: nothing is released, nobody is answered and nothing is noted. -/
theorem accounts_balance (world : ω → σ → σ) (e : σ) (inputs : List (Input ω))
    (h_fresh :
      ((ofEngine (Noted.opened e)).after (Noted.behind world) inputs).1.engine.accepted.Nodup) :
    let l := ((ofEngine (Noted.opened e)).after (Noted.behind world) inputs).1
    l.forget = ((ofEngine e).after world inputs).1 ∧
    l.engine.released.Nodup ∧
    (∀ id ∈ l.engine.released, id ∉ l.sweep.outstanding) ∧
    (∀ id, id ∈ l.engine.accepted ↔ id ∈ l.engine.released ∨ id ∈ l.sweep.outstanding) ∧
    ∀ event id, event.resolution? = some id → id ∉ l.sweep.outstanding →
      l.receive event = (l, {}) := by
  intro l
  -- the accounts are kept along the run, and the numbers are distinct as asked
  have h_accounts : l.sweep.Accounts l.engine := by
    refine after_invariant (P := fun l => l.sweep.Accounts l.engine) _ ?_
      (accounts_step world) inputs
    intro _
    -- at first nothing has been accepted
    refine ⟨List.nodup_nil, fun id h => absurd h List.not_mem_nil, fun id => ?_⟩
    show id ∈ [] ↔ id ∈ [] ∨ id ∈ (∅ : Std.ExtTreeMap Nat Sighting)
    exact (or_iff_left Std.ExtTreeMap.not_mem_empty).symm
  have h_balances : l.sweep.Balances l.engine := h_accounts h_fresh
  refine ⟨?_, h_balances.distinct, h_balances.apart, h_balances.accounted, fun event id => ?_⟩
  · show _ = ((ofEngine (Noted.opened e)).forget.after world inputs).1
    rw [after_forget]
  · exact receive_of_not_outstanding (parkedWhileBrowsing_after _ _ inputs)

/-- An event comes up at a member that reports what it is handed. -/
def handed (event : Event) (seat : Seat) : Seat := { seat with member := seat.member.hand event }

/-- A server is resolved twice.  One resolution succeeds, and the other is given up as browsing
fails; then both report success, and so does one that was never started.  The server is resolved
once more after that. -/
def atticInputs : List (Input Event) :=
  .command 0 (.query .any) :: [.appeared Sweep.attic, .appeared Sweep.attic,
    .found 1 Sweep.atticContact, .browseFailed "timeout", .found 2 Sweep.atticContact,
    .found 1 Sweep.atticContact, .found 9 Sweep.atticContact, .appeared Sweep.attic].flatMap
      fun event => [.outside event, .poll]

/-- The account of this run balances: the last resolution is outstanding, and the others were
released once. -/
theorem accounts_balance_attic :
    let l := ((ofEngine (Noted.opened { segment := .quiet, member := .scripted : Seat })).after
      (Noted.behind handed) atticInputs).1
    l.engine.accepted = [1, 2, 3] ∧ l.engine.released = [1, 2] ∧ l.engine.accepted.Nodup ∧
      ∀ id, id ∈ l.engine.accepted ↔ id ∈ l.engine.released ∨ id ∈ l.sweep.outstanding :=
  ⟨by decide +kernel, by decide +kernel, by decide +kernel,
    (accounts_balance handed _ atticInputs (by decide +kernel)).2.2.2.1⟩

end EventLoop
end ServiceDiscovery
