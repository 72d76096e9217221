import ServiceDiscovery.Proofs.EventLoop.Failure
import ServiceDiscovery.Proofs.EventLoop.Waiting
import ServiceDiscovery.Proofs.Net.ConnectionUrl
import ServiceDiscovery.Proofs.Segment.Watching
import ServiceDiscovery.Proofs.Sweep.Grouping
import ServiceDiscovery.Proofs.Sweep.Listings

/-!
# Answers that are pinned

A client that asks on a scope is told URLs by family.  The family of a URL is fixed when a server is
seen; its address is found later, by another part, among addresses of both families, and the sweep
does not compare the two.  It can rely on its engine all the same, under two conditions.  An engine
that browses on a scope reports servers on single families of that scope only
(`EventLoop.Scoped`), and a contact that it finds has an address in what it was asked for
(`EventLoop.FindsWithin`).

As the sweep resolves each server on the family on which it was seen, whatever it knows is pinned
then (`Sweep.Pinned`, `EventLoop.Scoped.pinned_after`): every URL under a family leads to an address
of this family, and the scope of the query which started the sweep (`EventLoop.sweptFor?`) reaches
it. So are all answers (`EventLoop.Scoped.answersPinned`).
-/

namespace ServiceDiscovery

/-! ### URLs -/

/-- A URL that leads to a socket address of a family, however it is read. -/
def LeadsTo (f : Family) (url : String) : Prop :=
  (∃ x : SocketAddress, url = "tcp://" ++ x.text) ∧
    ∀ x : SocketAddress, url = "tcp://" ++ x.text → x.family = f

/-- The URL of a contact leads to an address of the family of the contact. -/
theorem leadsTo_connectionUrl (address : IpAddress) (port : UInt16) (protocol : IpScope)
    (interface : UInt32) :
    LeadsTo address.family (connectionUrl address port protocol interface) := by
  refine ⟨⟨_, rfl⟩, fun x h => ?_⟩
  rw [← connectionUrl_eq_iff.mp h]
  cases address <;> rfl

/-- A URL under a version is pinned by a scope if the version is a single family that the scope
reaches, and the URL leads to an address of this family. -/
def IpScope.PinsUrl (scope version : IpScope) (url : String) : Prop :=
  ∃ f : Family, version = f.scope ∧ scope.covers f = true ∧ LeadsTo f url

/-- A scope that reaches a single family, and an address in it. -/
theorem IpScope.family_of_includes {f : Family} {address : IpAddress}
    (h : f.scope.includes address.scope = true) : address.family = f := by
  have h_covers : f.scope.covers address.family = true :=
    (includes_scope f.scope address.family).symm.trans h
  revert h_covers
  cases f <;> cases address.family <;> decide

/-! ### Sweeps -/

namespace Sweep

/-- What a sweep resolves and what it lists is pinned by a scope. -/
structure Pinned (scope : IpScope) (s : Sweep) : Prop where
  outstanding : ∀ (id : Nat) k, s.outstanding[id]? = some k → scope.Pins k.protocol
  listed : ∀ k l, s.directory.get? k = some l → scope.PinsUrl l.version l.url

variable {σ : Type} [Engine σ] {scope : IpScope} {s s' : Sweep} {e : σ}

namespace Pinned

theorem fresh (scope : IpScope) : Sweep.fresh.Pinned scope where
  outstanding id k h := absurd h (by simp [Sweep.fresh])
  listed k l h := absurd h (by simp [Sweep.fresh])

theorem urls (h : s.Pinned scope) {tag : String} {version : IpScope} {url : String}
    (h_url : s.urls.url? tag version = some url) : scope.PinsUrl version url := by
  obtain ⟨k, l, h_listed, -, rfl, rfl⟩ := Directory.exists_listing h_url
  exact h.listed k l h_listed

/-- A sweep that knows less. -/
theorem of_le (h : s.Pinned scope)
    (h_outstanding : ∀ (id : Nat) k, s'.outstanding[id]? = some k → s.outstanding[id]? = some k)
    (h_listed : ∀ k l, s'.directory.get? k = some l → s.directory.get? k = some l) :
    s'.Pinned scope where
  outstanding id k ho := h.outstanding id k (h_outstanding id k ho)
  listed k l hl := h.listed k l (h_listed k l hl)

theorem giveUp (h : s.Pinned scope) (e : σ) : (s.giveUp e).1.Pinned scope := by
  unfold Sweep.giveUp
  split
  · exact h.of_le (fun _ _ ho => absurd ho (by simp)) fun _ _ hl => hl
  · exact h

/-- A contact is listed as what was resolved, and its address is in what was asked for. -/
theorem conclude (h : s.Pinned scope) (id : Nat) (contact? : Option Contact) (e : σ)
    (h_contact : ∀ c k, contact? = some c → s.outstanding[id]? = some k →
      k.protocol.includes c.address.scope = true) : (s.conclude id contact? e).1.Pinned scope where
  outstanding id' k ho := by
    -- what is outstanding was so before
    rw [getElem?_outstanding_conclude] at ho
    split at ho
    · exact absurd ho (by simp)
    · exact h.outstanding id' k ho
  listed k l hl := by
    rw [get?_conclude] at hl
    split at hl
    · next ho =>
      rcases Option.or_eq_some_iff.mp hl with h_new | ⟨-, h_old⟩
      · -- the version is the family that was asked for, and the address is of this family
        obtain ⟨c, rfl, h_listing⟩ := Option.bind_eq_some_iff.mp h_new
        obtain ⟨-, h_version, h_url⟩ := listing?_eq_some_iff.mp h_listing
        obtain ⟨f, h_family, h_covers⟩ := h.outstanding id k ho
        have h_address : c.address.family = f :=
          IpScope.family_of_includes (h_family ▸ h_contact c k rfl ho)
        refine ⟨f, h_version.trans h_family, h_covers, ?_⟩
        rw [h_url, ← h_address]
        exact leadsTo_connectionUrl ..
      · -- a listing from before stays, and is pinned as before
        exact h.listed k l h_old
    · exact h.listed k l hl

/-- **What is taken in stays pinned**, if servers appear on families of the scope, and contacts are
in what was asked for. -/
theorem handle (h : s.Pinned scope) (event : Event) (e : σ)
    (h_appeared : ∀ k, event = .appeared k → scope.Pins k.protocol)
    (h_found : ∀ (id : Nat) c k, event = .found id c → s.outstanding[id]? = some k →
      k.protocol.includes c.address.scope = true) : (s.handle event e).1.Pinned scope := by
  have h_observe : (s.observe event e).1.Pinned scope := by
    unfold observe
    split
    · -- a sweep that has not started ignores the event
      exact h
    · cases event with
      | appeared k =>
        rcases hr : Engine.resolve k k.protocol e with ⟨refusal | id, e'⟩
        · -- a refusal leaves everything as it was
          simpa only [hr] using h
        · simp only [hr]
          refine ⟨fun id' k' ho => ?_, h.listed⟩
          rw [Std.ExtTreeMap.getElem?_insert] at ho
          split at ho
          · -- what is resolved now is what appeared
            exact Option.some.inj ho ▸ h_appeared k rfl
          · exact h.outstanding id' k' ho
      | vanished k =>
        -- a listing is dropped, nothing else changes
        refine h.of_le (fun _ _ ho => ho) fun k' l hl => ?_
        rw [Directory.get?_erase] at hl
        split at hl
        · exact absurd hl (by simp)
        · exact hl
      | browseFailed reason => exact h.giveUp e
      | _ => exact h.of_le (fun _ _ ho => ho) fun _ _ hl => hl
  -- of the two events that end a resolution only `found` brings an address
  cases event with
  | found id c =>
    refine h.conclude id (some c) e fun c' k h_eq ho => ?_
    exact Option.some.inj h_eq ▸ h_found id c k rfl ho
  | unresolved id reason => exact h.conclude id none e (by simp)
  | _ => exact h_observe

end Pinned
end Sweep

namespace EventLoop

variable {σ ω : Type} [Engine σ] {world : ω → σ → σ}

/-! ### The scope of a sweep -/

/-- The scope of an input that starts the sweep. -/
def startedFor? (world : ω → σ → σ) (input : Input ω) (l : EventLoop σ) : Option IpScope :=
  match input with
  | .command _ (.query scope) =>
    if !l.sweep.started && (l.step world input).1.sweep.started then some scope else none
  | _ => none

/-- The scope of the query that starts the sweep in the course of some inputs. -/
def sweptFor? (world : ω → σ → σ) : List (Input ω) → EventLoop σ → Option IpScope
  | [], _ => none
  | input :: inputs, l =>
    (startedFor? world input l).or (sweptFor? world inputs (l.step world input).1)

theorem after_cons (world : ω → σ → σ) (input : Input ω) (inputs : List (Input ω))
    (l : EventLoop σ) :
    (l.after world (input :: inputs)).1 = ((l.step world input).1.after world inputs).1 :=
  after_append_fst world [input] inputs l

theorem sweptFor?_concat (world : ω → σ → σ) (inputs : List (Input ω)) (input : Input ω)
    (l : EventLoop σ) :
    sweptFor? world (inputs ++ [input]) l =
      (sweptFor? world inputs l).or (startedFor? world input (l.after world inputs).1) := by
  induction inputs generalizing l with
  | nil => simp [sweptFor?]
  | cons first inputs ih =>
    rw [List.cons_append, sweptFor?, ih, sweptFor?, after_cons, Option.or_assoc]

/-- Only queries start a sweep. -/
theorem started_step (input : Input ω) (l : EventLoop σ) :
    (l.step world input).1.sweep.started =
      (l.sweep.started || (startedFor? world input l).isSome) := by
  cases input with
  | command ticket command =>
    have h_sweep : (l.step world (.command ticket command : Input ω)).1.sweep =
        (l.obey ticket command).1.sweep := by
      show (l.serve ticket command).1.sweep = _
      rw [serve_fst, sweep_answerParked]
    cases command with
    | query scope =>
      cases hs : l.sweep.started with
      | true =>
        -- a sweep that has started stays so
        rw [h_sweep, Bool.true_or]
        obtain ⟨h_same, -⟩ | ⟨_, h_same, -⟩ | ⟨_, h_same, -⟩ | ⟨_, _, -, h_new, -⟩ :=
          obey_cases ticket (.query scope) l
        · rw [h_same, hs]
        · rw [h_same, hs]
        · rw [h_same, hs]
        · rw [h_new]
      | false =>
        -- before the start, the flag afterwards is what `startedFor?` reads
        unfold startedFor?
        rw [hs]
        cases (l.step world (.command ticket (.query scope) : Input ω)).1.sweep.started <;> rfl
    -- the other commands leave the sweep as it is
    | _ =>
      rw [h_sweep]
      exact (Bool.or_false _).symm
  | poll =>
    rw [show startedFor? world (.poll : Input ω) l = none from rfl, Option.isSome_none,
      Bool.or_false]
    -- an event leaves the flag as it is
    cases he : (Engine.next l.engine).event with
    | none => rw [step_poll_none world he]
    | some event => rw [step_poll_some world he, receive_fst, sweep_answerParked, started_handle]
  | outside happening => exact (Bool.or_false _).symm

theorem query_of_startedFor? {input : Input ω} {l : EventLoop σ} {scope : IpScope}
    (h : startedFor? world input l = some scope) :
    ∃ ticket, input = .command ticket (.query scope) := by
  unfold startedFor? at h
  split at h
  · -- only a query can be what starts the sweep
    next ticket scope' =>
    split at h
    · exact ⟨ticket, congrArg _ (congrArg _ (Option.some.inj h))⟩
    · cases h
  · cases h

/-- A query that starts a sweep is one that finds it not started, and for which the engine begins to
browse. -/
theorem browse_of_startedFor? {input : Input ω} {l : EventLoop σ} {scope : IpScope}
    (h : startedFor? world input l = some scope) :
    l.sweep.started = false ∧ (l.step world input).1.sweep = { l.sweep with started := true } ∧
      Engine.browse serverType scope l.engine = (.ok (), (l.step world input).1.engine) := by
  unfold startedFor? at h
  split at h
  · next ticket scope' =>
    split at h
    · next h_starts =>
      obtain rfl := Option.some.inj h
      have h_step : (l.step world (.command ticket (.query scope') : Input ω)).1 =
          (l.query ticket scope').1.answerParked.1 := rfl
      rw [h_step, sweep_answerParked, Bool.and_eq_true, Bool.not_eq_true'] at h_starts
      obtain ⟨h_before, h_after⟩ := h_starts
      -- the flag has changed, so the query did not leave the sweep as it was
      have h_kept : (l.query ticket scope').1.sweep ≠ l.sweep := fun h_same =>
        absurd (h_after.symm.trans (h_same ▸ h_before)) (by simp)
      rw [h_step, sweep_answerParked, engine_answerParked]
      -- in all other ways of a query the sweep is left as it was
      obtain ⟨-, -, hq⟩ | ⟨-, -, _, _, -, hq⟩ | ⟨-, -, engine, hb, hq⟩ | ⟨-, hq⟩ | ⟨-, hq⟩ :=
        query_cases ticket scope' l
      · exact absurd (by rw [hq]) h_kept
      · exact absurd (by rw [hq]) h_kept
      · rw [hq]
        exact ⟨h_before, rfl, hb⟩
      · exact absurd (by rw [hq]) h_kept
      · exact absurd (by rw [hq]) h_kept
    · exact absurd h (by simp)
  · exact absurd h (by simp)

/-- A sweep has started just if some query started it. -/
theorem started_after (world : ω → σ → σ) (e : σ) (inputs : List (Input ω)) :
    ((ofEngine e).after world inputs).1.sweep.started =
      (sweptFor? world inputs (ofEngine e)).isSome := by
  induction inputs using List.reverseRecOn with
  | nil => rfl
  | append_singleton inputs input ih =>
    rw [after_concat, started_step, ih, sweptFor?_concat, Option.isSome_or]

/-! ### Engines that see within a scope -/

/-- What an engine keeps whatever it is asked for, and whatever happens to it. -/
structure Maintained (world : ω → σ → σ) (P : σ → Prop) : Prop where
  publish (ad : Advertisement) {e : σ} : P e → P (Engine.publish ad e).2
  browse (scope : IpScope) {e : σ} : P e → P (Engine.browse serverType scope e).2
  resolve (k : Sighting) (q : IpScope) {e : σ} : P e → P (Engine.resolve k q e).2
  release (id : Nat) {e : σ} : P e → P (Engine.release id e)
  next {e : σ} : P e → P (Engine.next e).engine
  world (happening : ω) {e : σ} : P e → P (world happening e)

/-- A loop keeps what its engine keeps. -/
theorem Maintained.step {P : σ → Prop} (hP : Maintained world P) {l : EventLoop σ} (h : P l.engine)
    (input : Input ω) : P (l.step world input).1.engine := by
  refine step_invariant (P := fun l => P l.engine) (fun h _ h_engine => h_engine ▸ h) ?_ hP.next ?_
    (fun happening h => hP.world happening h) h input
  · intro l ticket command h
    -- what the sweep makes of the command does not matter here
    obtain ⟨-, he⟩ | ⟨ad, -, he⟩ | ⟨scope, -, he⟩ | ⟨scope, engine, hb, -, he⟩ :=
      obey_cases ticket command l <;> rw [he]
    · exact h
    · exact hP.publish ad h
    · exact hP.browse scope h
    · have h_browse := hP.browse scope h
      rw [hb] at h_browse
      exact h_browse
  · intro l event h
    -- giving up only releases, and handling also resolves
    obtain ⟨-, he⟩ | ⟨-, -, he⟩ | ⟨-, he⟩ := handle_cases event l <;> rw [he]
    · exact h
    · exact Sweep.giveUp_induction (fun _ id h => hP.release id h) h
    · exact Sweep.handle_induction (fun _ id h => hP.release id h)
        (fun _ k h => hP.resolve k k.protocol h) h event

/-- An engine that is sound reports only servers on families of the scope on which it browses, and
goes on to browse on it. -/
structure Scoped (world : ω → σ → σ) (scope? : σ → Option IpScope) (Sound : σ → Prop) : Prop where
  sound : Maintained world Sound
  scope (scope : IpScope) : Maintained world fun e => scope? e = some scope
  begins {scope : IpScope} {e e' : σ} : Sound e →
    Engine.browse serverType scope e = (.ok (), e') → scope? e' = some scope
  appeared {e : σ} {k : Sighting} : Sound e → (Engine.next e).event = some (.appeared k) →
    ∃ scope, scope? (Engine.next e).engine = some scope ∧ scope.Pins k.protocol

/-- In every run, the contacts that an engine reports are in what it was asked for. -/
def FindsWithin (world : ω → σ → σ) (e : σ) : Prop :=
  ∀ (inputs : List (Input ω)) (id : Nat) (c : Contact) (k : Sighting),
    (Engine.next ((ofEngine e).after world inputs).1.engine).event = some (.found id c) →
    ((ofEngine e).after world inputs).1.sweep.outstanding[id]? = some k →
    k.protocol.includes c.address.scope = true

variable {scope? : σ → Option IpScope} {Sound : σ → Prop} {e : σ}

theorem Scoped.sound_after (h : Scoped world scope? Sound) (he : Sound e)
    (inputs : List (Input ω)) : Sound ((ofEngine e).after world inputs).1.engine :=
  after_invariant world (P := fun l => Sound l.engine) he (fun input _ hl => h.sound.step hl input)
    inputs

/-- **What a sweep knows is pinned** by the scope of the query that started it, and on this scope
the engine browses. -/
theorem Scoped.pinned_after (h : Scoped world scope? Sound) (he : Sound e)
    (h_finds : FindsWithin world e) (inputs : List (Input ω)) {scope : IpScope}
    (h_swept : sweptFor? world inputs (ofEngine e) = some scope) :
    scope? ((ofEngine e).after world inputs).1.engine = some scope ∧
      ((ofEngine e).after world inputs).1.sweep.Pinned scope := by
  -- from the end of the run: the last input finds the sweep started, or starts it
  induction inputs using List.reverseRecOn with
  | nil => exact absurd h_swept (by simp [sweptFor?])
  | append_singleton inputs input ih =>
    have h_sound := h.sound_after he inputs
    have h_finds := h_finds inputs
    have h_fresh := freshUntilStarted_after world e inputs
    rw [after_concat]
    rw [sweptFor?_concat] at h_swept
    generalize ((ofEngine e).after world inputs).1 = l at *
    rcases Option.or_eq_some_iff.mp h_swept with h_before | ⟨-, h_now⟩
    · obtain ⟨h_scope, h_pinned⟩ := ih h_before
      refine ⟨(h.scope scope).step h_scope input, ?_⟩
      cases input with
      | command ticket command =>
        show (l.serve ticket command).1.sweep.Pinned scope
        rw [serve_fst, sweep_answerParked]
        obtain ⟨hs, -⟩ | ⟨_, hs, -⟩ | ⟨_, hs, -⟩ | ⟨_, _, -, hs, -⟩ := obey_cases ticket command l <;>
          rw [hs]
        · exact h_pinned
        · exact h_pinned
        · exact h_pinned
        · exact ⟨h_pinned.outstanding, h_pinned.listed⟩
      | poll =>
        cases h_event : (Engine.next l.engine).event with
        | none => rw [step_poll_none world h_event]; exact h_pinned
        | some event =>
          rw [step_poll_some world h_event, receive_fst, sweep_answerParked]
          obtain ⟨hs, -⟩ | ⟨-, hs, -⟩ | ⟨hs, -⟩ :=
            handle_cases event { l with engine := (Engine.next l.engine).engine } <;> rw [hs]
          · exact h_pinned
          · exact h_pinned.giveUp _
          · refine h_pinned.handle event _ (fun k hk => ?_) fun id c k hc ho => ?_
            · -- the engine browses on the scope of the sweep
              obtain ⟨scope', h_scope', h_pins⟩ := h.appeared h_sound (hk ▸ h_event)
              rw [(h.scope scope).next h_scope] at h_scope'
              exact Option.some.inj h_scope' ▸ h_pins
            · exact h_finds id c k (hc ▸ h_event) ho
      | outside happening => exact h_pinned
    · -- the sweep starts, and has found nothing before
      obtain ⟨h_idle, h_sweep, h_browse⟩ := browse_of_startedFor? h_now
      refine ⟨h.begins h_sound h_browse, ?_⟩
      rw [h_sweep, h_fresh h_idle]
      exact ⟨(Sweep.Pinned.fresh scope).outstanding, (Sweep.Pinned.fresh scope).listed⟩

/-- All URLs that were answered are pinned by the scope of the query that started the sweep. -/
def AnswersPinned (world : ω → σ → σ) (l : EventLoop σ) (inputs : List (Input ω)) : Prop :=
  ∀ ticket urls, (ticket, .urls urls) ∈ (l.after world inputs).2.replies →
    ∀ tag version url, urls.url? tag version = some url →
      ∃ scope, sweptFor? world inputs l = some scope ∧ scope.PinsUrl version url

/-- **Answers are pinned**, for every engine that sees within its scope and finds what it was asked
for. -/
theorem Scoped.answersPinned (h : Scoped world scope? Sound) (he : Sound e)
    (h_finds : FindsWithin world e) (inputs : List (Input ω)) :
    AnswersPinned world (ofEngine e) inputs := by
  induction inputs using List.reverseRecOn with
  | nil => exact fun _ _ h_mem => absurd h_mem List.not_mem_nil
  | append_singleton inputs input ih =>
    intro ticket urls h_mem tag version url h_url
    rw [after_concat, Effects.replies_append] at h_mem
    rcases List.mem_append.mp h_mem with h_old | h_new
    · -- a sweep that has started does not start again
      obtain ⟨scope, h_swept, h_pins⟩ := ih ticket urls h_old tag version url h_url
      exact ⟨scope, by rw [sweptFor?_concat, h_swept, Option.some_or], h_pins⟩
    · rcases step_replies h_new with ⟨rfl, -⟩ | ⟨rfl, h_complete⟩
      · exact absurd h_url (by simp [Urls.url?])
      · -- the sweep is complete, so it was started for some scope
        have h_started := ((Sweep.progress_eq_complete_iff _).mp h_complete).1
        have h_after : ((ofEngine e).after world (inputs ++ [input])).1 =
            (((ofEngine e).after world inputs).1.step world input).1 := by rw [after_concat]
        rw [← h_after, started_after] at h_started
        obtain ⟨scope, h_swept⟩ := Option.isSome_iff_exists.mp h_started
        obtain ⟨-, h_pinned⟩ := h.pinned_after he h_finds (inputs ++ [input]) h_swept
        exact ⟨scope, h_swept, h_pinned.urls (h_after ▸ h_url)⟩

end EventLoop
end ServiceDiscovery
