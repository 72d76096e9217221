import ServiceDiscovery.Discovery.ConnectionUrl
import ServiceDiscovery.Discovery.Directory
import ServiceDiscovery.Discovery.Engine

/-!
# Sweeping the network for servers

A `Sweep` turns what a browsing engine reports into a directory of servers.  Every sighting is
resolved on the family it was seen on, since a server may have other addresses on the other; a
resolution that yields a contact with an identity tag becomes a listing, and every other end of a
resolution leaves the directory as it is.  Sightings that are gone are struck off.

The sweep is complete when the engine has reported all it knew and every resolution started on the
way has ended (`Sweep.progress`).  It goes on to follow the network after that, so a complete sweep
is one again whenever no resolution is outstanding.
-/

namespace ServiceDiscovery

/-- What a client has seen of the network. -/
structure Sweep where
  /-- Whether the engine browses for this sweep. -/
  started : Bool
  /-- Whether the engine has reported all it knew. -/
  surveyed : Bool
  /-- The resolutions that have not ended, and what each resolves. -/
  outstanding : Std.ExtTreeMap Nat Sighting
  directory : Directory

namespace Sweep

/-- How far a sweep is. -/
inductive Progress
  | idle
  | browsing
  | complete
deriving DecidableEq, Repr

/-- The sweep that has not started. -/
def fresh : Sweep :=
  { started := false, surveyed := false, outstanding := ∅, directory := .empty }

def progress (s : Sweep) : Progress :=
  if !s.started then .idle
  else if s.surveyed && s.outstanding.isEmpty then .complete
  else .browsing

def urls (s : Sweep) : Urls := s.directory.urls

theorem progress_eq_idle_iff (s : Sweep) : s.progress = .idle ↔ s.started = false := by
  unfold progress
  cases s.started <;> simp
  split <;> simp

theorem progress_eq_complete_iff (s : Sweep) :
    s.progress = .complete ↔ s.started = true ∧ s.surveyed = true ∧ s.outstanding = ∅ := by
  unfold progress
  cases s.started <;> cases s.surveyed <;> simp

theorem started_of_browsing {s : Sweep} (h : s.progress = .browsing) : s.started = true := by
  cases hs : s.started with
  | true => rfl
  | false => rw [(progress_eq_idle_iff s).mpr hs] at h; exact absurd h (by simp)

/-- A sweep that has started and is not complete is browsing. -/
theorem progress_eq_browsing {s : Sweep} (hs : s.started = true) (hc : s.progress ≠ .complete) :
    s.progress = .browsing := by
  cases hp : s.progress with
  | idle => rw [(progress_eq_idle_iff s).mp hp] at hs; exact absurd hs (by simp)
  | browsing => rfl
  | complete => exact absurd hp hc

/-- A sweep that is surveyed and not complete has a resolution outstanding. -/
theorem exists_outstanding {s : Sweep} (hs : s.started = true) (hn : s.surveyed = true)
    (hc : s.progress ≠ .complete) :
    ∃ (id : Nat) (sighting : Sighting), s.outstanding[id]? = some sighting := by
  refine Classical.byContradiction fun h_none => hc ?_
  refine (progress_eq_complete_iff s).mpr ⟨hs, hn, Std.ExtTreeMap.ext_getElem? fun id => ?_⟩
  rw [Std.ExtTreeMap.getElem?_empty]
  exact Option.eq_none_iff_forall_ne_some.mpr fun sighting h => h_none ⟨id, sighting, h⟩

variable {σ : Type} [Engine σ]

/-- Asks the engine to browse.  If it refuses, the sweep has not started. -/
def start (scope : IpScope) (s : Sweep) (e : σ) : Except Refusal Unit × Sweep × σ :=
  match Engine.browse serverType scope e with
  | (.ok (), e) => (.ok (), { s with started := true }, e)
  | (.error refusal, e) => (.error refusal, s, e)

/-- Ends the sweep now: all outstanding resolutions are given up, in the order of their numbers. -/
def giveUp (s : Sweep) (e : σ) : Sweep × σ :=
  if s.started then
    ({ s with outstanding := ∅, surveyed := true },
      s.outstanding.keys.foldl (fun e id => Engine.release id e) e)
  else (s, e)

/-- The listing of a contact that was resolved for a sighting, if the contact has a tag. -/
def listing? (sighting : Sighting) (contact : Contact) : Option Listing :=
  contact.tag?.map fun tag =>
    { tag, version := sighting.protocol
      url := connectionUrl contact.address contact.port sighting.protocol sighting.interface }

/-- Lists a contact that was resolved for a sighting, if it has a tag. -/
def list (sighting : Sighting) (contact : Contact) (s : Sweep) : Sweep :=
  match listing? sighting contact with
  | some listing => { s with directory := s.directory.insert sighting listing }
  | none => s

/-- Takes in an event about what is browsed for; before the sweep has started there is nothing
to take in. -/
def observe (event : Event) (s : Sweep) (e : σ) : Sweep × σ × List Notice :=
  if !s.started then (s, e, [])
  else
    match event with
    | .appeared sighting =>
      -- resolved on the family it was seen on, not on the scope of the sweep
      match Engine.resolve sighting sighting.protocol e with
      | (.ok id, e) => ({ s with outstanding := s.outstanding.insert id sighting }, e, [])
      | (.error refusal, e) => (s, e, [.unresolvable sighting refusal])
    | .vanished sighting => ({ s with directory := s.directory.erase sighting }, e, [])
    | .cacheExhausted | .allForNow => ({ s with surveyed := true }, e, [])
    | .browseFailed reason =>
      let (s, e) := s.giveUp e
      (s, e, [.browsingFailed reason])
    | _ => (s, e, [])

/-- Ends a resolution, with the contact it yields if it succeeded.  Numbers that are not
outstanding are ignored. -/
def conclude (id : Nat) (contact? : Option Contact) (s : Sweep) (e : σ) : Sweep × σ :=
  match s.outstanding[id]? with
  | none => (s, e)
  | some sighting =>
    -- the number is released even if the resolution yields nothing
    let s := { s with outstanding := s.outstanding.erase id }
    let e := Engine.release id e
    match contact? with
    | some contact => (s.list sighting contact, e)
    | none => (s, e)

/-- Takes in an event about browsing or about a resolution; other events do not concern it. -/
def handle (event : Event) (s : Sweep) (e : σ) : Sweep × σ × List Notice :=
  match event with
  | .found id contact =>
    let (s, e) := s.conclude id (some contact) e
    (s, e, [])
  | .unresolved id _ =>
    let (s, e) := s.conclude id none e
    (s, e, [])
  | event => s.observe event e

/-! ### Once started, always started -/

@[simp] theorem started_list (sighting : Sighting) (contact : Contact) (s : Sweep) :
    (s.list sighting contact).started = s.started := by
  unfold list; split <;> rfl

@[simp] theorem started_giveUp (s : Sweep) (e : σ) : (s.giveUp e).1.started = s.started := by
  unfold giveUp; split <;> rfl

@[simp] theorem started_conclude (id : Nat) (contact? : Option Contact) (s : Sweep) (e : σ) :
    (s.conclude id contact? e).1.started = s.started := by
  unfold conclude
  cases s.outstanding[id]? with
  | none => rfl
  | some sighting => cases contact? <;> simp

@[simp] theorem started_observe (event : Event) (s : Sweep) (e : σ) :
    (s.observe event e).1.started = s.started := by
  unfold observe
  split
  · rfl
  · split <;> try rfl
    · split <;> rfl
    · simp

@[simp] theorem started_handle (event : Event) (s : Sweep) (e : σ) :
    (s.handle event e).1.started = s.started := by
  cases event <;> simp [handle]

/-! ### What a sweep does to its engine -/

section Engine

variable {P : σ → Prop} {s : Sweep} {e : σ}

/-- Giving up releases one resolution after the other. -/
theorem giveUp_induction (h_release : ∀ e id, P e → P (Engine.release id e)) (h : P e) :
    P (s.giveUp e).2 := by
  have h_all : ∀ (ids : List Nat) (e : σ), P e →
      P (ids.foldl (fun e id => Engine.release id e) e) := by
    intro ids
    induction ids with
    | nil => exact fun _ h => h
    | cons id ids ih => exact fun e h => ih _ (h_release e id h)
  unfold giveUp
  split
  · exact h_all _ e h
  · exact h

/-- Ending a resolution releases it, if it is outstanding. -/
theorem conclude_induction (h_release : ∀ e id, P e → P (Engine.release id e)) (h : P e) (id : Nat)
    (contact? : Option Contact) : P (s.conclude id contact? e).2 := by
  unfold conclude
  split
  · exact h
  · cases contact? with
    | none => exact h_release e id h
    | some contact => exact h_release e id h

/-- An event makes a sweep resolve who appeared, and release resolutions; there is nothing else that
it does to its engine. -/
theorem handle_induction (h_release : ∀ e id, P e → P (Engine.release id e))
    (h_resolve : ∀ e k, P e → P (Engine.resolve k k.protocol e).2) (h : P e) (event : Event) :
    P (s.handle event e).2.1 := by
  have h_observe : P (s.observe event e).2.1 := by
    unfold observe
    split
    · exact h
    · cases event with
      | appeared k =>
        have h_resolved := h_resolve e k h
        rcases hr : Engine.resolve k k.protocol e with ⟨refusal | id, e'⟩
        · simpa only [hr] using h_resolved
        · simpa only [hr] using h_resolved
      | browseFailed reason => exact giveUp_induction h_release h
      | _ => exact h
  cases event with
  | found id contact => exact conclude_induction h_release h id (some contact)
  | unresolved id reason => exact conclude_induction h_release h id none
  | _ => exact h_observe

end Engine

theorem directory_giveUp (s : Sweep) (e : σ) : (s.giveUp e).1.directory = s.directory := by
  unfold giveUp
  split <;> rfl

/-! ### What the end of a resolution changes -/

@[simp] theorem outstanding_list (sighting : Sighting) (contact : Contact) (s : Sweep) :
    (s.list sighting contact).outstanding = s.outstanding := by
  unfold list; split <;> rfl

theorem get?_list (sighting k : Sighting) (contact : Contact) (s : Sweep) :
    (s.list sighting contact).directory.get? k =
      if sighting = k then (listing? k contact).or (s.directory.get? k)
      else s.directory.get? k := by
  unfold list
  split <;> rename_i h
  · rw [Directory.get?_insert]
    split
    · next hk => rw [← hk, h]; rfl
    · rfl
  · split
    · next hk => rw [← hk, h]; rfl
    · rfl

theorem conclude_of_none {id : Nat} {s : Sweep} (contact? : Option Contact) (e : σ)
    (h : s.outstanding[id]? = none) : s.conclude id contact? e = (s, e) := by
  unfold conclude
  rw [h]

/-- An outstanding resolution is released when it ends. -/
theorem engine_conclude {id : Nat} {sighting : Sighting} {s : Sweep} (contact? : Option Contact)
    (e : σ) (h : s.outstanding[id]? = some sighting) :
    (s.conclude id contact? e).2 = Engine.release id e := by
  unfold conclude
  rw [h]
  cases contact? <;> rfl

@[simp] theorem surveyed_list (sighting : Sighting) (contact : Contact) (s : Sweep) :
    (s.list sighting contact).surveyed = s.surveyed := by
  unfold list; split <;> rfl

@[simp] theorem surveyed_conclude (id : Nat) (contact? : Option Contact) (s : Sweep) (e : σ) :
    (s.conclude id contact? e).1.surveyed = s.surveyed := by
  unfold conclude
  cases s.outstanding[id]? with
  | none => rfl
  | some sighting => cases contact? <;> simp

/-- Its number is free, and no other is. -/
theorem getElem?_outstanding_conclude (id id' : Nat) (contact? : Option Contact) (s : Sweep)
    (e : σ) :
    (s.conclude id contact? e).1.outstanding[id']? =
      if id = id' then none else s.outstanding[id']? := by
  unfold conclude
  split
  · next h =>
    split
    · next hid => rw [← hid]; exact h
    · rfl
  · cases contact? <;> simp [Std.ExtTreeMap.getElem?_erase]

/-- What it resolved may be listed anew, and nothing else changes in the directory. -/
theorem get?_conclude (id : Nat) (contact? : Option Contact) (k : Sighting) (s : Sweep) (e : σ) :
    (s.conclude id contact? e).1.directory.get? k =
      if s.outstanding[id]? = some k then
        (contact?.bind (listing? k)).or (s.directory.get? k)
      else s.directory.get? k := by
  unfold conclude
  cases h : s.outstanding[id]? with
  | none => simp
  | some sighting =>
    cases contact? with
    | none => simp
    | some contact => simp [get?_list]

end Sweep

end ServiceDiscovery
