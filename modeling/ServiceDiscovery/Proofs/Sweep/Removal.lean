import ServiceDiscovery.Proofs.Sweep.Listings
import ServiceDiscovery.Segment.Member

/-!
# Sightings that are gone

When a sighting is gone it is struck off the directory, but resolutions of it that are still
outstanding are not given up.  Such a resolution is a straggler if it yields a contact with a tag
later (`Sweep.Straggler`): the contact is then listed, although the sighting is gone, and stays
listed for as long as the sighting does not vanish once more.

This is the only way in which a sighting comes to be listed again without having appeared again
(`Sweep.Course.isSome_get?_iff_straggler`).  So a sighting of which no resolution is outstanding
when it vanishes is gone for good, and so is one whose outstanding resolutions all fail, are given
up, or yield no tag.
-/

namespace ServiceDiscovery
namespace Sweep

variable {σ ω : Type} [Engine σ] {world : ω → σ → σ}

/-- Among later inputs there is a contact with a tag, for a resolution of the sighting that is
outstanding from the beginning until then. -/
def Straggler (world : ω → σ → σ) (k : Sighting) (later : List (Input ω)) (c : Course σ) : Prop :=
  ∃ id contact l r, later = l ++ .handle (.found id contact) :: r ∧ contact.tag?.isSome = true ∧
    c.sweep.outstanding[id]? = some k ∧ (c.after world l).sweep.outstanding[id]? = some k

theorem not_straggler_nil {k : Sighting} {c : Course σ} : ¬ Straggler world k [] c := by
  rintro ⟨id, contact, l, r, h, -⟩
  exact absurd h (by simp)

/-- The last input makes a straggler if it is the end of one. -/
theorem straggler_concat {k : Sighting} {later : List (Input ω)} {input : Input ω} {c : Course σ} :
    Straggler world k (later ++ [input]) c ↔
      Straggler world k later c ∨
        ∃ id contact, input = .handle (.found id contact) ∧ contact.tag?.isSome = true ∧
          c.sweep.outstanding[id]? = some k ∧
          (c.after world later).sweep.outstanding[id]? = some k := by
  -- the contact that is found late comes in the last input, or before it
  constructor
  · rintro ⟨id, contact, l, r, h, h_rest⟩
    rcases concat_eq_append_cons.mp h with ⟨rfl, rfl, -⟩ | ⟨r', -, h⟩
    · exact .inr ⟨id, contact, rfl, h_rest⟩
    · exact .inl ⟨id, contact, l, r', h, h_rest⟩
  · rintro (⟨id, contact, l, r, rfl, h_rest⟩ | ⟨id, contact, rfl, h_rest⟩)
    · exact ⟨id, contact, l, r ++ [input], by simp, h_rest⟩
    · exact ⟨id, contact, later, [], rfl, h_rest⟩

/-- Only a sighting that appears is resolved. -/
theorem eq_appeared_of_occurrence_eq_resolving {input : Input ω} {s : Sweep} {e : σ} {id : Nat}
    {k : Sighting} (h : occurrence input s e = .resolving id k) :
    input = .handle (.appeared k) := by
  unfold occurrence at h
  split at h <;> (try split at h) <;> (try split at h) <;> simp_all

namespace Course

/-- Where a sighting does not appear again, its outstanding resolutions are old ones. -/
theorem outstanding_of_after {k : Sighting} {later : List (Input ω)} {c : Course σ} {id : Nat}
    (h_later : .handle (.appeared k) ∉ later)
    (h : (c.after world later).sweep.outstanding[id]? = some k) :
    c.sweep.outstanding[id]? = some k := by
  induction later using List.reverseRecOn with
  | nil => exact h
  | append_singleton later input ih =>
    rw [after_concat, advance, outstanding_step] at h
    rcases h with h | ⟨h, -⟩
    · -- a new resolution takes an appearance
      refine absurd ?_ h_later
      rw [eq_appeared_of_occurrence_eq_resolving h]
      exact List.mem_append_right _ (List.mem_singleton_self _)
    · exact ih (fun h' => h_later (List.mem_append_left _ h')) h

/-- A started sweep strikes a sighting off when it is gone. -/
theorem get?_after_vanished {k : Sighting} {before : List (Input ω)} {c : Course σ}
    (h_started : (c.after world before).sweep.started = true) :
    (c.after world (before ++ [.handle (.vanished k)])).sweep.directory.get? k = none := by
  rw [after_concat]
  simp [advance, step, handle, observe, h_started, Directory.get?_erase]

/-- **What is gone comes back only as a straggler.** After a started sweep was told that a sighting
is gone, and as long as it is told neither that the sighting appears nor that it vanishes once
more, the sighting is listed exactly if there is a straggler among the resolutions that were
outstanding. -/
theorem isSome_get?_iff_straggler {e : σ} {before later : List (Input ω)} {k : Sighting}
    (h_started : ((ofEngine e).after world before).sweep.started = true)
    (h_appeared : .handle (.appeared k) ∉ later) (h_vanished : .handle (.vanished k) ∉ later) :
    (((ofEngine e).after world
        (before ++ [.handle (.vanished k)] ++ later)).sweep.directory.get? k).isSome = true ↔
      Straggler world k later
        ((ofEngine e).after world (before ++ [.handle (.vanished k)])) := by
  induction later using List.reverseRecOn with
  | nil =>
    rw [List.append_nil, get?_after_vanished h_started]
    simp [not_straggler_nil]
  | append_singleton later input ih =>
    rw [List.mem_append, not_or] at h_appeared h_vanished
    have h_stays : occurrence input
        ((ofEngine e).after world (before ++ [.handle (.vanished k)] ++ later)).sweep
        ((ofEngine e).after world (before ++ [.handle (.vanished k)] ++ later)).engine
          ≠ .vanished k := by
      intro h
      exact h_vanished.2 (List.mem_singleton.mpr (occurrence_eq_vanished_iff.mp h).1.symm)
    -- the last input lists the sighting if it is the end of a straggler, and never strikes it off
    rw [← List.append_assoc, after_concat, advance,
      isSome_get?_step (fun id => outstanding_iff_inFlight e _ id k), straggler_concat,
      ih h_appeared.1 h_vanished.1, and_iff_left h_stays, or_comm]
    refine or_congr_right ?_
    simp only [Finds, occurrence_eq_ended_some_iff, ← outstanding_iff_inFlight]
    rw [after_append]
    constructor
    · -- what is outstanding now was so when the sighting vanished, as it did not appear since
      rintro ⟨contact, h_tag, id, h_input, h_out⟩
      exact ⟨id, contact, h_input, h_tag, outstanding_of_after h_appeared.1 h_out, h_out⟩
    · rintro ⟨id, contact, h_input, h_tag, -, h_out⟩
      exact ⟨contact, h_tag, id, h_input, h_out⟩

end Course

/-! ### A server in the attic -/

def attic : Sighting where
  interface := 2
  protocol := .v4
  name := "SoapyRemote @ attic"
  serviceType := serverType
  domain

def atticContact : Contact where
  hostName := "attic.local"
  address := .v4 ⟨192, 168, 1, 7⟩
  port := 55132
  txt := (∅ : Attributes).insert tagAttribute "7f0c"

/-- The course of a sweep whose engine reports what it is handed. -/
def scriptedCourse (inputs : List (Input Unit)) : Course Seat :=
  (Course.ofEngine { segment := .quiet, member := .scripted }).after (fun _ seat => seat) inputs

/-! ### When a removal wins -/

/-- **When a removal wins.** After a started sweep was told that a sighting is gone, and as long as
it is told neither that the sighting appears nor that it vanishes once more, the sighting is not
listed exactly if there is no straggler.  So it is not listed if no resolution of it was
outstanding. -/
theorem removal_wins_iff (world : ω → σ → σ) (e : σ) (before later : List (Input ω)) (k : Sighting)
    (h_started : ((Course.ofEngine e).after world before).sweep.started = true)
    (h_appeared : .handle (.appeared k) ∉ later) (h_vanished : .handle (.vanished k) ∉ later) :
    let gone := (Course.ofEngine e).after world (before ++ [.handle (.vanished k)])
    ((gone.after world later).sweep.directory.get? k = none ↔ ¬ Straggler world k later gone) ∧
      ((∀ id : Nat, gone.sweep.outstanding[id]? ≠ some k) →
        (gone.after world later).sweep.directory.get? k = none) := by
  intro gone
  -- after the removal it is listed again only by a straggler
  have h_iff : (gone.after world later).sweep.directory.get? k = none ↔
      ¬ Straggler world k later gone := by
    rw [← Course.isSome_get?_iff_straggler h_started h_appeared h_vanished, Course.after_append]
    simp [gone]
  refine ⟨h_iff, fun h_none => h_iff.mpr ?_⟩
  -- a straggler ends a resolution that was under way at the removal
  rintro ⟨id, contact, l, r, -, -, h_out, -⟩
  exact h_none id h_out

/-- A removal wins over a resolution that fails after it, and over a contact that comes too late
even for that. -/
theorem removal_wins_attic :
    let before : List (Input Unit) := [.start .any, .handle (.appeared attic)]
    let later : List (Input Unit) :=
      [.handle (.unresolved 1 "timeout"), .handle (.found 1 atticContact)]
    let gone := scriptedCourse (before ++ [.handle (.vanished attic)])
    (scriptedCourse before).sweep.started = true ∧
      .handle (.appeared attic) ∉ later ∧ .handle (.vanished attic) ∉ later ∧
      ((gone.after (fun _ seat => seat) later).sweep.directory.get? attic = none ↔
        ¬ Straggler (fun _ seat => seat) attic later gone) ∧
      ((∀ id : Nat, gone.sweep.outstanding[id]? ≠ some attic) →
        (gone.after (fun _ seat => seat) later).sweep.directory.get? attic = none) :=
  ⟨rfl, by simp, by simp, removal_wins_iff _ _ _ _ _ rfl (by simp) (by simp)⟩

/-- A straggler is listed: the last report about the sighting says that it is gone, and the only
resolution of it was started before that. -/
theorem straggler_is_listed :
    let c := scriptedCourse
      [.start .any, .handle (.appeared attic), .handle (.vanished attic),
        .handle (.found 1 atticContact)]
    c.history =
        [.began, .resolving 1 attic, .vanished attic, .ended 1 (some atticContact)] ∧
      c.sweep.directory.get? attic =
        some { tag := "7f0c", version := .v4, url := "tcp://192.168.1.7:55132" } :=
  ⟨rfl, rfl⟩

end Sweep
end ServiceDiscovery
