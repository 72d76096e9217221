import ServiceDiscovery.Proofs.Sweep.History

/-!
# What a sweep lists

The directory of a sweep is determined by its history (`Sweep.Course.listings_exact`).  A sighting
is listed exactly if a resolution of it that was in flight ended with a contact that has an
identity tag, and the sighting did not vanish after that (`Sweep.Course.isSome_get?_iff`).  Where
this happened more than once, the last contact makes the whole listing
(`Sweep.Course.get?_eq_some_iff`); so the order in which resolutions of one sighting were started
does not matter, only the order in which they ended.

`Sweep.Finds` and `Sweep.Relists` say which occurrences bear on a sighting.  Everything rests on
`Sweep.get?_step`, where the directory is compared with the history before the step by way of what
is in flight.
-/

namespace ServiceDiscovery

/-- The identity tag of a contact is its attribute, unless that is empty. -/
theorem Contact.tag?_eq_some_iff {c : Contact} {tag : String} :
    c.tag? = some tag ↔ c.txt[tagAttribute]? = some tag ∧ tag ≠ "" := by
  simp [Contact.tag?, Option.filter_eq_some_iff]

namespace Sweep

/-- What a contact is listed as. -/
theorem listing?_eq_some_iff {k : Sighting} {contact : Contact} {v : Listing} :
    listing? k contact = some v ↔
      contact.tag? = some v.tag ∧ v.version = k.protocol ∧
        v.url = connectionUrl contact.address contact.port k.protocol k.interface := by
  rw [listing?, Option.map_eq_some_iff]
  constructor
  · rintro ⟨tag, ht, rfl⟩
    exact ⟨ht, rfl, rfl⟩
  · rintro ⟨ht, hv, hu⟩
    exact ⟨v.tag, ht, by rw [← hu, ← hv]⟩

/-! ### Occurrences that bear on a sighting -/

/-- A resolution of the sighting that is in flight ends with a contact that has a tag. -/
def Finds (k : Sighting) (contact : Contact) (history : List Occurrence) (o : Occurrence) : Prop :=
  contact.tag?.isSome ∧ ∃ id, o = .ended id (some contact) ∧ InFlight id k history

/-- The sighting vanishes, or a contact is found for it. -/
def Relists (k : Sighting) (history : List Occurrence) (o : Occurrence) : Prop :=
  o = .vanished k ∨ ∃ contact, Finds k contact history o

variable {σ ω : Type} [Engine σ] {world : ω → σ → σ}

/-- **The directory, step by step.** After an occurrence a sighting is listed as what was just found
for it, or as before if the occurrence does not bear on it. -/
theorem get?_step {input : Input ω} {s : Sweep} {e : σ} {k : Sighting} {v : Listing}
    {history : List Occurrence}
    (h_flight : ∀ id, s.outstanding[id]? = some k ↔ InFlight id k history) :
    (s.step world input e).1.directory.get? k = some v ↔
      (∃ contact, listing? k contact = some v ∧ Finds k contact history (occurrence input s e)) ∨
        (s.directory.get? k = some v ∧ ¬ Relists k history (occurrence input s e)) := by
  rcases step_cases world input s e with
    ⟨ho, hs⟩ | ⟨id, k', ho, hs⟩ | ⟨k', ho, hs⟩ | ⟨id, contact?, ho, hs⟩ | ⟨ho, hs⟩ |
    ⟨ho, hs | hs⟩ <;>
    rw [ho, hs]
  · simp [Relists, Finds]
  · simp [Relists, Finds]
  · -- a sighting that vanishes is struck off, and no other
    by_cases hk : k' = k <;> simp [Relists, Finds, Directory.get?_erase, hk]
  · -- what the table says of the number that ends is what the history says
    rw [get?_conclude]
    by_cases hid : s.outstanding[id]? = some k
    · have h_in := (h_flight id).mp hid
      cases contact? with
      | none => simp [Relists, Finds]
      | some contact =>
        -- what is found is listed in place of what was there; without a tag nothing is found
        cases ht : contact.tag? with
        | none => simp [Relists, Finds, hid, h_in, listing?, ht]
        | some tag => simp [Relists, Finds, hid, h_in, listing?, ht]
    · -- nobody waits for it, or it resolves another sighting
      have h_out : ¬ InFlight id k history := fun h => hid ((h_flight id).mpr h)
      simp [Relists, Finds, hid, h_out]
  · simp [Relists, Finds]
  · simp [Relists, Finds]
  · simp [Relists, Finds]

/-- A sighting is listed after an occurrence if something was just found for it, or it was listed
before and did not just vanish. -/
theorem isSome_get?_step {input : Input ω} {s : Sweep} {e : σ} {k : Sighting}
    {history : List Occurrence}
    (h_flight : ∀ id, s.outstanding[id]? = some k ↔ InFlight id k history) :
    ((s.step world input e).1.directory.get? k).isSome = true ↔
      (∃ contact, Finds k contact history (occurrence input s e)) ∨
        ((s.directory.get? k).isSome = true ∧ occurrence input s e ≠ .vanished k) := by
  simp only [Option.isSome_iff_exists, get?_step h_flight]
  constructor
  · rintro ⟨v, ⟨contact, -, h_finds⟩ | ⟨hv, h_kept⟩⟩
    · exact .inl ⟨contact, h_finds⟩
    · exact .inr ⟨⟨v, hv⟩, fun h => h_kept (.inl h)⟩
  · intro h
    by_cases h_finds : ∃ contact, Finds k contact history (occurrence input s e)
    · -- a contact with a tag has a listing
      obtain ⟨contact, h_tag, h_ended⟩ := h_finds
      obtain ⟨tag, h_tag⟩ := Option.isSome_iff_exists.mp h_tag
      exact ⟨_, .inl ⟨contact, by rw [listing?, h_tag]; rfl, by simp [h_tag], h_ended⟩⟩
    · obtain ⟨⟨v, hv⟩, h_stays⟩ := h.resolve_left h_finds
      exact ⟨v, .inr ⟨hv, fun h => h.elim h_stays h_finds⟩⟩

namespace Course

/-- What is listed is what the last contact was that was found for the sighting, if nothing has
borne on the sighting since. -/
theorem get?_eq_some_iff (e : σ) (inputs : List (Input ω)) (k : Sighting) (v : Listing) :
    ((ofEngine e).after world inputs).sweep.directory.get? k = some v ↔
      ∃ contact, listing? k contact = some v ∧
        Since (Finds k contact) (Relists k) ((ofEngine e).after world inputs).history := by
  induction inputs using List.reverseRecOn with
  | nil => simp [ofEngine, fresh, not_since_nil]
  | append_singleton inputs input ih =>
    rw [after_concat, advance,
      get?_step (fun id => outstanding_iff_inFlight e inputs id k), ih]
    -- which contact it was does not matter to what undoes it
    simp only [since_concat, and_or_left, exists_or, ← and_assoc, exists_and_right]

/-- A sighting is listed exactly if a contact was found for it and it did not vanish since. -/
theorem isSome_get?_iff (e : σ) (inputs : List (Input ω)) (k : Sighting) :
    (((ofEngine e).after world inputs).sweep.directory.get? k).isSome = true ↔
      Since (fun history o => ∃ contact, Finds k contact history o) (fun _ o => o = .vanished k)
        ((ofEngine e).after world inputs).history := by
  -- from the end of the run, as the history grows there
  induction inputs using List.reverseRecOn with
  | nil => simp [ofEngine, fresh, not_since_nil]
  | append_singleton inputs input ih =>
    rw [after_concat, advance, since_concat, ← ih,
      isSome_get?_step (fun id => outstanding_iff_inFlight e inputs id k)]

/-- Only two inputs change how a sighting is listed: that it is gone, and a contact with a tag for a
resolution of it that is in flight. -/
theorem get?_advance_eq {e : σ} {inputs : List (Input ω)} {input : Input ω} {k : Sighting}
    (h_gone : input = .handle (.vanished k) →
      ((ofEngine e).after world inputs).sweep.started = false)
    (h_found : ∀ id contact, input = .handle (.found id contact) → contact.tag?.isSome →
      ¬ InFlight id k ((ofEngine e).after world inputs).history) :
    (((ofEngine e).after world inputs).advance world input).sweep.directory.get? k =
      ((ofEngine e).after world inputs).sweep.directory.get? k := by
  have h_frame : ¬ Relists k ((ofEngine e).after world inputs).history
      (occurrence input ((ofEngine e).after world inputs).sweep
        ((ofEngine e).after world inputs).engine) := by
    -- what the input comes to neither drops `k` nor lists it
    rintro (h | ⟨contact, h_tag, id, h, h_flight⟩)
    · obtain ⟨h_input, h_started⟩ := occurrence_eq_vanished_iff.mp h
      rw [h_gone h_input] at h_started
      exact absurd h_started (by simp)
    · exact h_found id contact (occurrence_eq_ended_some_iff.mp h) h_tag h_flight
  -- so every value that is listed for it was listed before
  refine Option.ext fun v => ?_
  rw [advance, get?_step (fun id => outstanding_iff_inFlight e inputs id k)]
  constructor
  · rintro (⟨contact, -, h_finds⟩ | ⟨hv, -⟩)
    · exact absurd (.inr ⟨contact, h_finds⟩) h_frame
    · exact hv
  · exact fun hv => .inr ⟨hv, h_frame⟩

/-- **The exact directory.** Whatever the engine and the world do, after every course: the sweep
has started if the engine once began to browse, and its table of resolutions is what is in flight.
A sighting is listed exactly if a contact with a tag was found for it and it did not vanish since;
then the last such contact makes its tag, its family and its URL, and the tag is not empty.  An
input changes how a sighting is listed only if it reports to a started sweep that the sighting is
gone, or a contact with a tag for a resolution of it that is in flight.  So a refused or failed
resolution, the late end of one that is not in flight, a failure to browse and giving the sweep up
change nothing. -/
theorem listings_exact (world : ω → σ → σ) (e : σ) (inputs : List (Input ω)) :
    let c := (ofEngine e).after world inputs
    (c.sweep.started = true ↔ .began ∈ c.history) ∧
    (∀ id k, c.sweep.outstanding[id]? = some k ↔ InFlight id k c.history) ∧
    (∀ k, (c.sweep.directory.get? k).isSome = true ↔
      Since (fun history o => ∃ contact, Finds k contact history o) (fun _ o => o = .vanished k)
        c.history) ∧
    (∀ k v, c.sweep.directory.get? k = some v ↔
      ∃ contact, contact.txt[tagAttribute]? = some v.tag ∧ v.tag ≠ "" ∧ v.version = k.protocol ∧
        v.url = connectionUrl contact.address contact.port k.protocol k.interface ∧
        Since (Finds k contact) (Relists k) c.history) ∧
    (∀ k v, c.sweep.directory.get? k = some v → v.tag ≠ "") ∧
    ∀ (input : Input ω) (k : Sighting),
      (c.advance world input).sweep.directory.get? k = c.sweep.directory.get? k ∨
        (input = .handle (.vanished k) ∧ c.sweep.started = true) ∨
        ∃ id contact, input = .handle (.found id contact) ∧ contact.tag?.isSome ∧
          InFlight id k c.history := by
  intro c
  -- the listing spells out what the contact has said
  have h_value : ∀ k v, c.sweep.directory.get? k = some v ↔
      ∃ contact, contact.txt[tagAttribute]? = some v.tag ∧ v.tag ≠ "" ∧ v.version = k.protocol ∧
        v.url = connectionUrl contact.address contact.port k.protocol k.interface ∧
        Since (Finds k contact) (Relists k) c.history := by
    intro k v
    rw [get?_eq_some_iff]
    simp only [listing?_eq_some_iff, Contact.tag?_eq_some_iff, and_assoc, c]
  refine ⟨started_iff_began e inputs, outstanding_iff_inFlight e inputs, isSome_get?_iff e inputs,
    h_value, ?_, ?_⟩
  · intro k v hv
    obtain ⟨contact, -, h_tag, -⟩ := (h_value k v).mp hv
    exact h_tag
  · -- the input bears on `k`, or it leaves it alone
    intro input k
    by_cases h_bears : (input = .handle (.vanished k) ∧ c.sweep.started = true) ∨
        ∃ id contact, input = .handle (.found id contact) ∧ contact.tag?.isSome ∧
          InFlight id k c.history
    · exact .inr h_bears
    · rw [not_or] at h_bears
      refine .inl (get?_advance_eq ?_ ?_)
      · exact fun h => Bool.eq_false_iff.mpr fun hs => h_bears.1 ⟨h, hs⟩
      · exact fun id contact h h_tag h_flight => h_bears.2 ⟨id, contact, h, h_tag, h_flight⟩

end Course

end Sweep
end ServiceDiscovery
