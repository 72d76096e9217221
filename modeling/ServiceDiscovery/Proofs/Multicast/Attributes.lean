import ServiceDiscovery.Discovery.Sweep
import ServiceDiscovery.Proofs.Multicast.Hearing
import ServiceDiscovery.Proofs.Multicast.Services
import ServiceDiscovery.Proofs.Since

/-!
# What is known of the attributes of a service

A word about attributes counts only while the service is registered (`PeerTable.Registered`), and
only until the service ends.  So what is known of the attributes is what the last such word has said
(`PeerTable.Tells`).  If there was none, the service is not described (`PeerTable.Described`); its
attributes are then taken to be empty, and not to be missing.

Whether an instance can be reached does not depend on its attributes
(`PeerTable.reached_without_attributes`).  One that is announced in several packets is resolved
without any when the packet that has them is the last to come.  This does not happen where every
response that says where an instance runs says its attributes, too (`PeerTable.Together`).
-/

namespace ServiceDiscovery
namespace PeerTable

open Dns (Name Record)

/-! ### What is known -/

/-- The service is registered: it was said where it runs, and not that it has ended since. -/
def Registered (said : List Word) : Prop :=
  Since (fun _ w => ∃ port host, w = .runs port host) (fun _ w => w = .ends) said

/-- The last that was said of where the service runs. -/
def RunsAt (port : UInt16) (host : Name) (said : List Word) : Prop :=
  Since (fun _ w => w = .runs port host) (fun _ w => w = .ends ∨ ∃ port host, w = .runs port host)
    said

/-- The attributes of the service were said since it was registered. -/
def Described (said : List Word) : Prop :=
  Since (fun before w => Registered before ∧ ∃ txt, w = .tells txt) (fun _ w => w = .ends) said

/-- The last that was said of the attributes since the service was registered. -/
def Tells (txt : Attributes) (said : List Word) : Prop :=
  Since (fun before w => Registered before ∧ w = .tells txt)
    (fun _ w => w = .ends ∨ ∃ txt, w = .tells txt) said

theorem registered_concat (said : List Word) (w : Word) :
    Registered (said ++ [w]) ↔
      (∃ port host, w = .runs port host) ∨ Registered said ∧ w ≠ .ends :=
  since_concat

theorem described_concat (said : List Word) (w : Word) :
    Described (said ++ [w]) ↔
      (Registered said ∧ ∃ txt, w = .tells txt) ∨ Described said ∧ w ≠ .ends :=
  since_concat

/-- A service that is described is registered. -/
theorem Described.registered {said : List Word} (h : Described said) : Registered said := by
  induction said using List.reverseRecOn with
  | nil => exact absurd h not_since_nil
  | append_singleton said w ih =>
    rw [registered_concat]
    rcases (described_concat said w).mp h with ⟨h_registered, txt, rfl⟩ | ⟨h_described, h_w⟩
    · exact .inr ⟨h_registered, Word.noConfusion⟩
    · exact .inr ⟨ih h_described, h_w⟩

/-- Something is known of a service exactly while it is registered. -/
theorem isSome_learnt (said : List Word) : (learnt said).isSome ↔ Registered said := by
  induction said using List.reverseRecOn with
  | nil => exact iff_of_false Bool.false_ne_true not_since_nil
  | append_singleton said w ih =>
    rw [learnt_concat, registered_concat, ← ih]
    -- a service is registered by a word that it runs, and until one that it ends
    cases w with
    | runs port host => simp [Word.learn]
    | ends => simp [Word.learn]
    | tells txt => simp [Word.learn]

/-- Where a service runs is what was said last. -/
theorem learnt_runsAt (said : List Word) (port : UInt16) (host : Name) :
    (∃ service, learnt said = some service ∧ service.port = port ∧ service.host = host) ↔
      RunsAt port host said := by
  induction said using List.reverseRecOn with
  | nil => exact iff_of_false (by simp [learnt]) not_since_nil
  | append_singleton said w ih =>
    rw [learnt_concat, RunsAt, since_concat, ← RunsAt, ← ih]
    -- only a word that it runs changes where it does
    cases w with
    | runs port' host' => simp [Word.learn]
    | ends => simp [Word.learn]
    | tells txt => simp [Word.learn, Option.map_eq_some_iff]

/-- The attributes that are known of a service that is described are those that were said last. -/
theorem learnt_tells (said : List Word) (txt : Attributes) :
    (Described said ∧ ∃ service, learnt said = some service ∧ service.txt = txt) ↔
      Tells txt said := by
  induction said using List.reverseRecOn with
  | nil => exact iff_of_false (fun h => not_since_nil h.1) not_since_nil
  | append_singleton said w ih =>
    rw [learnt_concat, Tells, since_concat, ← Tells, ← ih, described_concat]
    cases w with
    | runs port host =>
      cases h_learnt : learnt said with
      | none =>
        -- a service that runs anew has attributes, but was not described
        have h_not : ¬ Described said := by
          intro h_described
          have h_some := (isSome_learnt said).mpr h_described.registered
          rw [h_learnt] at h_some
          exact Bool.false_ne_true h_some
        simp [h_not]
      | some service =>
        -- whatever is known of the attributes stays
        simp [Word.learn]
    | ends => simp [Word.learn]
    | tells txt' =>
      rw [← isSome_learnt]
      cases h_learnt : learnt said with
      | none =>
        -- nobody listens to attributes before a service runs
        simp [Word.learn]
      | some service => simp [Word.learn]

/-- No attributes are known of a service that is not described. -/
theorem txt_eq_empty {said : List Word} {service : PeerService}
    (h : learnt said = some service) (h_not : ¬ Described said) : service.txt = ∅ := by
  induction said using List.reverseRecOn generalizing service with
  | nil => exact absurd h (by simp [learnt])
  | append_singleton said w ih =>
    rw [learnt_concat] at h
    rw [described_concat] at h_not
    cases w with
    | runs port host =>
      -- the attributes are those of before, and they were not said either
      obtain rfl := Option.some.inj h
      have h_not' : ¬ Described said := fun h => h_not (.inr ⟨h, Word.noConfusion⟩)
      cases h_learnt : learnt said with
      | none => rfl
      | some known =>
        show known.txt = ∅
        exact ih h_learnt h_not'
    | ends => exact absurd h (by simp [Word.learn])
    | tells txt =>
      -- these words describe the service, as something is known of it
      obtain ⟨service', h_learnt, -⟩ := Option.map_eq_some_iff.mp h
      refine absurd (.inl ⟨(isSome_learnt said).mp ?_, txt, rfl⟩) h_not
      rw [h_learnt]
      rfl

/-- What is known of the attributes of a service: what was said of them last since it was
registered, or nothing. -/
theorem txt_of_learnt {said : List Word} {service : PeerService}
    (h : learnt said = some service) :
    Tells service.txt said ∨ service.txt = ∅ ∧ ¬ Described said := by
  by_cases h_described : Described said
  · exact .inl ((learnt_tells said service.txt).mp ⟨h_described, service, h, rfl⟩)
  · exact .inr ⟨txt_eq_empty h h_described, h_described⟩

/-! ### Responses that say everything -/

/-- A response that says where an instance runs says its attributes, too. -/
def Together (t : PeerTable) (inputs : List Input) : Prop :=
  ∀ records source, .hears records source ∈ inputs → ∀ n, ∀ r ∈ records, ∀ port host,
    t.firstWord? n r = some (.runs port host) → ∃ r' ∈ records, t.secondWord? n r' ≠ none

/-- In the second pass attributes are all that is said. -/
theorem exists_tells_of_secondWord? {t : PeerTable} {n : Name} {r : Record} {w : Word}
    (h : t.secondWord? n r = some w) : ∃ txt, w = .tells txt := by
  unfold secondWord? at h
  split at h
  · split at h
    · exact ⟨_, (Option.some.inj h).symm⟩
    · exact absurd h (by simp)
  · exact absurd h (by simp)

theorem ends_or_runs_of_firstWord? {t : PeerTable} {n : Name} {r : Record} {w : Word}
    (h : t.firstWord? n r = some w) : w = .ends ∨ ∃ port host, w = .runs port host := by
  unfold firstWord? at h
  split at h
  · split at h
    · rw [← Option.some.inj h]
      -- the record says that it runs somewhere, or that it ends
      split
      · exact .inl rfl
      · exact .inr ⟨_, _, rfl⟩
    · exact absurd h (by simp)
  · exact absurd h (by simp)

/-- Attributes that are said of a registered service describe it. -/
theorem described_append_tells {said told : List Word} (h_told : ∀ w ∈ told, ∃ txt, w = .tells txt)
    (h_registered : Registered (said ++ told)) (h : told ≠ [] ∨ Described said) :
    Described (said ++ told) := by
  induction told using List.reverseRecOn with
  | nil => rw [List.append_nil]; exact h.resolve_left (fun h => h rfl)
  | append_singleton told w ih =>
    -- the last word describes what is registered by then
    obtain ⟨txt, rfl⟩ := h_told w (List.mem_append_right _ (List.mem_singleton_self _))
    rw [← List.append_assoc] at h_registered ⊢
    rw [registered_concat] at h_registered
    rw [described_concat]
    refine .inl ⟨?_, txt, rfl⟩
    rcases h_registered with ⟨port, host, h_w⟩ | ⟨h_registered, -⟩
    · exact Word.noConfusion h_w
    · exact h_registered

/-- A service that ends is not registered. -/
theorem eq_nil_of_ends {said ended : List Word} (h_ended : ∀ w ∈ ended, w = .ends)
    (h_registered : Registered (said ++ ended)) : ended = [] := by
  rcases List.eq_nil_or_concat ended with h_nil | ⟨ended, w, rfl⟩
  · exact h_nil
  · -- a service that ends last is not registered
    obtain rfl := h_ended w (by simp)
    rw [List.concat_eq_append, ← List.append_assoc, registered_concat] at h_registered
    rcases h_registered with ⟨port, host, h_w⟩ | ⟨-, h_w⟩
    · exact Word.noConfusion h_w
    · exact absurd rfl h_w

/-- Where every response says everything, a service that is registered is described. -/
theorem described_of_together {t : PeerTable} {inputs : List Input} (h : t.Together inputs)
    {n : Name} (h_registered : Registered (t.words n inputs)) : Described (t.words n inputs) := by
  induction inputs using List.reverseRecOn with
  | nil => exact absurd h_registered not_since_nil
  | append_singleton inputs input ih =>
    have ih' := ih fun records source h_mem =>
      h records source (List.mem_append_left [input] h_mem)
    rw [words_concat] at h_registered ⊢
    cases input with
    | asks tolerated =>
      rw [wordsOf, List.append_nil] at h_registered ⊢
      exact ih' h_registered
    | hears records source =>
      rw [wordsOf, ← List.append_assoc] at h_registered ⊢
      have h_told : ∀ w ∈ records.filterMap (t.secondWord? n), ∃ txt, w = .tells txt := by
        intro w h_w
        obtain ⟨r, -, h_r⟩ := List.mem_filterMap.mp h_w
        exact exists_tells_of_secondWord? h_r
      -- attributes come last in a response, so nothing that it says can end the service after them
      refine described_append_tells h_told h_registered ?_
      by_cases h_nil : records.filterMap (t.secondWord? n) = []
      · -- no attributes, so it is not said either where the service runs
        rw [h_nil, List.append_nil] at h_registered
        have h_ended : ∀ w ∈ records.filterMap (t.firstWord? n), w = .ends := by
          intro w h_w
          obtain ⟨r, h_mem, h_r⟩ := List.mem_filterMap.mp h_w
          refine (ends_or_runs_of_firstWord? h_r).resolve_right ?_
          rintro ⟨port, host, rfl⟩
          obtain ⟨r', h_mem', h_r'⟩ := h records source
            (List.mem_append_right inputs (List.mem_singleton_self _)) n r h_mem port host h_r
          exact h_r' (List.filterMap_eq_nil_iff.mp h_nil r' h_mem')
        have h_none := eq_nil_of_ends h_ended h_registered
        rw [h_none, List.append_nil] at h_registered ⊢
        exact .inr (ih' h_registered)
      · exact .inl h_nil

/-! ### Whether an instance can be reached -/

/-- What it takes to reach an instance, and how it is reached then. -/
theorem contact?_eq_some {t : PeerTable} {k : Sighting} {q : IpScope} {c : Contact}
    (h : t.contact? k q = some c) :
    ∃ peer service, t.peers[k]? = some peer ∧ t.services[peer.name]? = some service ∧
      c.hostName = service.host.hostText ∧ c.port = service.port ∧ c.txt = service.txt ∧
      t.Least service.host q c.address := by
  have h_contact := h
  obtain ⟨peer, h_peer, h⟩ := Option.bind_eq_some_iff.mp h
  obtain ⟨service, h_service, h⟩ := Option.bind_eq_some_iff.mp h
  obtain ⟨known, h_known, h⟩ := Option.bind_eq_some_iff.mp h
  obtain ⟨address, h_address, -⟩ := Option.bind_eq_some_iff.mp h
  -- the address is one of those of its host
  have h_has : t.Has service.host address :=
    ⟨known, h_known, Std.ExtTreeSet.mem_toList.mp (List.mem_of_find?_eq_some h_address)⟩
  -- and the protocol includes it
  have h_scope : q.includes address.scope = true := by
    have h_found := List.find?_some h_address
    exact h_found
  -- the contact has the least of them, so that is this one
  obtain ⟨least, h_some, h_least⟩ := contact?_least h_peer h_service h_has h_scope
  obtain rfl := Option.some.inj (h_contact.symm.trans h_some)
  exact ⟨peer, service, h_peer, h_service, rfl, rfl, rfl, h_least⟩

/-- **An instance is resolved without its attributes.** A table that knew nothing takes in any
responses from any sources, with any queries in between.

* An instance can be reached on a family exactly if it is there, its service is registered, and an
  address in the family is known of the host that the service runs on.  Its attributes are not
  asked for.
* It is reached where it was last said to run, at the least such address, with the attributes that
  were last said since its service was registered, or with none if none were.
* If every response that says where an instance runs also says its attributes, then whoever can be
  reached is described. -/
theorem reached_without_attributes (type : Name) (typeText : String) (inputs : List Input) :
    let t := ((empty type typeText).after inputs).1
    let said := fun n => (empty type typeText).words n inputs
    (∀ k q, (t.contact? k q).isSome ↔ ∃ peer port host x, t.peers[k]? = some peer ∧
      RunsAt port host (said peer.name) ∧ t.Has host x ∧ q.includes x.scope = true) ∧
    (∀ k q c, t.contact? k q = some c → ∃ peer host, t.peers[k]? = some peer ∧
      RunsAt c.port host (said peer.name) ∧ c.hostName = host.hostText ∧ t.Least host q c.address ∧
      (Tells c.txt (said peer.name) ∨ c.txt = ∅ ∧ ¬ Described (said peer.name))) ∧
    ((empty type typeText).Together inputs → ∀ k q c, t.contact? k q = some c →
      ∃ peer, t.peers[k]? = some peer ∧ Described (said peer.name) ∧
        Tells c.txt (said peer.name)) := by
  intro t said
  have h_services : ∀ n, t.services[n]? = learnt (said n) :=
    services_after type typeText inputs
  refine ⟨fun k q => ⟨fun h => ?_, ?_⟩, fun k q c h => ?_, fun h_together k q c h => ?_⟩
  · -- whoever is reached runs somewhere, and the address it is reached at is known
    obtain ⟨c, h⟩ := Option.isSome_iff_exists.mp h
    obtain ⟨peer, service, h_peer, h_service, -, -, -, h_least⟩ := contact?_eq_some h
    rw [h_services] at h_service
    exact ⟨peer, _, _, c.address, h_peer,
      (learnt_runsAt _ _ _).mp ⟨service, h_service, rfl, rfl⟩, h_least.known, h_least.scope⟩
  · -- some address is known, so there is a least one
    rintro ⟨peer, port, host, x, h_peer, h_runs, h_has, h_scope⟩
    obtain ⟨service, h_service, -, rfl⟩ := (learnt_runsAt _ _ _).mpr h_runs
    rw [← h_services] at h_service
    obtain ⟨address, h_some, -⟩ := contact?_least h_peer h_service h_has h_scope
    rw [h_some]
    rfl
  · obtain ⟨peer, service, h_peer, h_service, h_name, h_port, h_txt, h_least⟩ :=
      contact?_eq_some h
    rw [h_services] at h_service
    refine ⟨peer, service.host, h_peer, ?_, h_name, h_least, ?_⟩
    · exact (learnt_runsAt _ _ _).mp ⟨service, h_service, h_port.symm, rfl⟩
    · rw [h_txt]
      exact txt_of_learnt h_service
  · -- what is known of a service makes it registered, and so described
    obtain ⟨peer, service, h_peer, h_service, -, -, h_txt, -⟩ := contact?_eq_some h
    rw [h_services] at h_service
    have h_described : Described (said peer.name) := by
      refine described_of_together h_together ((isSome_learnt _).mp ?_)
      show (learnt (said peer.name)).isSome
      rw [h_service]
      rfl
    refine ⟨peer, h_peer, h_described, ?_⟩
    exact (learnt_tells _ _).mp ⟨h_described, service, h_service, h_txt.symm⟩

/-! ### A server on the bench -/

/-- The name of labels that are given as text. -/
def nameOfTexts (labels : List String) : Name :=
  (Name.ofLabels? (labels.map Utf8.bytes)).getD .root

def benchType : Name := nameOfTexts ["_soapy", "_tcp", "local"]

def benchName : Name := nameOfTexts ["bench", "_soapy", "_tcp", "local"]

/-- The server is there, and where it runs. -/
def benchPlace : List Record := [
  { owner := benchType, ttl := 120, cacheFlush := false, data := .ptr benchName },
  { owner := benchName, ttl := 120, cacheFlush := true,
    data := .srv 0 0 55132 (nameOfTexts ["bench", "local"]) },
  { owner := nameOfTexts ["bench", "local"], ttl := 120, cacheFlush := true,
    data := .a ⟨192, 168, 1, 7⟩ }]

/-- Its attributes. -/
def benchText : Record :=
  { owner := benchName, ttl := 120, cacheFlush := true, data := .txt [Utf8.bytes "uuid=7f0c"] }

def benchSighting : Sighting where
  interface := 0
  protocol := .v4
  name := "bench"
  serviceType := serverType
  domain

/-- A table that has heard one response. -/
def benchTable (records : List Record) : PeerTable :=
  ((empty benchType serverType).after [.hears records LocalService.benchSource]).1

/-- Where the place and the attributes are said in one response, the server is reached with its
attributes. -/
theorem bench_is_reached_described :
    ∃ c, (benchTable (benchPlace ++ [benchText])).contact? benchSighting .v4 = some c ∧
      ∃ peer, (benchTable (benchPlace ++ [benchText])).peers[benchSighting]? = some peer ∧
        Tells c.txt ((empty benchType serverType).words peer.name
          [.hears (benchPlace ++ [benchText]) LocalService.benchSource]) := by
  have h_some :
      ((benchTable (benchPlace ++ [benchText])).contact? benchSighting .v4).isSome = true := by
    decide +kernel
  -- the contact is known, so there is a word to look for
  obtain ⟨c, h_contact⟩ := Option.isSome_iff_exists.mp h_some
  -- the packet tells of the attributes with the service
  have h_together : (empty benchType serverType).Together
      [.hears (benchPlace ++ [benchText]) LocalService.benchSource] := by
    intro records source h_mem n r h_r port host h_word
    obtain ⟨rfl, rfl⟩ := Input.hears.inj (List.mem_singleton.mp h_mem)
    refine ⟨benchText, by simp, ?_⟩
    -- only the service record says where something runs
    simp only [benchPlace, List.cons_append, List.nil_append, List.mem_cons, List.not_mem_nil,
      or_false] at h_r
    rcases h_r with rfl | rfl | rfl | rfl
    · exact absurd h_word (by simp [firstWord?])
    · have h_n : (empty benchType serverType).isOfType benchName = true ∧ benchName.lower = n := by
        by_contra h_not
        exact absurd ((if_neg h_not).symm.trans h_word) (by simp)
      have h_text : (empty benchType serverType).secondWord? n benchText = some _ := if_pos h_n
      rw [h_text]
      exact Option.some_ne_none _
    · exact absurd h_word (by simp [firstWord?])
    · exact absurd h_word (by simp [firstWord?, benchText])
  obtain ⟨peer, h_peer, -, h_tells⟩ := (reached_without_attributes benchType serverType
    [.hears (benchPlace ++ [benchText]) LocalService.benchSource]).2.2 h_together benchSighting .v4
      c h_contact
  exact ⟨c, h_contact, peer, h_peer, h_tells⟩

/-- Where the attributes have not been said yet, the server is reached all the same, without
attributes, and so it is not listed. -/
theorem bench_is_reached_undescribed :
    ((benchTable benchPlace).contact? benchSighting .v4).map (fun c =>
        (c.txt.isEmpty, (Sweep.listing? benchSighting c).isNone)) = some (true, true) ∧
      (benchTable benchPlace).peers[benchSighting]?.map (·.name) = some benchName.lower ∧
      ¬ Described ((empty benchType serverType).words benchName.lower
        [.hears benchPlace LocalService.benchSource]) := by
  refine ⟨by decide +kernel, by decide +kernel, ?_⟩
  -- a description would be a word that tells of attributes, and there is none
  rintro ⟨before, _, later, h_said, ⟨-, txt, rfl⟩, -⟩
  have h_silent : ((empty benchType serverType).words benchName.lower
      [.hears benchPlace LocalService.benchSource]).any
        (fun | .tells _ => true | _ => false) = false := by decide +kernel
  rw [h_said] at h_silent
  simp at h_silent

end PeerTable
end ServiceDiscovery
