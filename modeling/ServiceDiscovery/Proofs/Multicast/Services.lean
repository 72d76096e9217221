import ServiceDiscovery.Proofs.Multicast.Reports

/-!
# What is said of a service

A record says something of the service of one instance at most (`PeerTable.Word`): where it runs,
that it runs no more, or its attributes.  What a table knows of a service is what was said of it,
one word after the other, whatever else the table hears (`PeerTable.services_after`).

The words of a response come in the order of its two passes: attributes come last, wherever their
record stands.  Which words there are depends on the type of the table alone, and that never changes
(`PeerTable.Alike`).
-/

namespace ServiceDiscovery
namespace PeerTable

open Dns (Name Record)

/-! ### Tables of one type -/

/-- Two tables are about the same service type. -/
structure Alike (t t' : PeerTable) : Prop where
  type : t'.type = t.type
  typeText : t'.typeText = t.typeText

namespace Alike

variable {t t' t'' : PeerTable}

theorem refl (t : PeerTable) : t.Alike t := ⟨rfl, rfl⟩

theorem trans (h : t.Alike t') (h' : t'.Alike t'') : t.Alike t'' :=
  ⟨h'.type.trans h.type, h'.typeText.trans h.typeText⟩

theorem isOfType (h : t.Alike t') (n : Name) : t'.isOfType n = t.isOfType n := by
  unfold PeerTable.isOfType
  rw [h.type]

theorem sighting? (h : t.Alike t') (interface : UInt32) (protocol : IpScope) (target : Name) :
    t'.sighting? interface protocol target = t.sighting? interface protocol target := by
  unfold PeerTable.sighting?
  rw [h.isOfType, h.typeText]

end Alike

variable (t : PeerTable)

theorem alike_takePointer (k : Sighting) (target : Name) (ttl : UInt32) :
    t.Alike (t.takePointer k target ttl).1 := by
  unfold takePointer
  split <;> split <;> exact ⟨rfl, rfl⟩

theorem alike_takeFirst (interface : UInt32) (protocol : IpScope) (r : Record) :
    t.Alike (t.takeFirst interface protocol r).1 := by
  unfold takeFirst
  -- a pointer changes the instances, a service record the services, any other record nothing
  split
  · split
    · split
      · exact alike_takePointer t _ _ _
      · exact .refl t
    · exact .refl t
  · split
    · unfold takeService
      split <;> exact ⟨rfl, rfl⟩
    · exact .refl t
  · exact .refl t

theorem alike_takeSecond (r : Record) : t.Alike (t.takeSecond r) := by
  -- an address changes the addresses of its host, and nothing else
  have h_address : ∀ (name : Name) (x : IpAddress), t.Alike (t.takeAddress name x r.ttl) := by
    intro name x
    unfold takeAddress
    dsimp only
    split <;> split <;> exact ⟨rfl, rfl⟩
  unfold takeSecond
  split
  · split
    · unfold takeAttributes
      split <;> exact ⟨rfl, rfl⟩
    · exact .refl t
  · exact h_address _ _
  · exact h_address _ _
  · exact .refl t

theorem alike_age (tolerated : UInt8) : t.Alike (t.age tolerated).1 := by
  unfold age
  split <;> exact ⟨rfl, rfl⟩

theorem alike_hears (records : List Record) (source : SocketAddress)
    (s : PeerTable × List Event) : s.1.Alike (records.foldl (hear source) s).1 := by
  induction records generalizing s with
  | nil => exact .refl s.1
  | cons r records ih => exact (alike_takeFirst s.1 _ _ r).trans (ih (hear source s r))

theorem alike_seconds (records : List Record) : t.Alike (records.foldl takeSecond t) := by
  induction records generalizing t with
  | nil => exact .refl t
  | cons r records ih => exact (alike_takeSecond t r).trans (ih (t.takeSecond r))

/-- Whatever a table goes through, it is about the same service type. -/
theorem alike_after (inputs : List Input) : t.Alike (t.after inputs).1 := by
  induction inputs using List.reverseRecOn with
  | nil => exact .refl t
  -- from the end: no input changes what the table is about
  | append_singleton inputs input ih =>
    rw [after_concat]
    refine ih.trans ?_
    cases input with
    | hears records source =>
      exact (alike_hears records source ((t.after inputs).1, [])).trans (alike_seconds _ records)
    | asks tolerated => exact alike_age _ tolerated

/-! ### Words about a service -/

/-- What a record says of the service of an instance. -/
inductive Word
  | runs (port : UInt16) (host : Name)
  | ends
  | tells (txt : Attributes)

/-- What a record says of the service of an instance in the first pass. -/
def firstWord? (n : Name) (r : Record) : Option Word :=
  match r.data with
  | .srv _ _ port target =>
    if t.isOfType r.owner ∧ r.owner.lower = n then
      some (if r.ttl = 0 then .ends else .runs port target.lower)
    else none
  | _ => none

/-- What a record says of the service of an instance in the second pass. -/
def secondWord? (n : Name) (r : Record) : Option Word :=
  match r.data with
  | .txt entries =>
    if t.isOfType r.owner ∧ r.owner.lower = n then some (.tells (.ofEntries entries)) else none
  | _ => none

/-- What an input says of the service of an instance. -/
def wordsOf (n : Name) : Input → List Word
  | .hears records _ => records.filterMap (t.firstWord? n) ++ records.filterMap (t.secondWord? n)
  | .asks _ => []

/-- What some inputs say of the service of an instance. -/
def words (n : Name) (inputs : List Input) : List Word := inputs.flatMap (t.wordsOf n)

theorem words_concat (n : Name) (inputs : List Input) (input : Input) :
    t.words n (inputs ++ [input]) = t.words n inputs ++ t.wordsOf n input := by
  simp [words]

/-- What is known of a service after a word. -/
def Word.learn (known : Option PeerService) : Word → Option PeerService
  | .runs port host => some { port, host, txt := (known.map (·.txt)).getD ∅ }
  | .ends => none
  | .tells txt => known.map fun service => { service with txt }

/-- What is known of a service after some words. -/
def learnt (said : List Word) : Option PeerService := said.foldl Word.learn none

theorem learnt_concat (said : List Word) (w : Word) :
    learnt (said ++ [w]) = w.learn (learnt said) := by
  simp only [learnt, List.foldl_append, List.foldl_cons, List.foldl_nil]

variable {t}

theorem services_takePointer (k : Sighting) (target : Name) (ttl : UInt32) :
    (t.takePointer k target ttl).1.services = t.services := by
  unfold takePointer
  split <;> split <;> rfl

theorem services_takeAddress (name : Name) (x : IpAddress) (ttl : UInt32) :
    (t.takeAddress name x ttl).services = t.services := by
  unfold takeAddress
  dsimp only
  split <;> split <;> rfl

/-- A service record is a word about the service that it names. -/
theorem services_takeService (n name : Name) (port : UInt16) (target : Name) (ttl : UInt32) :
    (t.takeService name port target ttl).services[n]? =
      if name.lower = n then
        (if ttl = 0 then Word.ends else .runs port target.lower).learn t.services[n]?
      else t.services[n]? := by
  unfold takeService
  -- a service that ends is dropped
  by_cases h_ttl : ttl = 0
  · rw [if_pos h_ttl, if_pos h_ttl]
    simp only [Std.ExtTreeMap.getElem?_erase, Std.LawfulEqOrd.compare_eq_iff_eq]
    rfl
  · -- one that runs is entered with the port and the host that are told
    rw [if_neg h_ttl, if_neg h_ttl]
    simp only [Std.ExtTreeMap.getElem?_insert, Std.LawfulEqOrd.compare_eq_iff_eq]
    split
    · next h_name => subst h_name; rfl
    · rfl

/-- Attributes are a word about the service that they are of. -/
theorem services_takeAttributes (n name : Name) (txt : Attributes) :
    (t.takeAttributes name txt).services[n]? =
      if name.lower = n then (Word.tells txt).learn t.services[n]? else t.services[n]? := by
  unfold takeAttributes
  split
  · -- the service is known, so its attributes are replaced
    next service h_service =>
    simp only [Std.ExtTreeMap.getElem?_insert, Std.LawfulEqOrd.compare_eq_iff_eq]
    split
    · next h_name => subst h_name; rw [h_service]; rfl
    · rfl
  · -- nobody knows the service, so there is nothing to tell attributes of
    next h_service =>
    split
    · next h_name => subst h_name; rw [h_service]; rfl
    · rfl

theorem services_takeFirst (n : Name) (interface : UInt32) (protocol : IpScope) (r : Record) :
    (t.takeFirst interface protocol r).1.services[n]? =
      (t.firstWord? n r).toList.foldl Word.learn t.services[n]? := by
  obtain ⟨owner, ttl, cacheFlush, data⟩ := r
  cases data with
  | ptr target =>
    -- a pointer is no word about a service, and touches none
    unfold takeFirst
    dsimp only
    split
    · split
      · rw [services_takePointer]; rfl
      · rfl
    · rfl
  | srv priority weight port target =>
    unfold takeFirst firstWord?
    dsimp only
    -- a service of another type is not taken in
    by_cases h_of : t.isOfType owner = true
    · rw [if_pos h_of]
      dsimp only
      rw [services_takeService]
      simp only [h_of, true_and]
      split <;> rfl
    · rw [if_neg h_of, if_neg fun h : _ ∧ _ => h_of h.1]
      rfl
  | _ => rfl

theorem services_takeSecond (n : Name) (r : Record) :
    (t.takeSecond r).services[n]? =
      (t.secondWord? n r).toList.foldl Word.learn t.services[n]? := by
  obtain ⟨owner, ttl, cacheFlush, data⟩ := r
  cases data with
  | txt entries =>
    unfold takeSecond secondWord?
    dsimp only
    -- attributes of a service of another type are not taken in
    by_cases h_of : t.isOfType owner = true
    · rw [if_pos h_of, services_takeAttributes]
      simp only [h_of, true_and]
      split <;> rfl
    · rw [if_neg h_of, if_neg fun h : _ ∧ _ => h_of h.1]
      rfl
  | a address => exact congrArg (·[n]?) (services_takeAddress owner _ ttl)
  | aaaa address => exact congrArg (·[n]?) (services_takeAddress owner _ ttl)
  | _ => rfl

/-- Words depend on the type of a table alone. -/
theorem Alike.firstWord? {t' : PeerTable} (h : t.Alike t') (n : Name) (r : Record) :
    t'.firstWord? n r = t.firstWord? n r := by
  unfold PeerTable.firstWord?
  simp only [h.isOfType]

theorem Alike.secondWord? {t' : PeerTable} (h : t.Alike t') (n : Name) (r : Record) :
    t'.secondWord? n r = t.secondWord? n r := by
  unfold PeerTable.secondWord?
  simp only [h.isOfType]

theorem foldl_learn_filterMap (f : Record → Option Word) (r : Record) (records : List Record)
    (known : Option PeerService) :
    ((r :: records).filterMap f).foldl Word.learn known =
      (records.filterMap f).foldl Word.learn ((f r).toList.foldl Word.learn known) := by
  rw [List.filterMap_cons]
  cases f r <;> rfl

/-- What the first pass learns.  The words are those of any table of the type: the one that hears
changes from record to record. -/
theorem services_foldl_hear (n : Name) (source : SocketAddress) (records : List Record)
    {t : PeerTable} {s : PeerTable × List Event} (h : t.Alike s.1) :
    (records.foldl (hear source) s).1.services[n]? =
      (records.filterMap (t.firstWord? n)).foldl Word.learn s.1.services[n]? := by
  -- on the records: each is one word about the service, or none
  induction records generalizing s with
  | nil => rfl
  | cons r records ih =>
    have h_alike := alike_takeFirst s.1 source.interface source.scope r
    rw [List.foldl_cons, foldl_learn_filterMap, ih (s := hear source s r) (h.trans h_alike),
      ← h.firstWord?, ← services_takeFirst n source.interface source.scope r]
    rfl

/-- What the second pass learns. -/
theorem services_foldl_takeSecond (n : Name) (records : List Record) {t t' : PeerTable}
    (h : t'.Alike t) :
    (records.foldl takeSecond t).services[n]? =
      (records.filterMap (t'.secondWord? n)).foldl Word.learn t.services[n]? := by
  -- on the records: each is one word about the service, or none
  induction records generalizing t with
  | nil => rfl
  | cons r records ih =>
    rw [List.foldl_cons, foldl_learn_filterMap, ih (h.trans (alike_takeSecond t r)),
      ← h.secondWord?, services_takeSecond]

/-- What a response says of a service is learnt, first pass first. -/
theorem services_takeIn (n : Name) (records : List Record) (source : SocketAddress)
    {t t' : PeerTable} (h : t'.Alike t) :
    (t.takeIn records source).1.services[n]? =
      (t'.wordsOf n (.hears records source)).foldl Word.learn t.services[n]? := by
  -- the first pass, then the second
  have h_second := h.trans (alike_hears records source (t, []))
  rw [takeIn_eq]
  dsimp only
  rw [services_foldl_takeSecond n records h_second,
    services_foldl_hear n source records (s := (t, [])) h, ← List.foldl_append]
  rfl

/-- **What is known of a service is what was said of it.** -/
theorem services_after (type : Name) (typeText : String) (inputs : List Input) (n : Name) :
    ((empty type typeText).after inputs).1.services[n]? =
      learnt ((empty type typeText).words n inputs) := by
  induction inputs using List.reverseRecOn with
  | nil => exact Std.ExtTreeMap.getElem?_empty
  | append_singleton inputs input ih =>
    rw [after_concat, words_concat, learnt, List.foldl_append, ← learnt, ← ih]
    cases input with
    | hears records source => exact services_takeIn n records source (alike_after _ inputs)
    | asks tolerated =>
      -- a query that goes unanswered touches the peers alone
      show (age tolerated _).1.services[n]? = _
      unfold age
      split <;> rfl

end PeerTable
end ServiceDiscovery
