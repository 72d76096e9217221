import ServiceDiscovery.Proofs.Segment.Chronicle
import ServiceDiscovery.Proofs.Segment.Settling
import ServiceDiscovery.Proofs.Sweep.Listings

/-!
# Clients converge

What a client of a segment ends up showing can be said without its event loop: it is the directory
of the postings that were accepted from agents that are there (`Directory.ofPostings`), each listed
once for every family on which it is offered and asked for (`Posting.ListedAs`).

After every course of moves, what is posted on the segment is what was accepted from the agents that
are there.  If no two postings ever had the same key, and no watch was ever too far behind, then an
agent that has asked for servers shows exactly these, at the latest when its loop has settled
(`Chronicle.converges`).
-/

namespace ServiceDiscovery

/-! ### The directory of some postings -/

/-- How a posting is listed by those who look for servers on a scope. -/
structure Posting.ListedAs (p : Posting) (scope : IpScope) (k : Sighting) (v : Listing) : Prop where
  type : p.advertisement.serviceType = serverType
  family : k.protocol = .v4 ∨ k.protocol = .v6
  asked : scope.includes k.protocol = true
  offered : p.advertisement.scope.includes k.protocol = true
  key : k = { interface := p.host.interface, protocol := k.protocol, name := p.advertisement.name
              serviceType := serverType, domain }
  tag : p.advertisement.txt[tagAttribute]? = some v.tag
  tag_ne : v.tag ≠ ""
  version : v.version = k.protocol
  url : v.url =
    connectionUrl (p.host.address k.protocol) p.advertisement.port k.protocol k.interface

/-- A posting as it is listed, once for each family. -/
def Posting.listings (scope : IpScope) (p : Posting) : List (Sighting × Listing) :=
  match p.advertisement.txt[tagAttribute]? with
  | none => []
  | some tag =>
    if tag = "" then []
    else
      (p.sightings serverType scope).map fun k =>
        (k, { tag, version := k.protocol
              url := connectionUrl (p.host.address k.protocol) p.advertisement.port k.protocol
                k.interface })

/-- The directory of these postings, for those who look on a scope. -/
def Directory.ofPostings (scope : IpScope) (postings : List Posting) : Directory :=
  ⟨.ofList (postings.flatMap (·.listings scope))⟩

namespace Posting

variable {p : Posting} {scope : IpScope} {k : Sighting} {v : Listing}

/-- A posting is listed as what it is resolved to. -/
theorem listedAs_iff :
    p.ListedAs scope k v ↔
      k ∈ p.sightings serverType scope ∧ Sweep.listing? k (p.contact k.protocol) = some v := by
  rw [Sweep.listing?_eq_some_iff, Contact.tag?_eq_some_iff, mem_sightings]
  constructor
  · -- the key of a listing spells out where and under which name it was seen
    intro h
    have h_key := h.key
    refine ⟨⟨h.family, h.asked, h.offered, h.type, ?_, ?_, ?_, ?_⟩, ⟨h.tag, h.tag_ne⟩, h.version,
      h.url⟩
    · rw [h_key]
    · rw [h_key]
    · rw [h_key, h.type]
    · rw [h_key]
  · rintro ⟨⟨h_family, h_asked, h_offered, h_type, h_interface, h_name, h_service, h_domain⟩,
      ⟨h_tag, h_ne⟩, h_version, h_url⟩
    refine ⟨h_type, h_family, h_asked, h_offered, ?_, h_tag, h_ne, h_version, h_url⟩
    rw [← h_interface, ← h_name, ← h_type, ← h_service, ← h_domain]

theorem mem_listings : (k, v) ∈ p.listings scope ↔ p.ListedAs scope k v := by
  unfold listings
  split
  · -- without a tag there is nothing to list, and a listing has one
    next h_none =>
    refine ⟨fun h_mem => absurd h_mem List.not_mem_nil, fun h => ?_⟩
    have h_tag := h.tag
    rw [h_none] at h_tag
    exact absurd h_tag (by simp)
  · next tag h_tag =>
    -- the one tag the contact has is that of the listing
    have h_same : p.ListedAs scope k v → tag = v.tag := fun h =>
      Option.some.inj (h_tag.symm.trans h.tag)
    split
    · -- an empty tag is not listed either
      next h_empty =>
      refine ⟨fun h_mem => absurd h_mem List.not_mem_nil, fun h => absurd h_empty ?_⟩
      rw [h_same h]
      exact h.tag_ne
    · next h_ne =>
      constructor
      · intro h_mem
        obtain ⟨k', h_sighting, h_eq⟩ := List.mem_map.mp h_mem
        obtain ⟨rfl, rfl⟩ := Prod.mk.inj h_eq
        exact listedAs_iff.mpr ⟨h_sighting, Sweep.listing?_eq_some_iff.mpr
          ⟨Contact.tag?_eq_some_iff.mpr ⟨h_tag, h_ne⟩, rfl, rfl⟩⟩
      · intro h
        refine List.mem_map.mpr ⟨k, (listedAs_iff.mp h).1, ?_⟩
        rw [h_same h, ← h.url, ← h.version]

/-- No posting is listed twice under the same key. -/
theorem distinct_listings (p : Posting) (scope : IpScope) :
    (p.listings scope).Pairwise fun x y => x.1 ≠ y.1 := by
  unfold listings
  split
  · exact .nil
  · split
    · exact .nil
    · -- the sightings of one posting are distinct already, and each is listed once
      rw [List.pairwise_map]
      exact p.nodup_sightings serverType scope

end Posting

namespace Directory

variable {postings : List Posting} {scope : IpScope} {k : Sighting} {v : Listing}

theorem ext_get? {d d' : Directory} (h : ∀ k, d.get? k = d'.get? k) : d = d' := by
  obtain ⟨listings⟩ := d
  obtain ⟨listings'⟩ := d'
  exact congrArg mk (Std.ExtTreeMap.ext_getElem? h)

/-- Exactly these postings are listed, if no two of them have the same key. -/
theorem get?_ofPostings (h : postings.Pairwise fun p q => List.Disjoint p.keys q.keys) :
    (ofPostings scope postings).get? k = some v ↔ ∃ p ∈ postings, p.ListedAs scope k v := by
  have h_mem : (k, v) ∈ postings.flatMap (·.listings scope) ↔
      ∃ p ∈ postings, p.ListedAs scope k v := by
    simp only [List.mem_flatMap, Posting.mem_listings]
  -- a key is entered once, so the order of the postings does not matter
  have h_distinct : (postings.flatMap (·.listings scope)).Pairwise fun x y =>
      ¬compare x.1 y.1 = .eq := by
    simp only [Std.LawfulEqOrd.compare_eq_iff_eq]
    refine List.pairwise_flatMap.mpr ⟨fun p _ => p.distinct_listings scope, h.imp ?_⟩
    rintro p q h_disjoint ⟨k, v⟩ hp ⟨k', v'⟩ hq rfl
    have hp' := (Posting.listedAs_iff.mp (Posting.mem_listings.mp hp)).1
    have hq' := (Posting.listedAs_iff.mp (Posting.mem_listings.mp hq)).1
    exact h_disjoint (Posting.mem_keys_of_sightings hp') (Posting.mem_keys_of_sightings hq')
  -- an entry of the list is found under its key
  have h_get : ∀ v, (k, v) ∈ postings.flatMap (·.listings scope) →
      (ofPostings scope postings).get? k = some v := fun v h_entry =>
    Std.ExtTreeMap.getElem?_ofList_of_mem Std.ReflCmp.compare_self h_distinct h_entry
  rw [← h_mem]
  refine ⟨fun h_some => ?_, h_get v⟩
  -- conversely, what is found under a key is an entry of the list
  by_cases h_key : k ∈ (postings.flatMap (·.listings scope)).map Prod.fst
  · obtain ⟨⟨_, v'⟩, h_entry, rfl⟩ := List.mem_map.mp h_key
    rw [h_get v' h_entry] at h_some
    rwa [← Option.some.inj h_some]
  · have h_none : (ofPostings scope postings).get? k = none :=
      Std.ExtTreeMap.getElem?_ofList_of_contains_eq_false (by simpa using h_key)
    rw [h_none] at h_some
    exact absurd h_some (by simp)

end Directory

/-! ### Answers -/

/-- Once the sweep is complete, an agent that asks for servers is told what has been found. -/
theorem Agent.urls?_of_complete {σ : Type} [Engine σ] {l : EventLoop σ}
    (h : l.sweep.progress = .complete) (scope : IpScope) :
    ((running l).urls? scope).1 = some l.sweep.urls := by
  -- the sweep is complete, so the question is answered on the spot
  have h_query : l.query 0 scope = (l, { replies := [(0, .urls l.sweep.urls)] }) := by
    unfold EventLoop.query
    rw [h]
  -- and that answer stands before those of the questions that were waiting
  have h_replies : ((running l).ask 0 scope).2.replies =
      (0, .urls l.sweep.urls) :: l.answerParked.2.replies := by
    change (l.serve 0 (.query scope)).2.replies = _
    rw [EventLoop.replies_serve]
    change (l.query 0 scope).2.replies ++ (l.query 0 scope).1.answerParked.2.replies = _
    rw [h_query]
    rfl
  change urlsFor? 0 (((running l).ask 0 scope).2.replies ++ _) = _
  rw [h_replies]
  rfl

/-! ### Chronicles -/

namespace Chronicle

variable {c : Chronicle} {name : String} {l : EventLoop Seat} {host : Host} {posted : Array Nat}
  {scope : IpScope}

/-- What is posted is what was accepted from the agents that are there. -/
theorem Accurate.current_eq (h : c.Accurate) :
    c.neighbourhood.segment.current = c.accepted.map (·.2) := by
  have h_accepted : (c.accepted.map (·.2)).Pairwise fun p q => p.id < q.id :=
    List.pairwise_map.mpr h.order
  -- both are in the order of their numbers, so it is enough that they have the same members
  refine Segment.eq_of_ordered h.sound.ordered_current h_accepted fun p => ?_
  rw [h.sound.mem_current, h.postings, List.mem_map]
  constructor
  · rintro ⟨-, owner, h_mem⟩
    exact ⟨(owner, p), h_mem, rfl⟩
  · rintro ⟨⟨owner, q⟩, h_mem, rfl⟩
    exact ⟨rfl, owner, h_mem⟩

/-- A loop that looks for servers on a scope has found those that were accepted from the agents that
are there, and gives them as its answer. -/
structure Shown (c : Chronicle) (scope : IpScope) (l : EventLoop Seat) : Prop where
  complete : l.sweep.progress = .complete
  listed : ∀ k v, l.sweep.directory.get? k = some v ↔
    ∃ owner p, (owner, p) ∈ c.accepted ∧ p.ListedAs scope k v
  directory : l.sweep.directory = .ofPostings scope (c.accepted.map (·.2))
  answer : ∀ scope', ((Agent.running l).urls? scope').1 =
    some (Directory.ofPostings scope (c.accepted.map (·.2))).urls

/-- A loop that has to wait shows what is there. -/
theorem Accurate.shown (h : c.Accurate) (h_times : c.neighbourhood.segment.Unambiguous)
    (h_pursues : Pursues c.neighbourhood.segment host posted scope l) (h_waits : l.poll.1 = false) :
    c.Shown scope l := by
  -- no key is offered twice among the accepted registrations
  have h_distinct := Segment.distinct_iff.mp (h_times.distinct h.sound)
  rw [h.current_eq] at h_distinct
  have h_sound := h.sound
  obtain ⟨h_segment, past, watch, h_attends, h_tracks, rfl, h_near⟩ := h_pursues
  rw [← h_segment] at h_sound h_times h_near
  obtain ⟨h_complete, h_found⟩ :=
    h_tracks.listed_of_waits h_attends h_sound h_times h_near h_waits
  -- what is posted is what was accepted, so the two notions of being listed agree
  have h_listed : ∀ k v, l.sweep.directory.get? k = some v ↔
      ∃ owner p, (owner, p) ∈ c.accepted ∧ p.ListedAs watch.scope k v := by
    intro k v
    rw [h_found, h_segment]
    constructor
    · rintro ⟨p, ⟨h_posted, h_sighting⟩, h_listing⟩
      obtain ⟨-, owner, h_mem⟩ := (h.postings _ _).mp h_posted
      exact ⟨owner, p, h_mem, Posting.listedAs_iff.mpr ⟨h_sighting, h_listing⟩⟩
    · rintro ⟨owner, p, h_mem, h_as⟩
      obtain ⟨h_sighting, h_listing⟩ := Posting.listedAs_iff.mp h_as
      exact ⟨p, ⟨(h.postings _ _).mpr ⟨rfl, owner, h_mem⟩, h_sighting⟩, h_listing⟩
  -- a directory is known by its entries
  have h_directory : l.sweep.directory =
      .ofPostings watch.scope (c.accepted.map (·.2)) := by
    refine Directory.ext_get? fun k => Option.ext fun v => ?_
    rw [h_listed, Directory.get?_ofPostings h_distinct]
    constructor
    · rintro ⟨owner, p, h_mem, h_as⟩
      exact ⟨p, List.mem_map_of_mem h_mem, h_as⟩
    · rintro ⟨p, h_mem, h_as⟩
      obtain ⟨⟨owner, _⟩, h_entry, rfl⟩ := List.mem_map.mp h_mem
      exact ⟨owner, _, h_entry, h_as⟩
  refine ⟨h_complete, h_listed, h_directory, fun scope' => ?_⟩
  rw [← h_directory]
  exact Agent.urls?_of_complete h_complete scope'

/-- An agent that has asked for servers runs a loop that looks for them. -/
theorem Accurate.pursues (h : c.Accurate) (h_up : c.UpToDate) (h_orderly : c.Orderly)
    (h_scope : c.scopes.lookup name = some scope) :
    ∃ l host posted, (c.neighbourhood.agent? name).map
        (Neighbourhood.seated c.neighbourhood.segment) = some (.running l) ∧
      Pursues c.neighbourhood.segment host posted scope l := by
  cases h_loop : c.neighbourhood.loop? name with
  -- who has asked with a scope is there
  | none =>
    rw [(h.absent name h_loop).2.2.1] at h_scope
    exact absurd h_scope (by simp)
  | some l =>
    obtain ⟨host, posted, watch?, h_resident⟩ := h.present name l h_loop
    have h_watch := h_resident.scope_eq
    -- and it watches with the scope that it asked with
    rw [h_scope] at h_watch
    obtain ⟨watch, rfl, rfl⟩ := Option.map_eq_some_iff.mp h_watch.symm
    have h_attends := h_resident.attends
    obtain ⟨past, h_tracks⟩ := h_up.tracked name l h_loop host posted watch h_attends
    refine ⟨l, host, posted, ?_, Neighbourhood.segment_of_loop? h_loop, past, watch, h_attends,
      h_tracks, rfl, h_orderly.near name l host posted watch h_loop h_attends.attachment⟩
    obtain ⟨a, h_agent, h_seated⟩ := Option.bind_eq_some_iff.mp h_loop
    rw [h_agent, Option.map_some]
    cases h_a : Neighbourhood.seated c.neighbourhood.segment a with
    | unavailable =>
      rw [h_a] at h_seated
      exact absurd h_seated (by simp [Agent.loop?])
    | resting engine =>
      -- a loop that nobody runs has not asked yet
      rw [h_a] at h_seated
      obtain rfl := Option.some.inj h_seated
      exact absurd (h_attends.started rfl) (by simp [EventLoop.ofEngine, Sweep.fresh])
    | running loop =>
      rw [h_a] at h_seated
      rw [Option.some.inj h_seated]

/-- **Clients converge.** What is posted is what was accepted from the agents that are there.  If no
two postings ever had the same key, and no watch was ever too far behind, every agent that has asked
for servers shows exactly this: as soon as its loop has to wait, and so once it has settled.

The moves of all agents are made one after the other, in any order; nothing is said of calls that
overlap in time. -/
theorem converges (moves : List Move) :
    (after moves).neighbourhood.segment.current = (after moves).accepted.map (·.2) ∧
      ((∀ past, past <+: moves → (after past).Orderly) →
        ∀ name scope, (after moves).scopes.lookup name = some scope →
          ∃ l, ((after moves).neighbourhood.agent? name).map
              (Neighbourhood.seated (after moves).neighbourhood.segment) = some (.running l) ∧
            (l.poll.1 = false → (after moves).Shown scope l) ∧
            l.settle.1.poll.1 = false ∧ (after moves).Shown scope l.settle.1) := by
  have h_accurate := accurate_after moves
  refine ⟨h_accurate.current_eq, fun h_orderly name scope h_scope => ?_⟩
  have h_up := upToDate_after h_orderly
  obtain ⟨l, host, posted, h_running, h_pursues⟩ :=
    h_accurate.pursues h_up (h_orderly _ List.prefix_rfl) h_scope
  obtain ⟨h_settled, h_waits⟩ := h_pursues.settle h_accurate.sound h_up.times
  exact ⟨l, h_running, h_accurate.shown h_up.times h_pursues, h_waits,
    h_accurate.shown h_up.times h_settled h_waits⟩

/-! ### A server that is taken over -/

/-- As long as little has happened, no watch is too far behind. -/
theorem Orderly.of_short
    (h : c.neighbourhood.segment.current.Pairwise fun p q => List.Disjoint p.keys q.keys)
    (h_short : c.neighbourhood.segment.history.size ≤ Watch.window) : c.Orderly where
  distinct := h
  near := fun _ _ _ _ _ _ _ => (Nat.sub_le _ _).trans h_short

def bench : Host where
  name := "bench"
  interface := 2
  v4 := ⟨10, 0, 0, 7⟩
  v6 := ⟨#v[0xfe80, 0, 0, 0, 0, 0, 0, 7]⟩

def attic : Host where
  name := "attic"
  interface := 2
  v4 := ⟨10, 0, 0, 8⟩
  v6 := ⟨#v[0xfe80, 0, 0, 0, 0, 0, 0, 8]⟩

/-- A client that serves on the other family begins to resolve the server on the bench, which leaves
and is replaced by another under the same key. -/
def takeover : List Move :=
  [.join "first" bench, .register "first" "b1" "55132" .any, .join "client" attic,
    .register "client" "a1" "55132" .v4, .ask "client" 0 .v6, .poll "client", .dismiss "first",
    .join "second" bench, .register "second" "b2" "1234" .any]

theorem takeover_orderly : ∀ past, past <+: takeover → (after past).Orderly := by
  -- each of the ten stages is checked on its own
  have h_short : ∀ n < 10,
      ((after (takeover.take n)).neighbourhood.segment.current.Pairwise fun p q =>
          ∀ k ∈ p.keys, k ∉ q.keys) ∧
        (after (takeover.take n)).neighbourhood.segment.history.size ≤ Watch.window := by
    decide +kernel
  intro past h_past
  have h_length : past.length < 10 := Nat.lt_succ_of_le h_past.length_le
  obtain ⟨h_distinct, h_size⟩ := h_short past.length h_length
  rw [← List.prefix_iff_eq_take.mp h_past] at h_distinct h_size
  exact .of_short (h_distinct.imp fun h_keys k hp hq => h_keys k hp hq) h_size

theorem takeover_converges :
    (∀ past, past <+: takeover → (after past).Orderly) ∧
      (after takeover).scopes.lookup "client" = some .v6 ∧
      (after takeover).accepted.map (·.1) = ["client", "second"] ∧
      ∃ l, ((after takeover).neighbourhood.agent? "client").map
          (Neighbourhood.seated (after takeover).neighbourhood.segment) = some (.running l) ∧
        (after takeover).Shown .v6 l.settle.1 := by
  have h_scope : (after takeover).scopes.lookup "client" = some .v6 := by decide
  have h_owners : (after takeover).accepted.map (·.1) = ["client", "second"] := by decide
  obtain ⟨l, h_running, -, -, h_shown⟩ :=
    (converges takeover).2 takeover_orderly "client" .v6 h_scope
  exact ⟨takeover_orderly, h_scope, h_owners, l, h_running, h_shown⟩

end Chronicle

end ServiceDiscovery
