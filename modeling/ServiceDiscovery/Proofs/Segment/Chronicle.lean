import ServiceDiscovery.Proofs.Segment.Visits

/-!
# The chronicle of a neighbourhood

Agents come to a segment and leave it, register servers, ask for servers, and have their event loops
polled: one step of one agent at a time, in any order (`Move`).  A `Chronicle` keeps books on this
apart from the neighbourhood: which host each agent stands for, which registrations were accepted
from agents that are still there, in order and numbered, and the scope of each agent's first query.
Whether a registration was accepted is told from what the agent notes, which is nothing then.

`Chronicle.Accurate` says that the books agree with the neighbourhood, and holds after every course
of moves (`Chronicle.accurate_after`).  `Chronicle.UpToDate` says that every loop that watches keeps
track of the segment; it holds after every course in which no two postings ever had the same key,
and no watch was ever further behind than the segment keeps its history
(`Chronicle.upToDate_after`).  Both rest on one lemma for each move (`Chronicle.Preserves`).
-/

namespace ServiceDiscovery

/-- What can happen in a neighbourhood.  Each move is over before the next begins, whoever makes
them: calls of two agents that overlap, so that somebody registers between the moment from which
another one watches and its look at what is posted, are no course of moves. -/
inductive Move
  /-- An agent comes, for a host, under a name; nothing happens if the name is taken. -/
  | join (name : String) (host : Host)
  | register (name tag port : String) (scope : IpScope)
  | ask (name : String) (ticket : Nat) (scope : IpScope)
  /-- The event loop of an agent has the chance to take in an event. -/
  | poll (name : String)
  | dismiss (name : String)

/-- A neighbourhood with its books. -/
structure Chronicle where
  neighbourhood : Neighbourhood
  /-- The hosts of the agents. -/
  hosts : List (String × Host)
  /-- The registrations that were accepted from agents that are there, as they are to be posted. -/
  accepted : List (String × Posting)
  /-- How many registrations have ever been accepted. -/
  count : Nat
  /-- The scopes of the first queries of the agents. -/
  scopes : List (String × IpScope)

namespace Chronicle

/-- Nobody is there, and nothing has happened. -/
def quiet : Chronicle :=
  { neighbourhood := .empty, hosts := [], accepted := [], count := 0, scopes := [] }

/-- The posting of a registration that is accepted now. -/
def posting (host : Host) (tag : String) (number : UInt16) (scope : IpScope) (c : Chronicle) :
    Posting :=
  { id := c.count + 1, host, advertisement := .ofServer host.name tag number scope }

/-- Enters a registration if nothing was noted about it. -/
def enter (name tag port : String) (scope : IpScope) (notices? : Option (List Notice))
    (c : Chronicle) : Chronicle :=
  match notices?, c.hosts.lookup name, Text.parsePort port with
  | some [], some host, .ok number =>
    { c with
      accepted := c.accepted ++ [(name, c.posting host tag number scope)]
      count := c.count + 1 }
  | _, _, _ => c

/-- Makes a move, and keeps the books. -/
def advance (move : Move) (c : Chronicle) : Chronicle :=
  match move with
  | .join name host =>
    match c.neighbourhood.agent? name with
    | some _ => c
    | none =>
      { c with
        neighbourhood := c.neighbourhood.join name
          (.resting { segment := c.neighbourhood.segment, member := .ofHost host })
        hosts := c.hosts ++ [(name, host)] }
  | .register name tag port scope =>
    let (notices?, neighbourhood) :=
      c.neighbourhood.visit name fun a => (a.register tag port scope).swap
    { c with neighbourhood }.enter name tag port scope notices?
  | .ask name ticket scope =>
    let (effects?, neighbourhood) := c.neighbourhood.visit name fun a => (a.ask ticket scope).swap
    -- the scope counts if the agent is there, and has not asked before
    match effects?, c.scopes.lookup name with
    | some _, none => { c with neighbourhood, scopes := c.scopes ++ [(name, scope)] }
    | _, _ => { c with neighbourhood }
  | .poll name => { c with neighbourhood := (c.neighbourhood.visit name fun a => a.poll.swap).2 }
  | .dismiss name =>
    -- what was accepted from the agent goes with it
    { c with
      neighbourhood := c.neighbourhood.dismiss name
      hosts := c.hosts.filter (·.1 ≠ name)
      accepted := c.accepted.filter (·.1 ≠ name)
      scopes := c.scopes.filter (·.1 ≠ name) }

/-- After some moves from the beginning. -/
def after (moves : List Move) : Chronicle := moves.foldl (fun c move => c.advance move) quiet

theorem after_concat (moves : List Move) (move : Move) :
    after (moves ++ [move]) = (after moves).advance move := by
  simp only [after, List.foldl_append, List.foldl_cons, List.foldl_nil]

/-! ### What the books say -/

/-- What the books say of an agent is true of its loop. -/
structure Resident (c : Chronicle) (name : String) (l : EventLoop Seat) (host : Host)
    (posted : Array Nat) (watch? : Option Watch) : Prop where
  host_eq : c.hosts.lookup name = some host
  attends : Attends host posted watch? l.engine l.sweep
  scope_eq : c.scopes.lookup name = watch?.map (·.scope)
  mem_posted : ∀ i, i ∈ posted ↔ ∃ p, (name, p) ∈ c.accepted ∧ p.id = i

/-- The books agree with the neighbourhood. -/
structure Accurate (c : Chronicle) : Prop where
  sound : c.neighbourhood.segment.Sound
  count : c.neighbourhood.segment.nextId = c.count + 1
  order : c.accepted.Pairwise fun x y => x.2.id < y.2.id
  postings : ∀ (i : Nat) (p : Posting), c.neighbourhood.segment.postings[i]? = some p ↔
    p.id = i ∧ ∃ name, (name, p) ∈ c.accepted
  present : ∀ name l, c.neighbourhood.loop? name = some l →
    ∃ host posted watch?, c.Resident name l host posted watch?
  absent : ∀ name, c.neighbourhood.loop? name = none → c.neighbourhood.agent? name = none ∧
    c.hosts.lookup name = none ∧ c.scopes.lookup name = none ∧ ∀ p, (name, p) ∉ c.accepted

/-- Every loop that watches keeps track of the segment. -/
structure UpToDate (c : Chronicle) : Prop where
  times : c.neighbourhood.segment.Unambiguous
  tracked : ∀ name l, c.neighbourhood.loop? name = some l → Tracked l.engine l.sweep

/-- No two postings have the same key, and no watch is too far behind. -/
structure Orderly (c : Chronicle) : Prop where
  distinct : c.neighbourhood.segment.current.Pairwise fun p q => List.Disjoint p.keys q.keys
  near : ∀ name l host posted watch, c.neighbourhood.loop? name = some l →
    l.engine.member.attachment = .attached host posted (some watch) →
    watch.unread c.neighbourhood.segment ≤ Watch.window

variable {c c' : Chronicle} {name other : String} {l l' : EventLoop Seat}
  {l? : Option (EventLoop Seat)} {host : Host} {posted : Array Nat} {watch? : Option Watch}

/-- The books say the same about a name. -/
structure Same (name : String) (c c' : Chronicle) : Prop where
  hosts : c'.hosts.lookup name = c.hosts.lookup name
  scopes : c'.scopes.lookup name = c.scopes.lookup name
  accepted : ∀ p, (name, p) ∈ c'.accepted ↔ (name, p) ∈ c.accepted

theorem Resident.frame (h : c.Resident name l host posted watch?) (h_same : Same name c c')
    (segment : Segment) : c'.Resident name (l.reseat segment) host posted watch? where
  host_eq := h_same.hosts.trans h.host_eq
  attends := h.attends.reseat segment
  scope_eq := h_same.scopes.trans h.scope_eq
  mem_posted := by
    -- what was accepted from an agent is in the books of both
    intro i
    rw [h.mem_posted]
    exact exists_congr fun p => and_congr_left fun _ => (h_same.accepted p).symm

/-- A move that concerns one name leaves the books accurate if they are accurate about that name,
and about what is posted. -/
theorem Accurate.turn (h : c.Accurate)
    (h_turned : Neighbourhood.Turned name l? c.neighbourhood c'.neighbourhood)
    (h_sound : c'.neighbourhood.segment.Sound)
    (h_count : c'.neighbourhood.segment.nextId = c'.count + 1)
    (h_order : c'.accepted.Pairwise fun x y => x.2.id < y.2.id)
    (h_postings : ∀ (i : Nat) (p : Posting), c'.neighbourhood.segment.postings[i]? = some p ↔
      p.id = i ∧ ∃ name, (name, p) ∈ c'.accepted)
    (h_others : ∀ other, other ≠ name → Same other c c')
    (h_self : ∀ l, l? = some l → ∃ host posted watch?, c'.Resident name l host posted watch?)
    (h_gone : l? = none → c'.neighbourhood.agent? name = none ∧ c'.hosts.lookup name = none ∧
      c'.scopes.lookup name = none ∧ ∀ p, (name, p) ∉ c'.accepted) : c'.Accurate where
  sound := h_sound
  count := h_count
  order := h_order
  postings := h_postings
  present := by
    intro other l h_loop
    -- the move concerns this name, or it finds its loop at another segment
    by_cases h_eq : other = name
    · subst h_eq
      rw [h_turned.self] at h_loop
      exact h_self l h_loop
    · rw [h_turned.loop? h_eq] at h_loop
      obtain ⟨l', h_loop', rfl⟩ := Option.map_eq_some_iff.mp h_loop
      obtain ⟨host, posted, watch?, h_resident⟩ := h.present other l' h_loop'
      exact ⟨host, posted, watch?, h_resident.frame (h_others other h_eq) _⟩
  absent := by
    intro other h_loop
    by_cases h_eq : other = name
    · subst h_eq
      rw [h_turned.self] at h_loop
      exact h_gone h_loop
    · rw [h_turned.loop? h_eq, Option.map_eq_none_iff] at h_loop
      obtain ⟨h_agent, h_host, h_scope, h_accepted⟩ := h.absent other h_loop
      have h_same := h_others other h_eq
      exact ⟨(h_turned.others other h_eq).trans h_agent, h_same.hosts.trans h_host,
        h_same.scopes.trans h_scope, fun p h_mem => h_accepted p ((h_same.accepted p).mp h_mem)⟩

/-- A move that concerns one name leaves the other loops up to date. -/
theorem UpToDate.turn (h : c.UpToDate)
    (h_turned : Neighbourhood.Turned name l? c.neighbourhood c'.neighbourhood)
    (h_later : c.neighbourhood.segment.Later c'.neighbourhood.segment)
    (h_times : c'.neighbourhood.segment.Unambiguous)
    (h_self : ∀ l, l? = some l → Tracked l.engine l.sweep) : c'.UpToDate where
  times := h_times
  tracked := by
    intro other l h_loop
    -- as above, the move concerns this name or it finds its loop at another segment
    by_cases h_eq : other = name
    · subst h_eq
      rw [h_turned.self] at h_loop
      exact h_self l h_loop
    · rw [h_turned.loop? h_eq] at h_loop
      obtain ⟨l', h_loop', rfl⟩ := Option.map_eq_some_iff.mp h_loop
      intro host posted watch h_attends
      -- it kept track of the segment as it was, and what has happened since is still to be read
      have h_segment := Neighbourhood.segment_of_loop? h_loop'
      obtain ⟨past, h_tracks⟩ := h.tracked other l' h_loop' host posted watch
        (h_attends.reseat l'.engine.segment)
      rw [← h_segment] at h_later
      exact ⟨past, h_tracks.reseat h_later⟩

/-! ### Moves that leave the books as they are -/

variable {n : Neighbourhood} {a : Agent Seat}

theorem Same.refl (name : String) (c : Chronicle) (n : Neighbourhood) :
    Same name c { c with neighbourhood := n } :=
  ⟨rfl, rfl, fun _ => Iff.rfl⟩

theorem Accurate.resident (h : c.Accurate) (h_agent : c.neighbourhood.agent? name = some a) :
    ∃ l host posted watch?, c.neighbourhood.loop? name = some l ∧
      (Neighbourhood.seated c.neighbourhood.segment a).loop? = some l ∧
      l.engine.segment = c.neighbourhood.segment ∧ c.Resident name l host posted watch? := by
  cases h_loop : c.neighbourhood.loop? name with
  | none =>
    -- the books say that nobody of this name is there
    rw [(h.absent name h_loop).1] at h_agent
    exact absurd h_agent (by simp)
  | some l =>
    obtain ⟨host, posted, watch?, h_resident⟩ := h.present name l h_loop
    -- the loop is that of the agent itself, seated at the segment
    refine ⟨l, host, posted, watch?, rfl, ?_, Neighbourhood.segment_of_loop? h_loop, h_resident⟩
    unfold Neighbourhood.loop? at h_loop
    rw [h_agent] at h_loop
    exact h_loop

/-- The loop of one name has changed, on a segment that is as before. -/
theorem Accurate.stay (h : c.Accurate)
    (h_turned : Neighbourhood.Turned name (some l') c.neighbourhood c'.neighbourhood)
    (h_segment : c'.neighbourhood.segment = c.neighbourhood.segment)
    (h_accepted : c'.accepted = c.accepted) (h_count : c'.count = c.count)
    (h_others : ∀ other, other ≠ name → Same other c c')
    (h_self : c'.Resident name l' host posted watch?) : c'.Accurate := by
  -- with the segment and the books as they were, all that is left is to say who is there
  refine h.turn h_turned ?_ ?_ ?_ ?_ h_others ?_ (fun h_none => absurd h_none (by simp))
  · rw [h_segment]
    exact h.sound
  · rw [h_segment, h_count]
    exact h.count
  · rw [h_accepted]
    exact h.order
  · rw [h_segment, h_accepted]
    exact h.postings
  · intro l'' h_eq
    obtain rfl := Option.some.inj h_eq
    exact ⟨host, posted, watch?, h_self⟩

/-- The loop of one name has changed and keeps track, on a segment that is as before. -/
theorem UpToDate.stay (h : c.UpToDate)
    (h_turned : Neighbourhood.Turned name (some l') c.neighbourhood c'.neighbourhood)
    (h_segment : c'.neighbourhood.segment = c.neighbourhood.segment)
    (h_self : Tracked l'.engine l'.sweep) : c'.UpToDate := by
  refine h.turn h_turned ?_ ?_ ?_
  · rw [h_segment]
    exact .refl _
  · rw [h_segment]
    exact h.times
  · intro l'' h_eq
    obtain rfl := Option.some.inj h_eq
    exact h_self

/-- The books stay as they are, and what they say of the loop is still true. -/
theorem Accurate.retain (h : c.Accurate) (h_resident : c.Resident name l host posted watch?)
    (h_turned : Neighbourhood.Turned name (some l') c.neighbourhood n)
    (h_segment : n.segment = c.neighbourhood.segment) {watch?' : Option Watch}
    (h_attends : Attends host posted watch?' l'.engine l'.sweep)
    (h_scope : watch?'.map (·.scope) = watch?.map (·.scope)) :
    Accurate { c with neighbourhood := n } :=
  h.stay h_turned h_segment rfl rfl (fun other _ => .refl other c n)
    ⟨h_resident.host_eq, h_attends, h_resident.scope_eq.trans h_scope.symm, h_resident.mem_posted⟩

/-- What a move preserves. -/
def Preserves (c c' : Chronicle) : Prop :=
  c'.Accurate ∧ (c.UpToDate → c.Orderly → c'.Orderly → c'.UpToDate)

theorem Accurate.preserves_refl (h : c.Accurate) : c.Preserves c :=
  ⟨h, fun h_upToDate _ _ => h_upToDate⟩

theorem preserves_poll (h : c.Accurate) (name : String) : c.Preserves (c.advance (.poll name)) := by
  cases h_agent : c.neighbourhood.agent? name with
  | none =>
    -- a move that concerns nobody is no move
    have h_eq : c.advance (.poll name) = c := by
      simp only [advance, Neighbourhood.visit_of_none h_agent]
    rw [h_eq]
    exact h.preserves_refl
  | some a =>
    obtain ⟨l, host, posted, watch?, h_loop, h_seated, h_segment, h_resident⟩ := h.resident h_agent
    obtain ⟨l', h_loop', h_cases⟩ := Agent.poll_spec h_seated
    obtain ⟨n, h_visit, h_left, h_turned, -⟩ :=
      Neighbourhood.turned_visit (fun a => a.poll.swap) h_agent rfl h_loop'
    have h_eq : c.advance (.poll name) = { c with neighbourhood := n } := by
      simp only [advance, h_visit]
    rw [h_eq]
    rcases h_cases with rfl | rfl
    · -- nobody runs the loop
      have h_same := h_left.trans h_segment
      refine ⟨h.retain h_resident h_turned h_same h_resident.attends rfl, fun h_up _ _ => ?_⟩
      exact h_up.stay h_turned h_same (h_up.tracked name l' h_loop)
    · -- where the loop is run, it attends as before, and may have begun to follow its watch further
      obtain ⟨h_poll, watch?', h_attends, h_scope⟩ := h_resident.attends.poll
      have h_same := h_left.trans (h_poll.trans h_segment)
      refine ⟨h.retain h_resident h_turned h_same h_attends h_scope, fun h_up h_orderly _ => ?_⟩
      refine h_up.stay h_turned h_same ?_
      cases watch? with
      | none =>
        -- whoever does not watch has nothing to keep track of
        rw [Option.map_none, Option.map_eq_none_iff] at h_scope
        subst h_scope
        exact h_attends.tracked_of_none
      | some watch =>
        have h_near := h_orderly.near name l host posted watch h_loop h_resident.attends.attachment
        obtain ⟨past, h_tracks⟩ := h_up.tracked name l h_loop host posted watch h_resident.attends
        -- whoever does reads on, or takes in the end of a resolution
        have h_sound := h.sound
        have h_times := h_up.times
        rw [← h_segment] at h_sound h_times h_near
        obtain ⟨past', watch', h_attends', -, -, h_tracks', -⟩ :=
          h_tracks.poll h_resident.attends h_sound h_times h_near
        exact h_tracks'.tracked h_attends'

/-! ### Coming and asking -/

theorem preserves_join (h : c.Accurate) (name : String) (host : Host) :
    c.Preserves (c.advance (.join name host)) := by
  cases h_agent : c.neighbourhood.agent? name with
  | some a =>
    have h_eq : c.advance (.join name host) = c := by
      simp only [advance, h_agent]
    rw [h_eq]
    exact h.preserves_refl
  | none =>
    -- the name is new, so the books say nothing of it
    have h_loop : c.neighbourhood.loop? name = none := by
      unfold Neighbourhood.loop?
      rw [h_agent]
      rfl
    obtain ⟨-, h_host, h_scope, h_accepted⟩ := h.absent name h_loop
    generalize h_seat :
      ({ segment := c.neighbourhood.segment, member := .ofHost host } : Seat) = seat
    -- whoever joins brings its own seat, and does not watch yet
    have h_turned : Neighbourhood.Turned name
        (some ((EventLoop.ofEngine seat).reseat c.neighbourhood.segment)) c.neighbourhood _ :=
      Neighbourhood.turned_join h_agent (.resting seat)
    have h_attends : Attends host #[] none seat .fresh := by
      rw [← h_seat]
      exact .fresh host _
    generalize h_joined : c.neighbourhood.join name (.resting seat) = n at h_turned
    have h_segment : n.segment = c.neighbourhood.segment := by
      rw [← h_joined]
      rfl
    have h_eq : c.advance (.join name host) =
        { c with neighbourhood := n, hosts := c.hosts ++ [(name, host)] } := by
      simp only [advance, h_agent, h_seat, h_joined]
    rw [h_eq]
    -- the books get one entry more, under the new name
    have h_others : ∀ other, other ≠ name →
        Same other c { c with neighbourhood := n, hosts := c.hosts ++ [(name, host)] } :=
      fun other h_ne => ⟨(Neighbourhood.lookup_concat h_host host).trans (if_neg h_ne), rfl,
        fun _ => Iff.rfl⟩
    have h_resident : Resident { c with neighbourhood := n, hosts := c.hosts ++ [(name, host)] }
        name ((EventLoop.ofEngine seat).reseat c.neighbourhood.segment) host #[] none := by
      refine ⟨(Neighbourhood.lookup_concat h_host host).trans (if_pos rfl), h_attends.reseat _,
        h_scope, fun i => ?_⟩
      simp [h_accepted]
    refine ⟨h.stay h_turned h_segment rfl rfl h_others h_resident, fun h_up _ _ => ?_⟩
    exact h_up.stay h_turned h_segment (h_attends.reseat _).tracked_of_none

theorem preserves_ask (h : c.Accurate) (name : String) (ticket : Nat) (scope : IpScope) :
    c.Preserves (c.advance (.ask name ticket scope)) := by
  cases h_agent : c.neighbourhood.agent? name with
  | none =>
    have h_eq : c.advance (.ask name ticket scope) = c := by
      simp only [advance, Neighbourhood.visit_of_none h_agent]
    rw [h_eq]
    exact h.preserves_refl
  | some a =>
    obtain ⟨l, host, posted, watch?, h_loop, h_seated, h_segment, h_resident⟩ := h.resident h_agent
    have h_scope := h_resident.scope_eq
    cases watch? with
    -- the first query: the loop begins to watch, and its scope is entered
    | none =>
      obtain ⟨l', effects, h_ask, h_same, h_queue, h_sweep, h_attends⟩ :=
        Agent.ask_none h_seated h_resident.attends ticket scope
      obtain ⟨n, h_visit, h_left, h_turned, -⟩ := Neighbourhood.turned_visit
        (fun a => (a.ask ticket scope).swap) h_agent (congrArg Prod.swap h_ask) rfl
      have h_eq : c.advance (.ask name ticket scope) =
          { c with neighbourhood := n, scopes := c.scopes ++ [(name, scope)] } := by
        simp only [advance, h_visit, h_scope, Option.map_none]
      have h_same' := h_left.trans (h_same.trans h_segment)
      rw [h_eq]
      -- as before, what is entered under one name does not concern the others
      have h_others : ∀ other, other ≠ name →
          Same other c { c with neighbourhood := n, scopes := c.scopes ++ [(name, scope)] } :=
        fun other h_ne => ⟨rfl, (Neighbourhood.lookup_concat h_scope scope).trans (if_neg h_ne),
          fun _ => Iff.rfl⟩
      have h_self : Resident { c with neighbourhood := n, scopes := c.scopes ++ [(name, scope)] }
          name l' host posted (some (Watch.start serverType scope l.engine.segment).1) :=
        ⟨h_resident.host_eq, h_attends,
          (Neighbourhood.lookup_concat h_scope scope).trans (if_pos rfl), h_resident.mem_posted⟩
      refine ⟨h.stay h_turned h_same' rfl rfl h_others h_self, fun h_up _ _ => ?_⟩
      -- the watch that starts knows all that has happened
      have h_sound := h.sound
      have h_distinct := h_up.times.distinct h_sound
      rw [← h_segment] at h_sound h_distinct
      have h_tracks := Tracks.start h_resident.attends h_sound h_distinct scope h_same h_queue
      rw [← h_sweep] at h_tracks
      exact h_up.stay h_turned h_same' (h_tracks.tracked h_attends)
    | some watch =>
      -- a later query neither watches anew nor enters anything
      obtain ⟨l', effects, h_ask, h_engine, h_sweep⟩ :=
        Agent.ask_some h_seated h_resident.attends ticket scope
      obtain ⟨n, h_visit, h_left, h_turned, -⟩ := Neighbourhood.turned_visit
        (fun a => (a.ask ticket scope).swap) h_agent (congrArg Prod.swap h_ask) rfl
      have h_eq : c.advance (.ask name ticket scope) = { c with neighbourhood := n } := by
        simp only [advance, h_visit, h_scope, Option.map_some]
      rw [h_engine] at h_left
      have h_same := h_left.trans h_segment
      have h_attends := h_resident.attends
      have h_tracked : c.UpToDate → Tracked l.engine l.sweep :=
        fun h_up => h_up.tracked name l h_loop
      rw [← h_engine, ← h_sweep] at h_attends h_tracked
      rw [h_eq]
      exact ⟨h.retain h_resident h_turned h_same h_attends rfl,
        fun h_up _ _ => h_up.stay h_turned h_same (h_tracked h_up)⟩

/-! ### Registering -/

theorem Accurate.id_le (h : c.Accurate) {p : Posting} (h_mem : (name, p) ∈ c.accepted) :
    p.id < c.count + 1 := by
  rw [← h.count]
  exact h.sound.id_lt ((h.postings p.id p).mpr ⟨rfl, name, h_mem⟩)

/-- A registration of an agent is accepted. -/
theorem Accurate.post (h : c.Accurate) {tag : String} {number : UInt16} {scope : IpScope}
    (h_resident : c.Resident name l host posted watch?)
    (h_turned : Neighbourhood.Turned name (some l') c.neighbourhood n)
    (h_segment : n.segment =
      (c.neighbourhood.segment.post host (.ofServer host.name tag number scope)).1)
    (h_attends : Attends host (posted.push (c.count + 1)) watch? l'.engine l'.sweep) :
    Accurate { c with
      neighbourhood := n
      accepted := c.accepted ++ [(name, c.posting host tag number scope)]
      count := c.count + 1 } := by
  -- the postings of the segment are those of before, and the one that is entered
  have h_postings : ∀ (i : Nat) (p : Posting), n.segment.postings[i]? = some p ↔
      c.count + 1 = i ∧ c.posting host tag number scope = p ∨
        c.neighbourhood.segment.postings[i]? = some p := by
    intro i p
    rw [h_segment, h.sound.getElem?_post, h.count]
    rfl
  refine h.turn h_turned ?_ ?_ ?_ ?_ ?_ ?_ (fun h_none => absurd h_none (by simp))
  · rw [h_segment]
    exact h.sound.post host _
  · rw [h_segment]
    exact congrArg (· + 1) h.count
  · -- the number that is given is above all that were given before
    refine List.pairwise_append.mpr ⟨h.order, List.pairwise_singleton _ _, ?_⟩
    rintro ⟨other, p⟩ h_mem x h_last
    rw [List.mem_singleton.mp h_last]
    exact h.id_le h_mem
  · -- both in the segment and in the books there is one more
    intro i p
    rw [h_postings, h.postings]
    constructor
    · rintro (⟨rfl, rfl⟩ | ⟨h_id, other, h_mem⟩)
      · exact ⟨rfl, name, List.mem_append_right _ (List.mem_singleton_self _)⟩
      · exact ⟨h_id, other, List.mem_append_left _ h_mem⟩
    · rintro ⟨h_id, other, h_mem⟩
      rcases List.mem_append.mp h_mem with h_mem | h_mem
      · exact .inr ⟨h_id, other, h_mem⟩
      · obtain ⟨-, rfl⟩ := Prod.mk.inj (List.mem_singleton.mp h_mem)
        exact .inl ⟨h_id, rfl⟩
  · intro other h_ne
    refine ⟨rfl, rfl, fun p => ?_⟩
    simp [h_ne]
  · -- the agent has posted what was accepted from it, now as well as before
    intro l h_some
    obtain rfl := Option.some.inj h_some
    refine ⟨host, _, watch?, h_resident.host_eq, h_attends, h_resident.scope_eq, fun i => ?_⟩
    rw [Array.mem_push, h_resident.mem_posted]
    simp only [List.mem_append, List.mem_singleton, Prod.mk.injEq, true_and]
    constructor
    · rintro (⟨p, h_mem, h_id⟩ | rfl)
      · exact ⟨p, .inl h_mem, h_id⟩
      · exact ⟨_, .inr rfl, rfl⟩
    · rintro ⟨p, h_mem | rfl, h_id⟩
      · exact .inl ⟨p, h_mem, h_id⟩
      · exact .inr h_id.symm

/-- What is posted now is news to the loops that watch. -/
theorem UpToDate.post (h : c.UpToDate) (h_sound : c.neighbourhood.segment.Sound)
    (h_loop : c.neighbourhood.loop? name = some l)
    (h_attends : Attends host posted watch? l.engine l.sweep)
    (h_turned : Neighbourhood.Turned name (some l') c.neighbourhood c'.neighbourhood)
    {ad : Advertisement} (h_post : l'.engine.segment = (l.engine.segment.post host ad).1)
    (h_segment : c'.neighbourhood.segment = l'.engine.segment) (h_orderly : c'.Orderly)
    (h_queue : l'.engine.member.queue = l.engine.member.queue ++ [.established])
    (h_next : l'.engine.member.nextResolution = l.engine.member.nextResolution)
    (h_sweep : l'.sweep = l.sweep) {posted' : Array Nat}
    (h_attends' : Attends host posted' watch? l'.engine l'.sweep) : c'.UpToDate := by
  have h_here := Neighbourhood.segment_of_loop? h_loop
  have h_posted : c'.neighbourhood.segment = (c.neighbourhood.segment.post host ad).1 := by
    rw [h_segment, h_post, h_here]
  have h_distinct : Distinct c'.neighbourhood.segment.postings :=
    Segment.distinct_iff.mpr h_orderly.distinct
  rw [h_posted] at h_distinct
  refine h.turn h_turned ?_ ?_ ?_
  · -- what is posted comes after all that has happened
    rw [h_posted]
    exact h_sound.later_post host _
  · rw [h_posted]
    exact h.times.post h_sound h_distinct
  · intro l'' h_some
    obtain rfl := Option.some.inj h_some
    -- the one who registers may watch as well, and will read of its own posting
    cases watch? with
    | none => exact h_attends'.tracked_of_none
    | some watch =>
      obtain ⟨past, h_tracks⟩ := h.tracked name l h_loop host posted watch h_attends
      rw [← h_here] at h_sound
      have h_tracks' := h_tracks.publish h_sound h_post h_queue h_next
      rw [← h_sweep] at h_tracks'
      exact h_tracks'.tracked h_attends'

theorem preserves_register (h : c.Accurate) (name tag port : String) (scope : IpScope) :
    c.Preserves (c.advance (.register name tag port scope)) := by
  cases h_agent : c.neighbourhood.agent? name with
  | none =>
    have h_eq : c.advance (.register name tag port scope) = c := by
      simp only [advance, Neighbourhood.visit_of_none h_agent, enter]
    rw [h_eq]
    exact h.preserves_refl
  | some a =>
    obtain ⟨l, host, posted, watch?, h_loop, h_seated, h_segment, h_resident⟩ := h.resident h_agent
    cases h_port : Text.parsePort port with
    | error fault =>
      -- the port is noted, and nothing is entered
      have h_register := Agent.register_fault h_port tag scope
        (Neighbourhood.seated c.neighbourhood.segment a)
      obtain ⟨n, h_visit, h_left, h_turned, -⟩ := Neighbourhood.turned_visit
        (fun a => (a.register tag port scope).swap) h_agent (congrArg Prod.swap h_register) h_seated
      have h_eq : c.advance (.register name tag port scope) = { c with neighbourhood := n } := by
        simp only [advance, h_visit, enter]
      have h_same := h_left.trans h_segment
      rw [h_eq]
      refine ⟨h.retain h_resident h_turned h_same h_resident.attends rfl, fun h_up _ _ => ?_⟩
      exact h_up.stay h_turned h_same (h_up.tracked name l h_loop)
    -- the port is good, and the provider posts the registration under the next number
    | ok number =>
      obtain ⟨a', l', h_register, h_loop', h_post, h_queue, h_next, h_sweep, h_attends⟩ :=
        Agent.register_spec h_seated h_resident.attends h_port tag scope
      obtain ⟨n, h_visit, h_left, h_turned, -⟩ := Neighbourhood.turned_visit
        (fun a => (a.register tag port scope).swap) h_agent (congrArg Prod.swap h_register) h_loop'
      have h_eq : c.advance (.register name tag port scope) =
          { c with
            neighbourhood := n
            accepted := c.accepted ++ [(name, c.posting host tag number scope)]
            count := c.count + 1 } := by
        simp only [advance, h_visit, enter, h_resident.host_eq, h_port, posting]
      have h_posted := h_left.trans h_post
      rw [h_segment] at h_posted
      rw [h_segment, h.count] at h_attends
      rw [h_eq]
      exact ⟨h.post h_resident h_turned h_posted h_attends, fun h_up _ h_orderly =>
        h_up.post h.sound h_loop h_resident.attends h_turned h_post h_left h_orderly h_queue h_next
          h_sweep h_attends⟩

/-! ### Leaving -/

/-- No two registrations that were accepted have the same number. -/
theorem Accurate.eq_of_id (h : c.Accurate) {x y : String × Posting} (hx : x ∈ c.accepted)
    (hy : y ∈ c.accepted) (h_id : x.2.id = y.2.id) : x = y := by
  have : Std.Symm fun x y : String × Posting => x.2.id ≠ y.2.id := ⟨fun _ _ => Ne.symm⟩
  have h_distinct : c.accepted.Pairwise fun x y => x.2.id ≠ y.2.id := h.order.imp Nat.ne_of_lt
  exact Classical.byContradiction fun h_ne => h_distinct.forall hx hy h_ne h_id

/-- Whoever leaves has withdrawn what was accepted from it. -/
theorem Accurate.dismiss (h : c.Accurate) (name : String) :
    ∃ posted : Array Nat, (c.neighbourhood.dismiss name).segment =
        posted.foldl (fun segment id => segment.withdraw id) c.neighbourhood.segment ∧
      Neighbourhood.Turned name none c.neighbourhood (c.neighbourhood.dismiss name) ∧
      ∀ i, i ∈ posted ↔ ∃ p, (name, p) ∈ c.accepted ∧ p.id = i := by
  cases h_loop : c.neighbourhood.loop? name with
  | none =>
    -- somebody who is not there has posted nothing
    obtain ⟨h_agent, -, -, h_accepted⟩ := h.absent name h_loop
    have h_dismiss : c.neighbourhood.dismiss name = c.neighbourhood := by
      unfold Neighbourhood.dismiss
      rw [h_agent]
    rw [h_dismiss]
    refine ⟨#[], rfl, ⟨h_loop, fun _ _ => rfl⟩, fun i => ?_⟩
    simp [h_accepted]
  | some l =>
    -- whoever leaves withdraws what it has posted, and that is what was accepted from it
    obtain ⟨host, posted, watch?, h_resident⟩ := h.present name l h_loop
    obtain ⟨h_left, h_turned⟩ :=
      Neighbourhood.turned_dismiss h_loop h_resident.attends.attachment
    rw [Neighbourhood.segment_of_loop? h_loop] at h_left
    exact ⟨posted, h_left, h_turned, h_resident.mem_posted⟩

theorem preserves_dismiss (h : c.Accurate) (name : String) :
    c.Preserves (c.advance (.dismiss name)) := by
  obtain ⟨posted, h_segment, h_turned, h_posted⟩ := h.dismiss name
  -- after the move, nothing is left under the name
  have h_agent : (c.neighbourhood.dismiss name).agent? name = none := by
    unfold Neighbourhood.dismiss
    split
    · next h_none => exact h_none
    · exact (Neighbourhood.lookup_filter_ne c.neighbourhood.agents).trans (if_pos rfl)
  -- and the registrations that are left in the books are those of the others
  have h_accepted : ∀ other p, (other, p) ∈ (c.advance (.dismiss name)).accepted ↔
      (other, p) ∈ c.accepted ∧ other ≠ name := by
    intro other p
    change (other, p) ∈ c.accepted.filter (·.1 ≠ name) ↔ _
    simp
  -- withdrawing one registration keeps each of these, and so does withdrawing all of them
  refine ⟨h.turn h_turned ?_ ?_ (h.order.filter _) ?_ ?_ ?_ ?_, fun h_up _ _ => ?_⟩
  · change (c.neighbourhood.dismiss name).segment.Sound
    rw [h_segment]
    exact Segment.foldl_withdraw h.sound (fun s id h_sound => h_sound.withdraw id) posted
  · change (c.neighbourhood.dismiss name).segment.nextId = c.count + 1
    rw [h_segment]
    exact Segment.foldl_withdraw (P := fun s => s.nextId = c.count + 1) h.count
      (fun s id h_next => (Segment.nextId_withdraw id s).trans h_next) posted
  · intro i p
    change (c.neighbourhood.dismiss name).segment.postings[i]? = some p ↔ _
    simp only [h_segment, Segment.getElem?_foldl_withdraw, h_accepted]
    by_cases h_mem : i ∈ posted
    · -- the registration of this number is that of the one who leaves
      obtain ⟨q, hq, h_id⟩ := (h_posted i).mp h_mem
      rw [if_pos h_mem]
      refine ⟨fun h_some => absurd h_some (by simp), ?_⟩
      rintro ⟨rfl, other, hp, h_ne⟩
      exact absurd (congrArg Prod.fst (h.eq_of_id hp hq h_id.symm)) h_ne
    · rw [if_neg h_mem, h.postings]
      refine and_congr_right fun h_id => exists_congr fun other => ?_
      refine ⟨fun hp => ⟨hp, ?_⟩, And.left⟩
      rintro rfl
      exact h_mem ((h_posted i).mpr ⟨p, hp, h_id⟩)
  · intro other h_ne
    exact ⟨(Neighbourhood.lookup_filter_ne c.hosts).trans (if_neg h_ne),
      (Neighbourhood.lookup_filter_ne c.scopes).trans (if_neg h_ne),
      fun p => (h_accepted other p).trans (and_iff_left h_ne)⟩
  · exact fun l h_some => absurd h_some (by simp)
  · exact fun _ => ⟨h_agent, (Neighbourhood.lookup_filter_ne c.hosts).trans (if_pos rfl),
      (Neighbourhood.lookup_filter_ne c.scopes).trans (if_pos rfl),
      fun p h_mem => ((h_accepted name p).mp h_mem).2 rfl⟩
  · -- whoever is left still keeps track, as withdrawals come after all that has happened
    have h_times : (c.neighbourhood.dismiss name).segment.Sound ∧
        (c.neighbourhood.dismiss name).segment.Unambiguous := by
      rw [h_segment]
      exact Segment.foldl_withdraw (P := fun s => s.Sound ∧ s.Unambiguous) ⟨h.sound, h_up.times⟩
        (fun s id h_both => ⟨h_both.1.withdraw id, h_both.2.withdraw h_both.1 id⟩) posted
    refine h_up.turn h_turned ?_ h_times.2 (fun l h_some => absurd h_some (by simp))
    change c.neighbourhood.segment.Later (c.neighbourhood.dismiss name).segment
    rw [h_segment]
    exact Segment.foldl_withdraw (.refl _)
      (fun s id h_later => h_later.trans (s.later_withdraw id)) posted

/-! ### Whole courses of moves -/

/-- **One move.** -/
theorem Accurate.advance (h : c.Accurate) (move : Move) : c.Preserves (c.advance move) := by
  cases move with
  | join name host => exact preserves_join h name host
  | register name tag port scope => exact preserves_register h name tag port scope
  | ask name ticket scope => exact preserves_ask h name ticket scope
  | poll name => exact preserves_poll h name
  | dismiss name => exact preserves_dismiss h name

theorem accurate_quiet : quiet.Accurate where
  sound := Segment.sound_quiet
  count := rfl
  order := .nil
  postings := by
    intro i p
    simp [quiet, Neighbourhood.empty, Segment.quiet]
  present := by
    intro name l h_loop
    exact absurd h_loop (by simp [quiet, Neighbourhood.empty, Neighbourhood.loop?,
      Neighbourhood.agent?])
  absent := by
    intro name _
    exact ⟨rfl, rfl, rfl, fun p => List.not_mem_nil⟩

theorem upToDate_quiet : quiet.UpToDate where
  times := Segment.unambiguous_quiet
  tracked := by
    intro name l h_loop
    exact absurd h_loop (by simp [quiet, Neighbourhood.empty, Neighbourhood.loop?,
      Neighbourhood.agent?])

/-- **The books agree with the neighbourhood**, whatever happens. -/
theorem accurate_after (moves : List Move) : (after moves).Accurate := by
  induction moves using List.reverseRecOn with
  | nil => exact accurate_quiet
  | append_singleton moves move ih =>
    rw [after_concat]
    exact (ih.advance move).1

/-- **The loops keep track of the segment**, as long as no two postings have the same key and no
watch falls too far behind. -/
theorem upToDate_after {moves : List Move}
    (h_orderly : ∀ past, past <+: moves → (after past).Orderly) : (after moves).UpToDate := by
  induction moves using List.reverseRecOn with
  | nil => exact upToDate_quiet
  | append_singleton moves move ih =>
    -- every shorter course is orderly, too
    have h_before : moves <+: moves ++ [move] := List.prefix_append _ _
    have h_up := ih fun past h_past => h_orderly past (h_past.trans h_before)
    have h_after := h_orderly _ List.prefix_rfl
    rw [after_concat] at h_after ⊢
    exact ((accurate_after moves).advance move).2 h_up (h_orderly _ h_before) h_after

end Chronicle

end ServiceDiscovery
