import ServiceDiscovery.Proofs.Multicast.Aging
import ServiceDiscovery.Proofs.Responder.Deeds
import ServiceDiscovery.Proofs.Responder.Waking

/-!
# Silent instances

While a responder browses, its table goes through the responses that the responder takes in and
through the questions that it asks (`Deed.tableInputs`), one at each deed, and through nothing else
(`Responder.Follows`).  Peers age with the deed that puts the next question in line, and with no
other; and a round of work does not end before all that is in line has been handed to the sockets
(`Responder.work_flushes`).

So how many questions an instance has let pass can be told from the deeds, and it is dropped when it
has let pass exactly as many as are tolerated (`Responder.silence_counts`).
-/

namespace ServiceDiscovery
namespace Responder

open Dns (Name Packet Message)
open PeerTable (Tolerating CountsTo HeardBefore empty unanswered said? presence?)

variable {r r' : Responder} {history : List PeerTable.Input}

/-! ### What the table goes through -/

/-- What the table goes through as it is time to ask. -/
def asking (r : Responder) : List PeerTable.Input :=
  match r.browsing with
  | some b => if b.queryAt ≤ r.machine.now then [.asks r.settings.tolerated] else []
  | none => []

/-- What the table goes through as a packet is received: it takes in a response that is whole, if it
came over a family on which is browsed. -/
def hearing (octets : Packet) (source : SocketAddress) (r : Responder) : List PeerTable.Input :=
  match Message.decode? (octets.take receiveLimit) with
  | some m =>
    if m.truncated then []
    else if m.isResponse && r.browsing.any (·.scope.includes source.scope) then
      [.hears m.records source]
    else []
  | none => []

/-- What the table goes through at a deed. -/
def Deed.tableInputs : Deed → Responder → List PeerTable.Input
  | ask, r => r.asking
  | receive octets source, r => r.hearing octets source
  | _, _ => []

/-- Asking puts the question in line and lets the peers age, or it is not time to ask. -/
theorem asking_cases (r : Responder) :
    (r.asking = [] ∧ r.queryDue r.machine.now = r) ∨
      ∃ b, r.browsing = some b ∧ b.queryAt ≤ r.machine.now ∧
        r.asking = [.asks r.settings.tolerated] ∧
        r.queryDue r.machine.now = { r with
          browsing := some { b with
            table := (b.table.age r.settings.tolerated).1
            queryAt := r.machine.now + r.settings.queryEvery }
          events := r.events ++ (b.table.age r.settings.tolerated).2
          outgoing := r.outgoing ++ [(b.query, .groups b.scope)] } := by
  unfold asking queryDue
  cases hb : r.browsing with
  | none => exact .inl ⟨rfl, rfl⟩
  | some b =>
    -- the query is due, or its time has not come yet
    by_cases h_due : b.queryAt ≤ r.machine.now
    · exact .inr ⟨b, rfl, h_due, if_pos h_due, if_pos h_due⟩
    · exact .inl ⟨if_neg h_due, if_neg h_due⟩

/-- A response changes the table if it came over a family on which is browsed. -/
theorem table?_takeIn (m : Message) (source : SocketAddress) (r : Responder) :
    (r.browsing.any (·.scope.includes source.scope) = false ∧
        (r.takeIn m source).table? = r.table?) ∨
      ∃ t, r.browsing.any (·.scope.includes source.scope) = true ∧ r.table? = some t ∧
        (r.takeIn m source).table? = some (t.takeIn m.records source).1 := by
  -- noting the claims leaves what is browsed for
  have h_claims : (r.noteClaims m).browsing = r.browsing := rfl
  simp only [takeIn, h_claims]
  cases hb : r.browsing with
  | none => exact .inl ⟨rfl, by rw [table?, table?, h_claims]⟩
  | some b =>
    cases h_scope : b.scope.includes source.scope with
    | false => exact .inl ⟨h_scope, by simp [h_scope, table?, h_claims]⟩
    | true =>
      refine .inr ⟨b.table, h_scope, table?_of_browsing hb, ?_⟩
      simp [h_scope, table?, completeKnown]

/-- Receiving takes a response into the table, or does not touch the table. -/
theorem hearing_cases (octets : Packet) (source : SocketAddress) (r : Responder) :
    (r.hearing octets source = [] ∧ (r.receive octets source).table? = r.table?) ∨
      ∃ (m : Message) (t : PeerTable), r.table? = some t ∧
        r.hearing octets source = [.hears m.records source] ∧
        (r.receive octets source).table? = some (t.takeIn m.records source).1 := by
  unfold hearing receive
  cases Message.decode? (octets.take receiveLimit) with
  | none => exact .inl ⟨rfl, rfl⟩
  | some m =>
    dsimp only
    -- a packet that was cut short, or that asks, is not for the table
    by_cases h_whole : m.truncated = true
    · exact .inl ⟨if_pos h_whole, by rw [if_pos h_whole]⟩
    · rw [if_neg h_whole, if_neg h_whole]
      cases m.isResponse with
      | false => exact .inl ⟨rfl, rfl⟩
      | true =>
        -- whether the table hears it depends on the scope that is browsed
        obtain ⟨h_scope, h_same⟩ | ⟨t, h_scope, ht, h_next⟩ := table?_takeIn m source r
        · exact .inl ⟨by rw [h_scope]; rfl, h_same⟩
        · exact .inr ⟨m, t, ht, by rw [h_scope]; rfl, h_next⟩

/-- From one responder to another the table goes through something; browsing may begin, with an
empty table. -/
structure Passes (inputs : List PeerTable.Input) (r r' : Responder) : Prop where
  settings : r'.settings = r.settings
  table : ∀ t, r.table? = some t → r'.table? = some (t.after inputs).1
  idle : r.table? = none → inputs = [] ∧ ∀ t, r'.table? = some t → t = empty t.type t.typeText

namespace Passes

theorem of_eq (hs : r'.settings = r.settings) (ht : r'.table? = r.table?) : Passes [] r r' where
  settings := hs
  table _ h := ht.trans h
  idle h_none := ⟨rfl, fun _ h => absurd (h_none.symm.trans (ht.symm.trans h)) (by simp)⟩

theorem single {input : PeerTable.Input} {t : PeerTable} (hs : r'.settings = r.settings)
    (ht : r.table? = some t) (ht' : r'.table? = some (t.step input).1) : Passes [input] r r' where
  settings := hs
  table t₀ h := by
    obtain rfl : t = t₀ := Option.some.inj (ht.symm.trans h)
    exact ht'
  idle h_none := absurd (h_none.symm.trans ht) (by simp)

theorem queryDue (r : Responder) : Passes r.asking r (r.queryDue r.machine.now) := by
  obtain ⟨h_none, h_eq⟩ | ⟨b, hb, -, h_asks, h_eq⟩ := asking_cases r
  · rw [h_none, h_eq]
    exact of_eq rfl rfl
  · rw [h_asks, h_eq]
    exact single rfl (table?_of_browsing hb) rfl

theorem receive (octets : Packet) (source : SocketAddress) (r : Responder) :
    Passes (r.hearing octets source) r (r.receive octets source) := by
  have hs := settings_receive octets source r
  obtain ⟨h_none, h_same⟩ | ⟨m, t, ht, h_hears, ht'⟩ := hearing_cases octets source r
  · -- the table has not heard the packet, and is the same
    rw [h_none]
    exact of_eq hs h_same
  · rw [h_hears]
    exact single hs ht ht'

theorem browse (type : String) (scope : IpScope) (r : Responder) :
    Passes [] r (r.browse type scope).2 := by
  obtain ⟨refusal, h_eq⟩ | ⟨b, -, hb, h_begin, h_eq⟩ := browse_cases type scope r <;> rw [h_eq]
  · exact of_eq rfl rfl
  · -- a new browse has an empty table, which has not heard or asked anything yet
    have h_idle : r.table? = none := by rw [table?, hb]; rfl
    refine ⟨rfl, fun t ht => absurd (h_idle.symm.trans ht) (by simp), fun _ => ⟨rfl, fun t ht => ?_⟩⟩
    obtain rfl : b.table = t := Option.some.inj ht
    rw [table_beginBrowsing h_begin]
    rfl

theorem attach (r : Responder) : Passes [] r (r.attach.toOption.getD r) := by
  cases ha : r.attach with
  | error fault => exact of_eq rfl rfl
  | ok r' =>
    obtain ⟨t, -, rfl⟩ | ⟨t, -, rfl⟩ := attach_cases ha <;> exact of_eq rfl rfl

theorem settleDue (r : Responder) : Passes [] r (r.settleDue r.machine.now) := by
  obtain h_eq | ⟨b, hb, h_eq⟩ := settleDue_cases r.machine.now r <;> rw [h_eq]
  · exact of_eq rfl rfl
  · exact of_eq rfl (table?_of_browsing hb).symm

/-- The table goes through what is noted at the deed. -/
theorem act (d : Deed) (r : Responder) : Passes (d.tableInputs r) r (d.act r) := by
  cases d with
  | ask => exact queryDue r
  | receive octets source => exact receive octets source r
  | browse type scope => exact browse type scope r
  | attach => exact attach r
  | settle => exact settleDue r
  | announce =>
    -- an announcement reads neither the table nor the settings
    obtain ⟨-, h_browsing, h_settings⟩ := announceDue_leaves r.machine.now r
    refine of_eq h_settings ?_
    exact congrArg (Option.map (·.table)) h_browsing
  | publish ad =>
    show Passes [] r (r.publish ad).2
    -- a request that touches no table, refused or accepted
    obtain ⟨refusal, h_eq⟩ | ⟨host, service, -, -, -, h_eq⟩ := publish_cases ad r <;> rw [h_eq] <;>
      exact of_eq rfl rfl
  | resolve k q =>
    show Passes [] r (r.resolve k q).2
    obtain ⟨_, h_eq⟩ | ⟨_, h_eq⟩ | ⟨b, -, -, ⟨c, -, h_eq⟩ | ⟨packet, -, -, h_eq⟩⟩ :=
      resolve_cases k q r <;> rw [h_eq] <;> exact of_eq rfl rfl
  | send count =>
    show Passes [] r (r.flushSome count).2
    obtain h_eq | ⟨t, -, h_eq⟩ := flushSome_cases count r <;> rw [h_eq] <;> exact of_eq rfl rfl
  | release id => exact of_eq rfl rfl
  | report => exact of_eq rfl rfl
  | machine m => exact of_eq rfl rfl
  | expire => exact of_eq rfl rfl
  | fail => exact of_eq rfl rfl

end Passes

/-- Only asking is noted as such, with the deed that puts the question in line; and as many as the
settings say are tolerated. -/
theorem asks_mem_tableInputs {d : Deed} {n : UInt8} (h : .asks n ∈ d.tableInputs r) :
    d = .ask ∧ n = r.settings.tolerated ∧ ∃ b, r.browsing = some b ∧ b.queryAt ≤ r.machine.now ∧
      (d.act r).outgoing = r.outgoing ++ [(b.query, .groups b.scope)] ∧
      (d.act r).table? = some (b.table.age n).1 ∧
      (d.act r).events = r.events ++ (b.table.age n).2 := by
  cases d with
  | ask =>
    change _ ∈ r.asking at h
    obtain ⟨h_none, -⟩ | ⟨b, hb, h_due, h_asks, h_eq⟩ := asking_cases r
    · -- the query was not due
      exact absurd (h_none ▸ h) List.not_mem_nil
    · obtain rfl := PeerTable.Input.asks.inj (List.mem_singleton.mp (h_asks ▸ h))
      refine ⟨rfl, rfl, b, hb, h_due, ?_⟩
      rw [Deed.act, h_eq]
      exact ⟨rfl, rfl, rfl⟩
  -- what is heard is no query
  | receive octets source =>
    change _ ∈ r.hearing octets source at h
    obtain ⟨h_none, -⟩ | ⟨m, t, -, h_hears, -⟩ := hearing_cases octets source r
    · exact absurd (h_none ▸ h) List.not_mem_nil
    · exact absurd (List.mem_singleton.mp (h_hears ▸ h)) (by simp)
  | _ => exact absurd h List.not_mem_nil

/-- What is done to a responder does not change how it is set up. -/
theorem settings_through (deeds : List Deed) (r : Responder) :
    (r.through deeds).settings = r.settings := by
  induction deeds using List.reverseRecOn with
  | nil => rfl
  | append_singleton deeds d ih => rw [through_concat, (Passes.act d _).settings, ih]

/-! ### The table and its history -/

/-- The table is what its history makes of an empty one, and there is none without a table.  The
same number of questions was tolerated throughout. -/
structure Follows (history : List PeerTable.Input) (r : Responder) : Prop where
  tolerating : Tolerating r.settings.tolerated history
  idle : r.table? = none → history = []
  table : ∀ t, r.table? = some t → t = ((empty t.type t.typeText).after history).1

/-- Every deed adds to the history what the table goes through. -/
theorem Follows.act (h : r.Follows history) (d : Deed) :
    (d.act r).Follows (history ++ d.tableInputs r) := by
  have h_pass := Passes.act d r
  refine ⟨fun n hn => ?_, fun h_none => ?_, fun t' ht' => ?_⟩
  · rw [h_pass.settings]
    obtain hn | hn := List.mem_append.mp hn
    · exact h.tolerating n hn
    · exact (asks_mem_tableInputs hn).2.1
  · -- what was not browsed for before has no history
    cases ht : r.table? with
    | none => rw [h.idle ht, (h_pass.idle ht).1, List.append_nil]
    | some t => exact absurd (h_none.symm.trans (h_pass.table t ht)) (by simp)
  · cases ht : r.table? with
    | none =>
      rw [h.idle ht, (h_pass.idle ht).1]
      exact (h_pass.idle ht).2 t' ht'
    | some t =>
      obtain rfl := Option.some.inj (ht'.symm.trans (h_pass.table t ht))
      obtain ⟨h_type, h_text⟩ := PeerTable.alike_after t (d.tableInputs r)
      rw [h_type, h_text, PeerTable.fst_after_append, ← h.table t ht]

/-- A table that is browsed for follows what it has gone through since the beginning. -/
theorem follows_through (os : OperatingSystem) (settings : Settings) (opened : Opened)
    (deeds : List Deed) :
    let start := Responder.on os settings opened
    (start.through deeds).Follows (noted Deed.tableInputs deeds start) := by
  intro start
  induction deeds using List.reverseRecOn with
  -- there is no table to begin with, and no input to any
  | nil => exact ⟨fun _ hn => absurd hn List.not_mem_nil, fun _ => rfl, fun _ ht => nomatch ht⟩
  | append_singleton deeds d ih =>
    rw [through_concat, noted_concat]
    exact ih.act d

/-! ### Who is dropped -/

/-- What becomes of the instances that a responder sees while it tolerates that `m` questions go
unanswered. -/
structure CountsSilence (m : UInt8) (history : List PeerTable.Input) (r : Responder) : Prop where
  /-- A question is noted at the deed that puts it in line, and with this deed the peers age. -/
  asks : ∀ (d : Deed) (n : UInt8), .asks n ∈ d.tableInputs r →
    d = .ask ∧ n = m ∧ ∃ b, r.browsing = some b ∧ b.queryAt ≤ r.machine.now ∧
      (d.act r).outgoing = r.outgoing ++ [(b.query, .groups b.scope)] ∧
      (d.act r).table? = some (b.table.age n).1 ∧
      (d.act r).events = r.events ++ (b.table.age n).2
  /-- The table counts what has gone unanswered. -/
  counts : m ≠ 0 → ∀ k t, r.table? = some t → CountsTo m k (unanswered k t history) t
  /-- Whoever is not seen any more has let pass as many questions as are tolerated, and one more is
  asked; or has taken leave. -/
  gone : ∀ (d : Deed) k t, r.table? = some t → k ∈ t.peers → ¬ (d.act r).Sees k →
    (.asks m ∈ d.tableInputs r ∧ m ≠ 0 ∧ unanswered k t history = some m.toNat) ∨
      ∃ records source, .hears records source ∈ d.tableInputs r ∧
        t.said? k records source = some false

/-- The table goes through one thing at most with each deed. -/
theorem tableInputs_cases (d : Deed) (r : Responder) :
    d.tableInputs r = [] ∨ ∃ input, d.tableInputs r = [input] := by
  cases d with
  | ask => exact (asking_cases r).imp (·.1) fun ⟨_, _, _, h_asks, _⟩ => ⟨_, h_asks⟩
  | receive octets source =>
    exact (hearing_cases octets source r).imp (·.1) fun ⟨_, _, _, h_hears, _⟩ => ⟨_, h_hears⟩
  | _ => exact .inl rfl

/-- Whoever follows its history counts what is silent in it. -/
theorem Follows.countsSilence (h : r.Follows history) :
    r.CountsSilence r.settings.tolerated history := by
  have h_counts : r.settings.tolerated ≠ 0 → ∀ k t, r.table? = some t →
      CountsTo r.settings.tolerated k (unanswered k t history) t := by
    intro h_pos k t ht
    have h_after := PeerTable.countsTo_after h_pos h.tolerating t.type t.typeText k
    have h_alike : (empty t.type t.typeText).Alike t := ⟨rfl, rfl⟩
    rwa [← h.table t ht, ← h_alike.unanswered] at h_after
  refine ⟨fun d n hn => asks_mem_tableInputs hn, h_counts, fun d k t ht hk h_gone => ?_⟩
  have h_out : k ∉ (t.after (d.tableInputs r)).1.peers := fun h_mem =>
    h_gone ⟨_, (Passes.act d r).table t ht, h_mem⟩
  -- the table has gone through something with this deed
  obtain h_none | ⟨input, h_one⟩ := tableInputs_cases d r
  · rw [h_none] at h_out
    exact absurd hk h_out
  · rw [h_one] at h_out ⊢
    cases input with
    | hears records source =>
      exact .inr ⟨records, source, List.mem_singleton_self _, PeerTable.said_of_gone hk h_out⟩
    | asks n =>
      obtain rfl := (asks_mem_tableInputs (h_one ▸ List.mem_singleton_self _)).2.1
      -- where any number is tolerated, nobody would have been dropped
      have h_pos : r.settings.tolerated ≠ 0 := fun h_zero => by
        change k ∉ (t.age r.settings.tolerated).1.peers at h_out
        rw [h_zero, PeerTable.age_zero] at h_out
        exact h_out hk
      exact .inl ⟨List.mem_singleton_self _, h_pos, (h_counts h_pos k t ht).dropped.mp ⟨hk, h_out⟩⟩

theorem flushSome_attached {t : Transport} (h : r.link = .attached t) (count : Nat) :
    r.flushSome count = ((dispatchAll t (r.outgoing.take count) r.machine).1,
      { r with
        machine := (dispatchAll t (r.outgoing.take count) r.machine).2
        outgoing := r.outgoing.drop count }) := by
  simp only [flushSome, h]

/-- A round of work ends with all handed to the sockets that was in line. -/
theorem work_flushes {notices : List Notice} (h : r.work = .ok (notices, r')) :
    ∃ r₁ t, r.attach = .ok r₁ ∧
      let acted := r₁.actOnTime r₁.machine.now
      acted.link = .attached t ∧
        notices = (dispatchAll t acted.outgoing acted.machine).1 ∧
        r' = { acted with
          machine := (dispatchAll t acted.outgoing acted.machine).2, outgoing := [] } := by
  obtain ⟨r₁, ha, h_flush⟩ := work_ok h
  -- a round that was made had its sockets
  obtain ⟨t, h_link⟩ : ∃ t, r₁.link = .attached t := by
    obtain ⟨t, ht, rfl⟩ | ⟨t, -, rfl⟩ := attach_cases ha
    · exact ⟨t, ht⟩
    · exact ⟨t, rfl⟩
  -- acting on time does not touch the sockets, so everything in line goes out through them
  have h_attached := (steady_actOnTime r₁.machine.now r₁).link.trans h_link
  rw [flush, flushSome_attached h_attached, List.take_length, List.drop_length] at h_flush
  obtain ⟨h_notices, h_next⟩ := Prod.mk.inj h_flush
  exact ⟨r₁, t, ha, h_attached, h_notices.symm, h_next.symm⟩

/-- **Aging counts the questions that go unanswered.** How many have is told from the history: from
the last time that an instance was heard from, if it has not taken leave since, one for each query.

Whatever a table goes through while it tolerates that `m` queries go unanswered, the entry of an
instance counts them without exceeding `m`, and the query that drops it is the one that goes out
when exactly `m` have gone unanswered.  If `m` is zero, no query drops anybody.

A responder that tolerates `m` questions notes a question in the history of its table exactly as it
puts it in line, with the same deed lets the peers age, and hands it over before the round of work
ends.  So an instance that is not seen any more has let pass exactly `m` questions since it was last
heard from, or has taken leave. -/
theorem silence_counts (m : UInt8) :
    (∀ k t inputs n, unanswered k t inputs = some n ↔
      ∃ since, HeardBefore k t inputs since ∧ since.countP PeerTable.Input.isQuery = n) ∧
    (∀ type typeText inputs k, Tolerating m inputs →
      let start := empty type typeText
      let t := (start.after inputs).1
      (m ≠ 0 → CountsTo m k (unanswered k start inputs) t) ∧
      (m = 0 → t.age m = (t, []) ∧ (k ∈ t.peers ↔ (unanswered k start inputs).isSome))) ∧
    (∀ os (settings : Settings) opened, settings.tolerated = m →
      let start := Responder.on os settings opened
      (∀ inputs r', ((Dealings.ofResponder start).after inputs).responder.Moves r' →
        ∃ deeds, r' = start.through deeds) ∧
      ∀ deeds, (start.through deeds).CountsSilence m (noted Deed.tableInputs deeds start)) ∧
    ∀ (r r' : Responder) notices, r.work = .ok (notices, r') →
      ∃ r₁ t, r.attach = .ok r₁ ∧
        let acted := r₁.actOnTime r₁.machine.now
        acted.link = .attached t ∧
          notices = (dispatchAll t acted.outgoing acted.machine).1 ∧
          r' = { acted with
            machine := (dispatchAll t acted.outgoing acted.machine).2, outgoing := [] } := by
  refine ⟨fun _ _ _ _ => PeerTable.unanswered_eq_some_iff, fun type typeText inputs k h_inputs => ?_,
    ?_, fun _ _ _ => work_flushes⟩
  · -- first of the table alone, along any inputs
    refine ⟨fun h_pos => PeerTable.countsTo_after h_pos h_inputs type typeText k, ?_⟩
    rintro rfl
    exact ⟨PeerTable.age_zero _, PeerTable.mem_after_iff h_inputs type typeText k⟩
  · -- then of the table that a responder keeps, along any deeds
    rintro os settings opened rfl start
    refine ⟨fun inputs r' h_moves => ?_, fun deeds => ?_⟩
    · obtain ⟨deeds, h_through, -⟩ := exists_deeds start inputs h_moves
      exact ⟨deeds, h_through⟩
    · have h_follows := follows_through os settings opened deeds
      -- the settings never change, so the limit is the one that was set
      have h_settings : (start.through deeds).settings = settings := settings_through deeds start
      exact h_settings ▸ h_follows.countsSilence

end Responder
end ServiceDiscovery
