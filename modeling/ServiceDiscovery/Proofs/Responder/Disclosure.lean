import ServiceDiscovery.Proofs.Responder.Learning

/-!
# What a responder goes on to say of an instance

Whoever follows the events of a responder takes an instance to be there once it was reported to have
appeared, and until it is reported gone.  What has become of it in the meantime may wait in the
queue of the responder.  `Responder.Discloses k r` says that this queue is true to somebody who
takes `k` to be there: what it says of `k` tells one change after the other, and leads to what `r`
knows.

Everything that a responder does by itself upholds this, as a table reports every change and nothing
else (`Responder.upheld_discloses`), and so does everything that it is asked for.  So nobody is told
that an instance appeared who takes it to be there already; first it is reported gone
(`Responder.Discloses.rest`).  However often an instance is announced, and whatever it has come to
say of itself, that is no event.
-/

namespace ServiceDiscovery
namespace Responder

open Dns (Packet Message)
open PeerTable (Alternate Reports report? reports)

/-- To somebody who takes an instance to be there, what is to be reported tells what is so. -/
def Discloses (k : Sighting) (r : Responder) : Prop :=
  ∃ t, r.table? = some t ∧ Alternate true (reports k r.events) (decide (k ∈ t.peers))

variable {k : Sighting} {r r' : Responder}

namespace Discloses

/-- An instance is there, and nothing is to be reported of it. -/
theorem of_sees (h : r.Sees k) (h_none : reports k r.events = []) : r.Discloses k := by
  obtain ⟨t, ht, hk⟩ := h
  refine ⟨t, ht, ?_⟩
  rw [h_none, decide_eq_true hk]
  rfl

/-- Where the table stays, and nothing is said of the instance. -/
theorem of_append (h : r.Discloses k) (events : List Event)
    (h_none : ∀ event ∈ events, report? k event = none) (he : r'.events = r.events ++ events)
    (ht : r'.table? = r.table?) : r'.Discloses k := by
  obtain ⟨t, ht₀, h_alternate⟩ := h
  refine ⟨t, ht.trans ht₀, ?_⟩
  rw [he, PeerTable.reports_append, PeerTable.reports_eq_nil_iff.mpr h_none, List.append_nil]
  exact h_alternate

theorem of_eq (h : r.Discloses k) (he : r'.events = r.events) (ht : r'.table? = r.table?) :
    r'.Discloses k :=
  h.of_append [] (fun _ h => absurd h List.not_mem_nil) (by rw [he, List.append_nil]) ht

/-- Where the table changes and says so. -/
theorem of_reports {t t' : PeerTable} {events : List Event} (h : r.Discloses k)
    (h_reports : Reports t t' events) (ht : r.table? = some t) (ht' : r'.table? = some t')
    (he : r'.events = r.events ++ events) : r'.Discloses k := by
  obtain ⟨t₀, ht₀, h_alternate⟩ := h
  obtain rfl : t = t₀ := Option.some.inj (ht.symm.trans ht₀)
  refine ⟨t', ht', ?_⟩
  -- what is new goes on from what was so until then
  rw [he, PeerTable.reports_append]
  exact h_alternate.append (h_reports.alternate k)

/-- **What is said of an instance next.** To somebody who takes it to be there, it is not reported
to have appeared; and unless it is reported gone, the rest is true to who still takes it to be
there. -/
theorem rest (h : r.Discloses k) {event : Event} {events : List Event}
    (he : r.events = event :: events) (h_stays : event ≠ .vanished k) :
    event ≠ .appeared k ∧ ({ r with events } : Responder).Discloses k := by
  obtain ⟨t, ht, h_alternate⟩ := h
  rw [he, ← List.singleton_append, PeerTable.reports_append] at h_alternate
  have h_new : event ≠ .appeared k := by
    rintro rfl
    -- that would be no change
    rw [PeerTable.reports_appeared, if_pos rfl] at h_alternate
    exact h_alternate.1 rfl
  have h_none : report? k event = none := PeerTable.report?_eq_none_iff.mpr ⟨h_new, h_stays⟩
  refine ⟨h_new, t, ht, ?_⟩
  rwa [PeerTable.reports_eq_nil_iff.mpr fun _ h => List.mem_singleton.mp h ▸ h_none] at h_alternate

/-! ### What a responder does by itself -/

theorem announceDue (h : r.Discloses k) (now : Nat) : (r.announceDue now).Discloses k := by
  refine announceDue_induction (P := Discloses k) (fun _ _ h => h.of_eq rfl rfl) ?_ now h
  intro r place h
  obtain h_eq | ⟨service, -, h_eq | h_eq⟩ := announce_cases place r <;> rw [h_eq]
  · exact h
  · exact h.of_eq rfl rfl
  · exact h.of_append [.established] (by simp [report?]) rfl rfl

theorem queryDue (h : r.Discloses k) (now : Nat) : (r.queryDue now).Discloses k := by
  obtain h_eq | ⟨b, hb, -, h_eq⟩ := queryDue_cases now r <;> rw [h_eq]
  · exact h
  · exact h.of_reports (PeerTable.reports_age _ _) (table?_of_browsing hb) rfl rfl

theorem settleDue (h : r.Discloses k) (now : Nat) : (r.settleDue now).Discloses k := by
  obtain h_eq | ⟨b, hb, h_eq⟩ := settleDue_cases now r <;> rw [h_eq]
  · exact h
  · exact h.of_append [.cacheExhausted, .allForNow] (by simp [report?]) rfl
      (table?_of_browsing hb).symm

theorem expireDue (h : r.Discloses k) (now : Nat) : (r.expireDue now).Discloses k :=
  h.of_append _ (List.forall_mem_map.mpr fun _ _ => rfl) rfl rfl

theorem flushSome (h : r.Discloses k) (count : Nat) : (r.flushSome count).2.Discloses k := by
  obtain h_eq | ⟨t, -, h_eq⟩ := flushSome_cases count r <;> rw [h_eq]
  · exact h
  · exact h.of_eq rfl rfl

theorem takeIn (h : r.Discloses k) (m : Message) (source : SocketAddress) :
    (r.takeIn m source).Discloses k := by
  have h_claims : (r.noteClaims m).Discloses k :=
    h.of_append _ (List.forall_mem_map.mpr fun _ _ => rfl) rfl rfl
  obtain h_eq | ⟨b, hb, -, h_eq⟩ := takeIn_cases m source r <;> rw [h_eq]
  · exact h_claims
  · -- the table changes, and then come contacts, which say of nobody that it is there
    have h_update : ((r.noteClaims m).update b m source).Discloses k :=
      h_claims.of_reports (PeerTable.reports_takeIn _ _ _) (table?_of_browsing hb) rfl rfl
    refine h_update.of_append _ (fun event h_event => ?_) rfl rfl
    obtain ⟨p, -, h_found⟩ := List.mem_filterMap.mp h_event
    obtain ⟨c, -, rfl⟩ := Option.map_eq_some_iff.mp h_found
    rfl

theorem receive (h : r.Discloses k) (octets : Packet) (source : SocketAddress) :
    (r.receive octets source).Discloses k := by
  obtain h_eq | ⟨m, -, -, ⟨-, h_eq⟩ | ⟨-, h_eq⟩⟩ := receive_cases octets source r <;> rw [h_eq]
  · exact h
  · exact h.takeIn m source
  · exact h.of_eq rfl rfl

/-! ### Requests -/

theorem publish (h : r.Discloses k) (ad : Advertisement) : (r.publish ad).2.Discloses k := by
  obtain ⟨refusal, h_eq⟩ | ⟨host, service, -, -, -, h_eq⟩ := publish_cases ad r <;> rw [h_eq]
  · exact h
  · exact h.of_eq rfl rfl

/-- Whoever knows an instance is browsing already, so nothing begins. -/
theorem browse (h : r.Discloses k) (type : String) (scope : IpScope) :
    (r.browse type scope).2.Discloses k := by
  obtain ⟨refusal, h_eq⟩ | ⟨b, -, h_free, -, -⟩ := browse_cases type scope r
  · rw [h_eq]
    exact h
  · obtain ⟨t, ht, -⟩ := h
    rw [table?, h_free] at ht
    exact absurd ht (by simp)

theorem resolve (h : r.Discloses k) (k' : Sighting) (q : IpScope) :
    (r.resolve k' q).2.Discloses k := by
  obtain ⟨_, h_eq⟩ | ⟨_, h_eq⟩ | ⟨b, -, -, ⟨c, -, h_eq⟩ | ⟨packet, -, -, h_eq⟩⟩ :=
    resolve_cases k' q r <;> rw [h_eq]
  · exact h
  · exact h.of_eq rfl rfl
  · exact h.of_append [.found r.nextResolution c] (by simp [report?]) rfl rfl
  · exact h.of_eq rfl rfl

/-- Only events that end a resolution are dropped with it. -/
theorem release (h : r.Discloses k) (id : Nat) : (r.release id).Discloses k := by
  obtain ⟨t, ht, h_alternate⟩ := h
  refine ⟨t, ht, ?_⟩
  show Alternate true (reports k (r.events.filter _)) _
  rw [PeerTable.reports_filter fun event _ h_dropped => ?_]
  · exact h_alternate
  · -- what is forgotten is the end of a resolution, which is no report on an instance
    have h_ends : event.resolution? = some id := by simpa using h_dropped
    refine PeerTable.report?_eq_none_iff.mpr ⟨?_, ?_⟩ <;>
      · rintro rfl
        exact absurd h_ends (by simp [Event.resolution?])

end Discloses

/-- Whatever a responder does by itself is disclosed. -/
theorem upheld_discloses (k : Sighting) : Upheld (Discloses k) where
  announceDue now _ h := h.announceDue now
  queryDue now _ _ h := h.queryDue now
  settleDue now _ h := h.settleDue now
  expireDue now _ h := h.expireDue now
  flushSome count _ h := h.flushSome count
  receive octets source _ _ h := h.receive octets source
  attach ha h := by
    obtain ⟨t, -, rfl⟩ | ⟨t, -, rfl⟩ := attach_cases ha
    · exact h
    · exact h.of_append [.engine .running] (by simp [report?]) rfl rfl
  fail h := h.of_append [.engine .failure] (by simp [report?]) rfl rfl
  machine _ _ h := h.of_eq rfl rfl

end Responder
end ServiceDiscovery
