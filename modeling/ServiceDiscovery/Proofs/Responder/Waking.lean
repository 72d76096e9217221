import ServiceDiscovery.Proofs.Responder.Turns

/-!
# When a responder wakes up

A responder acts on four kinds of times: when to announce a service, when to ask for instances, when
what was heard counts as all there is, and when the time of a resolution is up.  It acts on those
that have come in one place (`Responder.actOnTime`), and picks the earliest of them, to wake up for
it, in another (`Responder.wakeTime?`).

`Responder.Idle t r` says that at the time `t` none of them has come.  Both places agree on it: the
earliest time is later than `t` exactly if `r` is idle (`Responder.lt_wakeTime_iff`), and acting at
`t` changes nothing exactly if `r` is idle (`Responder.actOnTime_eq_self_iff`).  Whoever has acted
on a time is idle at it, unless it asks again without any delay (`Responder.idle_actOnTime`).

So a turn that ends with nothing to report waits for a time that is still to come, there is nothing
to do before, and there is something to do then (`Responder.wakes_exactly`).
-/

namespace ServiceDiscovery
namespace Responder

open Dns (Packet)

variable {r r' : Responder} {t now : Nat}

/-! ### Idle responders -/

/-- At a time, nothing is due yet. -/
structure Idle (t : Nat) (r : Responder) : Prop where
  announcements : ∀ a ∈ r.announcements, t < a.1
  query : ∀ b, r.browsing = some b → t < b.queryAt
  settling : ∀ b, r.browsing = some b → ∀ s, b.settlesAt = some s → t < s
  resolving : ∀ p ∈ r.resolving, t < p.deadline

theorem Idle.of_eq (h : r.Idle t) (ha : r'.announcements = r.announcements)
    (hb : r'.browsing = r.browsing) (hr : r'.resolving = r.resolving) : r'.Idle t where
  announcements := ha ▸ h.announcements
  query := hb ▸ h.query
  settling := hb ▸ h.settling
  resolving := hr ▸ h.resolving

/-- All times at which there is something to do. -/
def times (r : Responder) : List Nat :=
  r.announcements.map (·.1) ++
    (r.browsing.toList.flatMap fun b => b.queryAt :: b.settlesAt.toList) ++
    r.resolving.map (·.deadline)

/-- A responder wakes up no later than at any time it knows of. -/
theorem wakeTime?_le (h : t ∈ r.times) : ∃ w, r.wakeTime? = some w ∧ w ≤ t := by
  obtain ⟨w, hw⟩ := Option.isSome_iff_exists.mp (List.isSome_min?_of_mem h)
  exact ⟨w, hw, (List.min?_eq_some_iff.mp hw).2 t h⟩

theorem forall_times_iff : (∀ s ∈ r.times, t < s) ↔ r.Idle t := by
  constructor
  · intro h
    -- the times of what is browsed are its next query and the end of its first sweep
    have h_browsing : ∀ b, r.browsing = some b → ∀ s ∈ b.queryAt :: b.settlesAt.toList, t < s := by
      intro b hb s hs
      refine h s (List.mem_append_left _ (List.mem_append_right _ ?_))
      rw [hb]
      exact List.mem_flatMap.mpr ⟨b, List.mem_singleton_self b, hs⟩
    exact {
      announcements := fun a ha =>
        h _ (List.mem_append_left _ (List.mem_append_left _ (List.mem_map_of_mem ha)))
      query := fun b hb => h_browsing b hb _ (List.mem_cons_self ..)
      settling := fun b hb s hs => h_browsing b hb s (by simp [hs])
      resolving := fun p hp => h _ (List.mem_append_right _ (List.mem_map_of_mem hp)) }
  · intro h s hs
    -- a time is one of an announcement, of what is browsed, or of a resolution
    unfold times at hs
    rw [List.mem_append, List.mem_append] at hs
    obtain (h_announcement | h_browsing) | h_deadline := hs
    · obtain ⟨a, ha, rfl⟩ := List.mem_map.mp h_announcement
      exact h.announcements a ha
    · obtain ⟨b, hb, hs⟩ := List.mem_flatMap.mp h_browsing
      have hb := Option.mem_toList.mp hb
      obtain rfl | hs := List.mem_cons.mp hs
      · exact h.query b hb
      · exact h.settling b hb s (Option.mem_toList.mp hs)
    · obtain ⟨p, hp, rfl⟩ := List.mem_map.mp h_deadline
      exact h.resolving p hp

/-- **The earliest time.** A responder wakes up later than at some time exactly if nothing is due
then. -/
theorem lt_wakeTime_iff : (∀ w, r.wakeTime? = some w → t < w) ↔ r.Idle t := by
  rw [← forall_times_iff]
  constructor
  · intro h s hs
    obtain ⟨w, hw, h_le⟩ := wakeTime?_le hs
    exact Nat.lt_of_lt_of_le (h w hw) h_le
  · exact fun h w hw => h w (List.min?_eq_some_iff.mp hw).1

/-! ### What becomes of the times -/

/-- What no single announcement touches is touched by none of those that are due. -/
theorem announceDue_same {α : Type} (f : Responder → α)
    (h : ∀ (r : Responder) place, f (r.announce place) = f r) (now : Nat) (r : Responder) :
    f (r.announceDue now) = f { r with announcements := r.announcements.filter (now < ·.1) } := by
  -- announcement by announcement: none of them shows
  have h_all : ∀ (due : List (Nat × Nat)) (r : Responder),
      f (due.foldl (fun r announcement => r.announce announcement.2) r) = f r := by
    intro due
    induction due with
    | nil => exact fun _ => rfl
    | cons announcement due ih => exact fun r => (ih _).trans (h r announcement.2)
  exact h_all _ _

/-- Announcements that are due are taken from the list, and the others stay; what is browsed for and
the settings stay as well. -/
theorem announceDue_leaves (now : Nat) (r : Responder) :
    (r.announceDue now).announcements = r.announcements.filter (now < ·.1) ∧
      (r.announceDue now).browsing = r.browsing ∧ (r.announceDue now).settings = r.settings := by
  have h_same := announceDue_same (fun r => (r.announcements, r.browsing, r.settings))
    (fun r place => by
      obtain h_eq | ⟨service, -, h_eq | h_eq⟩ := announce_cases place r <;> rw [h_eq]) now r
  simpa using h_same

/-- What is to be sent grows. -/
theorem outgoing_announceDue (now : Nat) (r : Responder) :
    r.outgoing.length ≤ (r.announceDue now).outgoing.length := by
  refine announceDue_induction (P := fun r' => r.outgoing.length ≤ r'.outgoing.length)
    (fun _ _ h => h) (fun r' place h => h.trans ?_) now (Nat.le_refl _)
  obtain h_eq | ⟨service, -, h_eq | h_eq⟩ := announce_cases place r' <;> rw [h_eq] <;> simp

/-- Whoever has asked if it was time to asks again later, if with any delay. -/
theorem queryAt_queryDue (h : 0 < r.settings.queryEvery) {b : Browsing}
    (hb : (r.queryDue t).browsing = some b) : t < b.queryAt := by
  unfold queryDue at hb
  split at hb
  · -- there is no query without a browse
    next h_none => exact absurd (h_none.symm.trans hb) (by simp)
  · next b₀ hb₀ =>
    split at hb
    · -- the query has gone out, and the next one is an interval later
      obtain rfl := Option.some.inj hb
      exact Nat.lt_add_of_pos_right h
    · -- it had not come yet
      next h_early =>
      obtain rfl := Option.some.inj (hb₀.symm.trans hb)
      exact Nat.lt_of_not_le h_early

/-- Asking puts the question in line. -/
theorem outgoing_queryDue_of_due {b : Browsing} (hb : r.browsing = some b) (h_due : b.queryAt ≤ t) :
    (r.queryDue t).outgoing.length = r.outgoing.length + 1 := by
  unfold queryDue
  rw [hb]
  simp [h_due]

/-- Settling leaves the time of the next question. -/
theorem queryAt_settleDue {b : Browsing} (hb : (r.settleDue t).browsing = some b) :
    ∃ b₀, r.browsing = some b₀ ∧ b.queryAt = b₀.queryAt := by
  obtain h_eq | ⟨b₀, hb₀, h_eq⟩ := settleDue_cases t r <;> rw [h_eq] at hb
  · exact ⟨b, hb, rfl⟩
  · obtain rfl := Option.some.inj hb
    exact ⟨b₀, hb₀, rfl⟩

/-- Whoever has settled if it was time to settles later, if at all. -/
theorem settlesAt_settleDue {b : Browsing} {s : Nat} (hb : (r.settleDue t).browsing = some b)
    (hs : b.settlesAt = some s) : t < s := by
  unfold settleDue at hb
  split at hb
  · next h_none => exact absurd (h_none.symm.trans hb) (by simp)
  · next b₀ hb₀ =>
    split at hb
    · obtain rfl := Option.some.inj hb
      -- it has settled, and does not settle again
      exact absurd hs (by simp)
    · next h_early =>
      obtain rfl := Option.some.inj (hb₀.symm.trans hb)
      simpa [hs] using h_early

@[simp] theorem announcements_queryDue (t : Nat) (r : Responder) :
    (r.queryDue t).announcements = r.announcements := by
  obtain h_eq | ⟨b, -, -, h_eq⟩ := queryDue_cases t r <;> rw [h_eq]

@[simp] theorem announcements_settleDue (t : Nat) (r : Responder) :
    (r.settleDue t).announcements = r.announcements := by
  obtain h_eq | ⟨b, -, h_eq⟩ := settleDue_cases t r <;> rw [h_eq]

@[simp] theorem outgoing_settleDue (t : Nat) (r : Responder) :
    (r.settleDue t).outgoing = r.outgoing := by
  obtain h_eq | ⟨b, -, h_eq⟩ := settleDue_cases t r <;> rw [h_eq]

/-! ### Acting on times -/

/-- Whoever has acted on a time has no announcement, settling or deadline left that is due. -/
theorem acted (t : Nat) (r : Responder) :
    (∀ a ∈ (r.actOnTime t).announcements, t < a.1) ∧
      (∀ b, (r.actOnTime t).browsing = some b → ∀ s, b.settlesAt = some s → t < s) ∧
      ∀ p ∈ (r.actOnTime t).resolving, t < p.deadline := by
  refine ⟨fun a ha => ?_, fun b hb s hs => settlesAt_settleDue hb hs, fun p hp => ?_⟩
  · -- acting on what is due removes it from the schedule
    have h_left : (r.actOnTime t).announcements = r.announcements.filter (t < ·.1) := by
      show (((r.announceDue t).queryDue t).settleDue t).announcements = _
      rw [announcements_settleDue, announcements_queryDue, (announceDue_leaves t r).1]
    rw [h_left] at ha
    exact of_decide_eq_true (List.mem_filter.mp ha).2
  · exact of_decide_eq_true (List.mem_filter.mp hp).2

/-- **Nothing is left to do.** Whoever has acted on a time is idle then, if it does not ask again
without delay. -/
theorem idle_actOnTime (h : 0 < r.settings.queryEvery) (t : Nat) : (r.actOnTime t).Idle t := by
  obtain ⟨h_announcements, h_settling, h_resolving⟩ := acted t r
  refine ⟨h_announcements, fun b hb => ?_, h_settling, h_resolving⟩
  -- the next question is set when the last is asked, and is not touched afterwards
  obtain ⟨b₀, hb₀, h_same⟩ := queryAt_settleDue (r := (r.announceDue t).queryDue t) hb
  rw [h_same]
  exact queryAt_queryDue ((announceDue_leaves t r).2.2 ▸ h) hb₀

/-- Nothing is done while nothing is due. -/
theorem Idle.actOnTime (h : r.Idle t) : r.actOnTime t = r := by
  -- each of the four things that may be due is not
  have h_announced : r.announceDue t = r := by
    have h_none : r.announcements.filter (·.1 ≤ t) = [] :=
      List.filter_eq_nil_iff.mpr fun a ha => by simpa using h.announcements a ha
    have h_all : r.announcements.filter (t < ·.1) = r.announcements :=
      List.filter_eq_self.mpr fun a ha => decide_eq_true (h.announcements a ha)
    unfold announceDue
    rw [h_none, h_all]
    rfl
  have h_asked : r.queryDue t = r := by
    obtain h_eq | ⟨b, hb, h_due, -⟩ := queryDue_cases t r
    · exact h_eq
    · exact absurd h_due (Nat.not_le_of_lt (h.query b hb))
  have h_settled : r.settleDue t = r := by
    unfold settleDue
    split
    · rfl
    · next b hb =>
      rw [if_neg]
      intro h_due
      obtain ⟨s, hs, h_le⟩ := Option.any_eq_true _ _ |>.mp h_due
      exact absurd (of_decide_eq_true h_le) (Nat.not_le_of_lt (h.settling b hb s hs))
  -- no deadline has passed
  have h_expired : r.expireDue t = r := by
    have h_none : r.resolving.filter (·.deadline ≤ t) = [] :=
      List.filter_eq_nil_iff.mpr fun p hp => by simpa using h.resolving p hp
    have h_all : r.resolving.filter (t < ·.deadline) = r.resolving :=
      List.filter_eq_self.mpr fun p hp => decide_eq_true (h.resolving p hp)
    unfold expireDue
    rw [h_none, h_all, List.map_nil, List.append_nil]
  unfold Responder.actOnTime
  rw [h_announced, h_asked, h_settled, h_expired]

/-- **Something is done exactly if something is due.** -/
theorem actOnTime_eq_self_iff : r.actOnTime t = r ↔ r.Idle t := by
  refine ⟨fun h => ?_, Idle.actOnTime⟩
  obtain ⟨h_announcements, h_settling, h_resolving⟩ := acted t r
  rw [h] at h_announcements h_settling h_resolving
  refine ⟨h_announcements, fun b hb => ?_, h_settling, h_resolving⟩
  -- asking would have put a question in line, and nothing is taken out of the line
  by_contra h_late
  have h_asked := outgoing_queryDue_of_due (r := r.announceDue t) (t := t)
    ((announceDue_leaves t r).2.1.trans hb) (Nat.le_of_not_lt h_late)
  have h_more : (r.actOnTime t).outgoing = ((r.announceDue t).queryDue t).outgoing :=
    outgoing_settleDue t _
  rw [h] at h_more
  have h_less := outgoing_announceDue t r
  rw [h_more] at h_less
  omega

/-! ### Waiting -/

theorem settings_queryDue (now : Nat) (r : Responder) : (r.queryDue now).settings = r.settings := by
  obtain h_eq | ⟨b, -, -, h_eq⟩ := queryDue_cases now r <;> rw [h_eq]

theorem settings_settleDue (now : Nat) (r : Responder) :
    (r.settleDue now).settings = r.settings := by
  obtain h_eq | ⟨b, -, h_eq⟩ := settleDue_cases now r <;> rw [h_eq]

theorem settings_flushSome (count : Nat) (r : Responder) :
    (r.flushSome count).2.settings = r.settings := by
  obtain h_eq | ⟨t, -, h_eq⟩ := flushSome_cases count r <;> rw [h_eq]

theorem settings_receive (octets : Packet) (source : SocketAddress) (r : Responder) :
    (r.receive octets source).settings = r.settings := by
  obtain h_eq | ⟨m, -, -, ⟨-, h_eq⟩ | ⟨-, h_eq⟩⟩ := receive_cases octets source r <;> rw [h_eq]
  obtain h_eq | ⟨b, -, -, h_eq⟩ := takeIn_cases m source r <;> rw [h_eq] <;> rfl

theorem settings_attach (h : r.attach = .ok r') : r'.settings = r.settings := by
  obtain ⟨t, -, rfl⟩ | ⟨t, -, rfl⟩ := attach_cases h <;> rfl

/-- What a round of work consists of. -/
theorem work_ok {notices : List Notice} (h : r.work = .ok (notices, r')) :
    ∃ r₁, r.attach = .ok r₁ ∧ (r₁.actOnTime r₁.machine.now).flush = (notices, r') := by
  unfold work at h
  cases ha : r.attach with
  | error fault => rw [ha] at h; exact absurd h (by simp [bind, Except.bind])
  | ok r₁ => rw [ha] at h; exact ⟨r₁, rfl, Except.ok.inj h⟩

theorem settings_work {notices : List Notice} (h : r.work = .ok (notices, r')) :
    r'.settings = r.settings := by
  obtain ⟨r₁, ha, h_flush⟩ := work_ok h
  obtain rfl : (r₁.actOnTime r₁.machine.now).flush.2 = r' := congrArg Prod.snd h_flush
  rw [← settings_attach ha, flush, settings_flushSome]
  exact ((settings_settleDue _ _).trans (settings_queryDue _ _)).trans
    (announceDue_leaves _ _).2.2

/-- A round of work acts on the time at which it is done, and sends afterwards. -/
theorem idle_work (h : 0 < r.settings.queryEvery) {notices : List Notice}
    (hw : r.work = .ok (notices, r')) : r'.Idle r'.machine.now := by
  obtain ⟨r₁, ha, h_flush⟩ := work_ok hw
  obtain rfl : (r₁.actOnTime r₁.machine.now).flush.2 = r' := congrArg Prod.snd h_flush
  generalize h_now : r₁.machine.now = now
  have h_idle : (r₁.actOnTime now).Idle now := idle_actOnTime (settings_attach ha ▸ h) now
  -- neither acting nor sending takes any time
  have h_clock : (r₁.actOnTime now).flush.2.machine.now = now := by
    rw [flush, (steady_flushSome _ _).now, (steady_actOnTime now r₁).now, h_now]
  rw [h_clock]
  unfold flush
  obtain h_eq | ⟨t, -, h_eq⟩ :=
    flushSome_cases (r₁.actOnTime now).outgoing.length (r₁.actOnTime now) <;> rw [h_eq]
  · exact h_idle
  · exact h_idle.of_eq rfl rfl rfl

/-- A turn that reports nothing leaves what was to be reported from, with nothing in line. -/
theorem report_none (notices : List Notice) (r : Responder)
    (h : (r.report notices).event = none) : r.events = [] ∧ (r.report notices).engine = r := by
  unfold report at h ⊢
  split at h
  · next h_none => exact ⟨h_none, rfl⟩
  · exact absurd h (by simp)

/-- What a turn reports from has something to report, or has failed, or has just worked.  By
induction on what has arrived. -/
theorem ends_turnWith (arrivals : List Arrival) (h : 0 < r.settings.queryEvery) :
    ∃ r', ((r.turnWith arrivals).event = none →
        r'.events = [] ∧ (r.turnWith arrivals).engine = r') ∧
      (r'.events ≠ [] ∨ r'.state = .failure ∨ r'.Idle r'.machine.now) := by
  induction arrivals generalizing r with
  | nil =>
    unfold turnWith
    split
    · -- something is to be reported already, or the responder has failed
      next h_stop => exact ⟨r, report_none _ _, h_stop.imp_right .inl⟩
    · split
      · -- the sockets could not be attached
        exact ⟨r.fail, report_none _ _, .inr (.inl rfl)⟩
      · next notices r' hw =>
        rw [ite_self]
        -- nothing more has arrived, and the round has done what was due
        exact ⟨r', report_none _ _, .inr (.inr (idle_work h hw))⟩
  | cons arrival arrivals ih =>
    unfold turnWith
    split
    · next h_stop => exact ⟨r, report_none _ _, h_stop.imp_right .inl⟩
    · split
      · exact ⟨r.fail, report_none _ _, .inr (.inl rfl)⟩
      · next notices r' hw =>
        split
        · exact ⟨r', report_none _ _, .inr (.inr (idle_work h hw))⟩
        · cases arrival with
          -- receiving has failed
          | fault errno => exact ⟨_, report_none _ _, .inr (.inl rfl)⟩
          | datagram octets source =>
            -- the turn goes on from what has taken the packet in, which is set up as before
            exact ih (r := (r'.pop arrivals).receive octets source)
              (by rw [settings_receive]; exact settings_work hw ▸ h)

/-- **The deadline is exact.** Acting on a time changes nothing, be it what is to be reported, what
is to be sent or anything else, exactly if there is no time to wake up for or it is still to come.
If there is any delay between questions, then after acting on a time there is none to wake up for
before or at it.

So if a turn ends with nothing to report, and the responder has not failed, what it waits for is
still to come; there is nothing to do before, and there is something to do then. -/
theorem wakes_exactly (r : Responder) (t : Nat) :
    (r.actOnTime t = r ↔ ∀ w, r.wakeTime? = some w → t < w) ∧
    (0 < r.settings.queryEvery → ∀ w, (r.actOnTime t).wakeTime? = some w → t < w) ∧
    (0 < r.settings.queryEvery → r.turn.event = none → r.turn.engine.state ≠ .failure →
      let waiting := r.turn.engine
      (waiting.wakeTime? = none → ∀ s, waiting.actOnTime s = waiting) ∧
      ∀ w, waiting.wakeTime? = some w →
        waiting.machine.now < w ∧ (∀ s, s < w → waiting.actOnTime s = waiting) ∧
          waiting.actOnTime w ≠ waiting) := by
  refine ⟨actOnTime_eq_self_iff.trans lt_wakeTime_iff.symm,
    fun h => lt_wakeTime_iff.mpr (idle_actOnTime h t), ?_⟩
  intro h h_none h_state waiting
  -- the turn has come to its end with nothing to report, so nothing is due
  have h_idle : waiting.Idle waiting.machine.now := by
    obtain ⟨r', h_same, h_end⟩ := ends_turnWith r.machine.inbox h
    obtain ⟨h_empty, h_engine⟩ := h_same h_none
    obtain rfl : waiting = r' := h_engine
    exact (h_end.resolve_left (not_not_intro h_empty)).resolve_left h_state
  refine ⟨fun h_never s => ?_, fun w hw => ⟨lt_wakeTime_iff.mpr h_idle w hw, fun s hs => ?_, ?_⟩⟩
  · exact actOnTime_eq_self_iff.mpr (lt_wakeTime_iff.mp fun w hw => absurd (h_never.symm.trans hw)
      (by simp))
  · refine actOnTime_eq_self_iff.mpr (lt_wakeTime_iff.mp fun w' hw' => ?_)
    rwa [Option.some.inj (hw'.symm.trans hw)]
  · -- at its time there is something due, so the responder changes
    intro h_same
    exact absurd (lt_wakeTime_iff.mpr (actOnTime_eq_self_iff.mp h_same) w hw) (Nat.lt_irrefl w)

end Responder
end ServiceDiscovery
