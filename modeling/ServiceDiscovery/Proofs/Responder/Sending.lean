import ServiceDiscovery.Multicast.Responder

/-!
# What sending does to a machine

Packets go out in several ways: to the groups of a scope, through one interface or through several
after another, waiting for the socket or not; and to one address.  `Machine.Sends P m m'` says what
all of these have in common.  Only the sockets change, some transmissions are added to those that
went out before, each of them with `P`, and some calls to those that were made before.

A packet that is handed over for a destination goes there and nowhere else, whatever the operating
system refuses on the way (`Machine.sends_multicast`, `Machine.sends_multicastNow`,
`Machine.sends_unicast`): to the group of a family that the scope covers, or to the one address
(`Transmission.Carries`).
-/

namespace ServiceDiscovery

open Dns (Packet)

/-- A packet went out, to the group of a family in the scope or to the one address. -/
def Transmission.Carries (x : Transmission) (packet : Packet) (destination : Destination) : Prop :=
  x.packet = packet ∧
    match destination with
    | .groups scope => x.destination = groupAddress x.family ∧ scope.covers x.family
    | .address address => x.destination = address ∧ x.family = address.family

namespace Machine

/-- Only sockets change; transmissions with `P` are added to what went out, and calls to what was
called. -/
structure Sends (P : Transmission → Prop) (m m' : Machine) : Prop where
  os : m'.os = m.os
  now : m'.now = m.now
  inbox : m'.inbox = m.inbox
  sent : ∃ new, m'.sent = m.sent ++ new ∧ ∀ x ∈ new, P x
  calls : m.calls <+: m'.calls

namespace Sends

variable {P Q : Transmission → Prop} {m m' m'' : Machine}

/-- Where nothing goes out. -/
theorem of_sent (h_os : m'.os = m.os) (h_now : m'.now = m.now) (h_inbox : m'.inbox = m.inbox)
    (h_sent : m'.sent = m.sent) (h_calls : m.calls <+: m'.calls) : Sends P m m' where
  os := h_os
  now := h_now
  inbox := h_inbox
  sent := ⟨[], by rw [h_sent, List.append_nil], fun _ h => absurd h List.not_mem_nil⟩
  calls := h_calls

theorem refl (m : Machine) : Sends P m m := of_sent rfl rfl rfl rfl (List.prefix_refl _)

theorem trans (h : Sends P m m') (h' : Sends P m' m'') : Sends P m m'' where
  os := h'.os.trans h.os
  now := h'.now.trans h.now
  inbox := h'.inbox.trans h.inbox
  sent := by
    obtain ⟨new, h_sent, h_new⟩ := h.sent
    obtain ⟨new', h_sent', h_new'⟩ := h'.sent
    refine ⟨new ++ new', by rw [h_sent', h_sent, List.append_assoc], fun x hx => ?_⟩
    -- what the second has sent went out after what the first has
    exact (List.mem_append.mp hx).elim (h_new x) (h_new' x)
  calls := h.calls.trans h'.calls

theorem mono (h : Sends P m m') (hPQ : ∀ x, P x → Q x) : Sends Q m m' where
  os := h.os
  now := h.now
  inbox := h.inbox
  sent := by
    obtain ⟨new, h_sent, h_new⟩ := h.sent
    exact ⟨new, h_sent, fun x hx => hPQ x (h_new x hx)⟩
  calls := h.calls

/-- One thing is done after the other, and each of them sends. -/
theorem foldl {σ α : Type} (machine : σ → Machine) {f : σ → α → σ} {l : List α}
    (h : ∀ a ∈ l, ∀ s, Sends P (machine s) (machine (f s a))) (s : σ) :
    Sends P (machine s) (machine (l.foldl f s)) := by
  induction l generalizing s with
  | nil => exact refl _
  | cons a l ih =>
    obtain ⟨h_first, h_rest⟩ := List.forall_mem_cons.mp h
    exact (h_first s).trans (ih h_rest (f s a))

/-- What went out before stays, and what went out since has `P`. -/
theorem mem_sent (h : Sends P m m') {x : Transmission} (hx : x ∈ m'.sent) : x ∈ m.sent ∨ P x := by
  obtain ⟨new, h_sent, h_new⟩ := h.sent
  rw [h_sent] at hx
  exact (List.mem_append.mp hx).imp_right (h_new x)

end Sends

/-! ### One call -/

variable {P : Transmission → Prop}

/-- A call on a socket sends nothing by itself. -/
theorem sends_call (f : Family) (c : Call) (m : Machine) : Sends P m (m.call f c).2 := by
  cases f <;> exact .of_sent rfl rfl rfl rfl (List.prefix_append _ _)

theorem sends_send {f : Family} {destination : SocketAddress} {packet : Packet}
    (hP : ∀ through, P ⟨f, through, destination, packet⟩) (m : Machine) :
    Sends P m (m.send f destination packet).2 := by
  have h_call : Sends P m (m.call f (.send f destination (m.through f))).2 := sends_call f _ m
  unfold send
  dsimp only
  split
  · next m' h_ok =>
    -- the call is granted, and the packet has gone out
    rw [h_ok] at h_call
    refine h_call.trans ⟨rfl, rfl, rfl, ⟨_, rfl, ?_⟩, List.prefix_refl _⟩
    intro x hx
    rw [List.mem_singleton.mp hx]
    exact hP _
  · next fault m' h_error =>
    rw [h_error] at h_call
    exact h_call

/-- One after the other. -/
theorem sends_andThen {first second : Machine → Except IoFault Unit × Machine}
    (h_first : ∀ m, Sends P m (first m).2) (h_second : ∀ m, Sends P m (second m).2) (m : Machine) :
    Sends P m (andThen first second m).2 := by
  have h := h_first m
  unfold andThen
  split
  · next m' h_ok =>
    rw [h_ok] at h
    exact h.trans (h_second m')
  · -- the first was refused, and the second is not tried
    next fault m' h_error =>
    rw [h_error] at h
    exact h

/-! ### To the groups -/

section Groups

variable {packet : Packet} {scope : IpScope}

/-- What goes to the group of a family in the scope. -/
theorem carries_group {f : Family} (h : scope.covers f) (through : UInt32) :
    Transmission.Carries ⟨f, through, groupAddress f, packet⟩ packet (.groups scope) :=
  ⟨rfl, rfl, h⟩

/-- Through some interfaces, one after the other, and whatever is done last. -/
theorem sends_foldr_sendThrough (h : scope.covers .v6) (interfaces : List UInt32)
    {last : Machine → Except IoFault Unit × Machine}
    (h_last : ∀ m, Sends (·.Carries packet (.groups scope)) m (last m).2) (m : Machine) :
    Sends (·.Carries packet (.groups scope)) m
      ((interfaces.map (sendThrough packet)).foldr andThen last m).2 := by
  induction interfaces generalizing m with
  | nil => exact h_last m
  | cons interface interfaces ih =>
    -- through each interface: it is selected, and the packet goes out
    refine sends_andThen (fun m => ?_) ih m
    exact sends_andThen (sends_call _ _) (sends_send (carries_group h)) m

/-- Through one interface or through several, an IPv6 multicast goes to its group. -/
theorem sends_sendToGroup6 (h : scope.covers .v6) (reach : Reach) (m : Machine) :
    Sends (·.Carries packet (.groups scope)) m (sendToGroup6 packet reach m).2 := by
  cases reach with
  | single => exact sends_send (carries_group h) m
  | several interfaces => exact sends_foldr_sendThrough h interfaces .refl m

/-- Every way to the groups leads to a group in the scope. -/
theorem sends_of_mem_legs {t : Transport} {leg : Machine → Except IoFault Unit × Machine}
    (h_leg : leg ∈ legs t packet scope) (m : Machine) :
    Sends (·.Carries packet (.groups scope)) m (leg m).2 := by
  unfold legs at h_leg
  rcases List.mem_append.mp h_leg with h_leg | h_leg
  · split at h_leg
    · next h_both =>
      rw [List.mem_singleton.mp h_leg]
      exact sends_send (carries_group (Bool.and_eq_true_iff.mp h_both).2) m
    · exact absurd h_leg List.not_mem_nil
  · -- the group of the second family is reached through its own socket
    obtain ⟨reach, h_reach, rfl⟩ := List.mem_map.mp h_leg
    obtain ⟨-, h_covers⟩ := Option.filter_eq_some_iff.mp (Option.mem_toList.mp h_reach)
    exact sends_sendToGroup6 h_covers reach m

/-- **A multicast goes to the groups in its scope and nowhere else.** -/
theorem sends_multicast (t : Transport) (packet : Packet) (scope : IpScope) (m : Machine) :
    Sends (·.Carries packet (.groups scope)) m (m.multicast t packet scope).2 := by
  -- one way after the other, each of them tried whatever became of those before
  unfold multicast
  refine Sends.foldl Prod.snd (fun _ h_leg s => ?_) (Except.ok (), m)
  exact sends_of_mem_legs h_leg s.2

/-- A multicast that waits has gone to the groups in its scope as well. -/
theorem sends_multicastUntil? {t : Transport} {passed : Nat} {m m' : Machine}
    (h : m.multicastUntil? t packet scope passed = some m') :
    Sends (·.Carries packet (.groups scope)) m m' := by
  -- first over IPv4
  have h4 : Sends (·.Carries packet (.groups scope)) m
      (if t.has .v4 && scope.covers .v4 then (m.send .v4 (groupAddress .v4) packet).2 else m) := by
    split
    · next h_both => exact sends_send (carries_group (Bool.and_eq_true_iff.mp h_both).2) m
    · exact .refl m
  unfold multicastUntil? at h
  dsimp only at h
  generalize (if t.has .v4 && scope.covers .v4 then (m.send .v4 (groupAddress .v4) packet).2
    else m) = m₄ at h h4
  split at h
  · exact absurd h (by simp)
  · split at h
    · exact Option.some.inj h ▸ h4
    · exact absurd h (by simp)
  · next interfaces h_reach =>
    obtain ⟨-, h_covers⟩ := Option.filter_eq_some_iff.mp h_reach
    obtain ⟨next, -, h⟩ := Option.bind_eq_some_iff.mp h
    -- then through some interfaces, where selecting another one sends nothing
    have h6 : Sends (·.Carries packet (.groups scope)) m₄
        (((interfaces.take passed).map (sendThrough packet)).foldr andThen
          (·.call .v6 (.selectInterface next)) m₄).2 :=
      sends_foldr_sendThrough h_covers (interfaces.take passed) (sends_call _ _) m₄
    split at h
    · next m₆ h_ok =>
      rw [h_ok] at h6
      exact Option.some.inj h ▸ h4.trans h6
    · exact absurd h (by simp)

theorem sends_sendThroughNow (h : scope.covers .v6) (interfaces : List UInt32) (m : Machine) :
    Sends (·.Carries packet (.groups scope)) m (sendThroughNow packet interfaces m).2 := by
  induction interfaces generalizing m with
  | nil => exact .refl m
  | cons interface interfaces ih =>
    have h_select : Sends (·.Carries packet (.groups scope)) m
        (m.call .v6 (.selectInterface interface)).2 := sends_call _ _ m
    unfold sendThroughNow
    split
    · -- the selection is refused, and the rest is given up
      next fault m' h_error => rw [h_error] at h_select; exact h_select
    · next m' h_ok =>
      rw [h_ok] at h_select
      have h_send : Sends (·.Carries packet (.groups scope)) m'
          (m'.send .v6 (groupAddress .v6) packet).2 := sends_send (carries_group h) m'
      split
      · -- the send is refused, and so is the rest
        next fault m'' h_error => rw [h_error] at h_send; exact h_select.trans h_send
      · next m'' h_ok => rw [h_ok] at h_send; exact (h_select.trans h_send).trans (ih m'')

/-- **So does a multicast that does not wait.** -/
theorem sends_multicastNow (t : Transport) (packet : Packet) (scope : IpScope) (m : Machine) :
    Sends (·.Carries packet (.groups scope)) m (m.multicastNow t packet scope).2 := by
  -- first over IPv4
  have h4 : Sends (·.Carries packet (.groups scope)) m
      (if scope.covers .v4 && t.has .v4 then m.send .v4 (groupAddress .v4) packet
        else (.ok (), m)).2 := by
    split
    · next h_both => exact sends_send (carries_group (Bool.and_eq_true_iff.mp h_both).1) m
    · exact .refl m
  unfold multicastNow
  dsimp only
  split
  · next h_covers =>
    -- then over IPv6
    split
    · exact h4
    · exact h4.trans (sends_send (carries_group h_covers) _)
    · exact h4.trans (sends_sendThroughNow h_covers _ _)
  · exact h4

end Groups

/-- A packet to one address goes there and nowhere else. -/
theorem sends_unicast (t : Transport) (address : SocketAddress) (packet : Packet) (m : Machine) :
    Sends (·.Carries packet (.address address)) m (m.unicast t address packet).2 := by
  unfold unicast
  split
  · exact sends_send (fun _ => ⟨rfl, rfl, rfl⟩) m
  · exact .refl m

end Machine

/-! ### What a responder has to send -/

namespace Responder

open Machine (Sends)

theorem sends_dispatch (t : Transport) (packet : Packet) (destination : Destination) (m : Machine) :
    Sends (·.Carries packet destination) m (dispatch t packet destination m).2 := by
  cases destination with
  | groups scope => exact Machine.sends_multicast t packet scope m
  | address address => exact Machine.sends_unicast t address packet m

/-- Packets that are sent one after the other go each to its own destination. -/
theorem sends_dispatchAll (t : Transport) (packets : List (Packet × Destination)) (m : Machine) :
    Sends (fun x => ∃ out ∈ packets, x.Carries out.1 out.2) m (dispatchAll t packets m).2 := by
  unfold dispatchAll
  refine Sends.foldl Prod.snd (fun out h_out s => ?_) ([], m)
  have h_send : Sends (fun x => ∃ out ∈ packets, x.Carries out.1 out.2) s.2
      (dispatch t out.1 out.2 s.2).2 :=
    (sends_dispatch t out.1 out.2 s.2).mono fun x hx => ⟨out, h_out, hx⟩
  -- what cannot be sent is noted, and the others go out all the same
  rcases h_eq : dispatch t out.1 out.2 s.2 with ⟨fault | _, m'⟩ <;>
    · rw [h_eq] at h_send
      simp only [h_eq]
      exact h_send

/-- All that is noted on the way is that a packet cannot be sent. -/
theorem notices_dispatchAll (t : Transport) (packets : List (Packet × Destination)) (m : Machine) :
    ∀ notice ∈ (dispatchAll t packets m).1, ∃ fault, notice = .sendFailed fault := by
  unfold dispatchAll
  -- one packet after another, each with its own failure
  refine List.foldlRecOn packets _
    (motive := fun s : List Notice × Machine =>
      ∀ notice ∈ s.1, ∃ fault, notice = Notice.sendFailed fault)
    (fun _ h => absurd h List.not_mem_nil) fun s hs out _ => ?_
  rcases h_eq : dispatch t out.1 out.2 s.2 with ⟨fault | _, m'⟩ <;> simp only [h_eq]
  · intro notice h_mem
    rcases List.mem_append.mp h_mem with h_old | h_new
    · exact hs notice h_old
    · exact ⟨fault, List.mem_singleton.mp h_new⟩
  · exact hs

theorem notices_flushSome (count : Nat) (r : Responder) :
    ∀ notice ∈ (r.flushSome count).1, ∃ fault, notice = .sendFailed fault := by
  unfold flushSome
  split
  · exact notices_dispatchAll _ _ _
  · exact fun _ h => absurd h List.not_mem_nil

end Responder
end ServiceDiscovery
