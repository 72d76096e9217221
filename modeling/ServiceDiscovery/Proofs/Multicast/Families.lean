import ServiceDiscovery.Proofs.Multicast.Interfaces
import ServiceDiscovery.Proofs.Responder.Sending

/-!
# Multicasts over both families

What a multicast asks of the operating system is settled before its first call: for each family
that is in the scope and has a socket, there is a list of calls that lead to its group
(`Machine.plan`).  They are made one after the other, up to the first that is refused
(`OperatingSystem.untilRefused`), and what became of them is all that the machine remembers
(`Machine.record`).

The calls of one family are made whatever became of those of the other, and the first refusal of
all is what is reported (`Machine.toGroups_eq`).  A multicast that waits for the sockets and one
that does not are written apart, but where nothing has to wait they do the same
(`Machine.multicasts_agree`).  One that waits for the IPv6 socket, and may be given up there, has
begun like one that does not wait (`Machine.multicast_goes_on`).
-/

namespace ServiceDiscovery

open Dns (Packet)

/-! ### Calls on one socket -/

/-- What becomes of calls that are made one after the other, up to the first that is refused. -/
def OperatingSystem.untilRefused (os : OperatingSystem) : List Attempt → List Call → List Attempt
  | _, [] => []
  | history, c :: calls =>
    match os.refuses history c with
    | some errno => [⟨c, some errno⟩]
    | none => ⟨c, none⟩ :: os.untilRefused (history ++ [⟨c, none⟩]) calls

namespace Attempt

/-- What goes out by an attempt, if it is to send a packet and is granted. -/
def transmission? (packet : Packet) : Attempt → Option Transmission
  | ⟨.send family destination through, none⟩ => some ⟨family, through, destination, packet⟩
  | _ => none

/-- What is reported of some attempts: the first refusal, if there is one. -/
def report (attempts : List Attempt) : Except IoFault Unit :=
  match attempts.findSome? refusal with
  | some errno => .error (.system errno)
  | none => .ok ()

/-- Of two lists of attempts the first comes first. -/
theorem report_append (a b : List Attempt) :
    report (a ++ b) = Machine.firstFault (report a) (report b) := by
  unfold report
  rw [List.findSome?_append]
  cases a.findSome? refusal <;> rfl

end Attempt

section UntilRefused

variable {os : OperatingSystem} {history : List Attempt}

/-- Of the calls that are to be made the first ones are made, and some are left out only behind one
that is refused. -/
theorem OperatingSystem.calls_untilRefused (calls : List Call) :
    ∃ rest, (os.untilRefused history calls).map Attempt.call ++ rest = calls ∧
      (rest ≠ [] → ∃ earlier c errno,
        os.untilRefused history calls = earlier ++ [⟨c, some errno⟩]) := by
  -- on the calls: the first that is refused ends it
  induction calls generalizing history with
  | nil => exact ⟨[], rfl, fun h => absurd rfl h⟩
  | cons c calls ih =>
    unfold untilRefused
    cases h_refuses : os.refuses history c with
    | some errno => exact ⟨calls, rfl, fun _ => ⟨[], c, errno, rfl⟩⟩
    | none =>
      -- granted, so the others go on from here
      obtain ⟨rest, h_calls, h_last⟩ := @ih (history ++ [⟨c, none⟩])
      refine ⟨rest, congrArg (c :: ·) h_calls, fun h_rest => ?_⟩
      obtain ⟨earlier, c', errno, h_eq⟩ := h_last h_rest
      exact ⟨⟨c, none⟩ :: earlier, c', errno, congrArg (⟨c, none⟩ :: ·) h_eq⟩

/-- Where there is something to be called, something is called. -/
theorem OperatingSystem.untilRefused_ne_nil {calls : List Call} (h : calls ≠ []) :
    os.untilRefused history calls ≠ [] := by
  cases calls with
  | nil => exact absurd rfl h
  | cons c calls =>
    unfold untilRefused
    split <;> simp

end UntilRefused

namespace Machine

/-- The calls by which an IPv6 multicast goes to its group, if none of them is refused. -/
def wayThrough (m : Machine) : Reach → List Call
  | .single => [.send .v6 (groupAddress .v6) m.v6.through]
  | .several interfaces =>
    interfaces.flatMap fun i => [.selectInterface i, .send .v6 (groupAddress .v6) i]

/-- The calls by which a multicast goes to the group of a family; none if there is no socket. -/
def wayTo (m : Machine) : Transport → Family → List Call
  | .v4, .v4 | .both _, .v4 => [.send .v4 (groupAddress .v4) 0]
  | .v6 reach, .v6 | .both reach, .v6 => m.wayThrough reach
  | .v4, .v6 | .v6 _, .v4 => []

/-- The calls that a multicast to a scope is to make on the socket of a family. -/
def plan (m : Machine) (t : Transport) (scope : IpScope) (f : Family) : List Call :=
  if scope.covers f then m.wayTo t f else []

/-- What becomes of them. -/
def made (m : Machine) (t : Transport) (scope : IpScope) (f : Family) : List Attempt :=
  m.os.untilRefused (m.socket f).history (m.plan t scope f)

/-- The machine after some attempts on the socket of a family. -/
def record (f : Family) (packet : Packet) (attempts : List Attempt) (m : Machine) : Machine :=
  { m.setSocket f ⟨(m.socket f).history ++ attempts⟩ with
    sent := m.sent ++ attempts.filterMap (·.transmission? packet)
    calls := m.calls ++ attempts.map (f, ·) }

variable {packet : Packet} {m : Machine}

theorem record_nil (f : Family) : m.record f packet [] = m := by
  cases f <;> simp [record, setSocket, socket]

/-! ### The way to one group -/

/-- Sending is one attempt. -/
theorem send_eq (f : Family) (packet : Packet) (m : Machine) :
    let made := m.os.untilRefused (m.socket f).history [.send f (groupAddress f) (m.through f)]
    m.send f (groupAddress f) packet = (Attempt.report made, m.record f packet made) := by
  unfold send call Socket.attempt OperatingSystem.untilRefused
  cases h : m.os.refuses (m.socket f).history (.send f (groupAddress f) (m.through f)) <;>
    cases f <;> simp [Attempt.report, Attempt.transmission?, record, setSocket,
      OperatingSystem.untilRefused, h] <;> rfl

/-- The rounds through several interfaces that are made are calls up to the first refusal. -/
theorem attempts_upToFault (os : OperatingSystem) (history : List Attempt)
    (interfaces : List UInt32) :
    (upToFault (roundsOf os history interfaces)).flatMap Round.attempts =
      os.untilRefused history (interfaces.flatMap fun i =>
        [.selectInterface i, .send .v6 (groupAddress .v6) i]) := by
  -- on the interfaces: a round is two calls, of which the second needs the first
  induction interfaces generalizing history with
  | nil => rfl
  | cons interface interfaces ih =>
    rw [roundsOf, upToFault, List.flatMap_cons]
    unfold roundOf
    -- the selection is refused
    cases h_select : os.refuses history (.selectInterface interface) with
    | some errno => simp [Round.fault?, Round.attempts, OperatingSystem.untilRefused, h_select]
    | none =>
      -- it is granted, and what becomes of the round is up to the send
      cases h_send : os.refuses (history ++ [⟨.selectInterface interface, none⟩])
          (.send .v6 (groupAddress .v6) interface) with
      | some errno =>
        simp [Round.fault?, Round.attempts, OperatingSystem.untilRefused, h_select, h_send]
      -- both are granted, and the next interface is tried
      | none =>
        simp [Round.fault?, Round.attempts, OperatingSystem.untilRefused, h_select, h_send, ih]

theorem report_attempts (rounds : List Round) :
    Attempt.report (rounds.flatMap Round.attempts) = verdict rounds := by
  induction rounds with
  | nil => rfl
  | cons r rounds ih =>
    rw [List.flatMap_cons, Attempt.report_append, ih]
    cases r <;> rfl

theorem transmissions_attempts (packet : Packet) (rounds : List Round) :
    (rounds.flatMap Round.attempts).filterMap (·.transmission? packet) =
      rounds.flatMap (Round.transmissions packet) := by
  rw [List.filterMap_flatMap]
  congr 1
  funext r
  cases r <;> rfl

/-- **The way to the IPv6 group.** It is gone up to the first refusal. -/
theorem sendToGroup6_eq (packet : Packet) (reach : Reach) (m : Machine) :
    let made := m.os.untilRefused m.v6.history (m.wayThrough reach)
    sendToGroup6 packet reach m = (Attempt.report made, m.record .v6 packet made) := by
  cases reach with
  | single => exact send_eq .v6 packet m
  | several interfaces =>
    -- the rounds up to the first fault are the calls up to the first that is refused
    dsimp only [wayThrough]
    rw [sendToGroup6_several, ← attempts_upToFault, report_attempts, verdict_upToFault, record,
      transmissions_attempts]
    rfl

/-! ### One family after the other -/

/-- Sends a packet to the group of a family, if the family is in the scope and has a socket. -/
def toGroup (t : Transport) (packet : Packet) (scope : IpScope) (f : Family) (m : Machine) :
    Except IoFault Unit × Machine :=
  match f with
  | .v4 =>
    if t.has .v4 && scope.covers .v4 then m.send .v4 (groupAddress .v4) packet else (.ok (), m)
  | .v6 =>
    match t.reach?.filter fun _ => scope.covers .v6 with
    | none => (.ok (), m)
    | some reach => sendToGroup6 packet reach m

/-- Sends a packet over IPv4 and then over IPv6, and reports the first failure. -/
def toGroups (t : Transport) (packet : Packet) (scope : IpScope) (m : Machine) :
    Except IoFault Unit × Machine :=
  let (result4, m) := m.toGroup t packet scope .v4
  let (result6, m) := m.toGroup t packet scope .v6
  (firstFault result4 result6, m)

theorem firstFault_ok (result : Except IoFault Unit) : firstFault result (.ok ()) = result := by
  cases result <;> rfl

/-- A multicast that waits for the sockets tries one family after the other. -/
theorem multicast_eq_toGroups (t : Transport) (packet : Packet) (scope : IpScope) (m : Machine) :
    m.multicast t packet scope = m.toGroups t packet scope := by
  unfold multicast legs toGroups toGroup
  rw [List.foldl_append]
  -- a family that takes no part counts as one that succeeds
  cases t.reach?.filter fun _ => scope.covers .v6 with
  | none =>
    dsimp only
    rw [firstFault_ok]
    split <;> rfl
  | some reach =>
    dsimp only
    split <;> rfl

/-- So does one that does not wait; through several interfaces it makes the same calls. -/
theorem multicastNow_eq_toGroups (t : Transport) (packet : Packet) (scope : IpScope)
    (m : Machine) : m.multicastNow t packet scope = m.toGroups t packet scope := by
  unfold multicastNow toGroups toGroup
  -- the one asks first whether the scope has IPv6, the other whether the transport has it
  rw [Bool.and_comm]
  cases t.reach? with
  | none =>
    rw [Option.filter_none]
    -- the transport has no IPv6 socket
    dsimp only
    rw [firstFault_ok, ite_self]
  | some reach =>
    cases scope.covers .v6 with
    | false => exact Prod.ext (firstFault_ok _).symm rfl
    | true =>
      cases reach with
      | single => rfl
      | several interfaces =>
        dsimp only
        rw [sendThroughNow_eq]
        rfl

theorem plan_v4 (m : Machine) (t : Transport) (scope : IpScope) :
    m.plan t scope .v4 =
      if t.has .v4 && scope.covers .v4 then [.send .v4 (groupAddress .v4) 0] else [] := by
  unfold plan
  cases t <;> cases scope.covers .v4 <;> rfl

theorem plan_v6 (m : Machine) (t : Transport) (scope : IpScope) :
    m.plan t scope .v6 =
      ((t.reach?.filter fun _ => scope.covers .v6).map m.wayThrough).getD [] := by
  unfold plan
  cases t <;> cases scope.covers .v6 <;> rfl

/-- **The way to the group of a family.** It is gone up to the first refusal. -/
theorem toGroup_eq (t : Transport) (packet : Packet) (scope : IpScope) (f : Family) (m : Machine) :
    m.toGroup t packet scope f =
      (Attempt.report (m.made t scope f), m.record f packet (m.made t scope f)) := by
  unfold toGroup made
  cases f with
  | v4 =>
    rw [plan_v4]
    -- a family that is not planned makes no call
    dsimp only
    split
    · exact send_eq .v4 packet m
    · exact Prod.ext rfl (record_nil .v4).symm
  | v6 =>
    rw [plan_v6]
    dsimp only
    split
    · next h_none => rw [h_none]; exact Prod.ext rfl (record_nil .v6).symm
    · next reach h_some => rw [h_some]; exact sendToGroup6_eq packet reach m

/-- **Both families.** Each goes its way up to its own first refusal, whatever becomes of the
other. -/
theorem toGroups_eq (t : Transport) (packet : Packet) (scope : IpScope) (m : Machine) :
    let made := m.made t scope
    m.toGroups t packet scope =
      (Attempt.report (made .v4 ++ made .v6),
        { m with
          v4 := ⟨m.v4.history ++ made .v4⟩
          v6 := ⟨m.v6.history ++ made .v6⟩
          sent := m.sent ++ (made .v4 ++ made .v6).filterMap (·.transmission? packet)
          calls := m.calls ++ ((made .v4).map (.v4, ·) ++ (made .v6).map (.v6, ·)) }) := by
  intro made
  -- what is called over IPv4 is not in the history of the other socket
  have h_made : (m.record .v4 packet (made .v4)).made t scope .v6 = made .v6 := rfl
  unfold toGroups
  rw [toGroup_eq, Attempt.report_append, List.filterMap_append, ← List.append_assoc,
    ← List.append_assoc]
  dsimp only
  rw [toGroup_eq, h_made]
  rfl

/-- **Sending with and without waiting agree.** A packet is multicast to a scope from the sockets of
a transport; the operating system answers each call as it likes, as the history of a socket grows
with every call.  Whether the multicast would wait or not, it makes the same calls on both sockets,
sends the same packets, and reports the same.

* The calls on a socket are those that lead to the group of its family (`Machine.plan`), as far as
  none of them is refused: the first of them is made in any case, whatever became of the other
  family, and none is left out but behind a refusal.
* All calls over IPv4 come before all calls over IPv6, be they granted or refused, and so do the
  packets.
* The first refusal of all is what is reported. -/
theorem multicasts_agree (t : Transport) (packet : Packet) (scope : IpScope) (m : Machine) :
    let made := m.made t scope
    let outcome : Except IoFault Unit × Machine :=
      (Attempt.report (made .v4 ++ made .v6),
        { m with
          v4 := ⟨m.v4.history ++ made .v4⟩
          v6 := ⟨m.v6.history ++ made .v6⟩
          sent := m.sent ++ (made .v4 ++ made .v6).filterMap (·.transmission? packet)
          calls := m.calls ++ ((made .v4).map (.v4, ·) ++ (made .v6).map (.v6, ·)) })
    m.multicast t packet scope = outcome ∧
    m.multicastNow t packet scope = outcome ∧
    ∀ f, (m.plan t scope f ≠ [] → made f ≠ []) ∧
      ∃ rest, (made f).map Attempt.call ++ rest = m.plan t scope f ∧
        (rest ≠ [] → ∃ earlier c errno, made f = earlier ++ [⟨c, some errno⟩]) := by
  intro made outcome
  -- both ways are the sends to the groups, one family after the other
  refine ⟨?_, ?_, fun f => ⟨OperatingSystem.untilRefused_ne_nil,
    OperatingSystem.calls_untilRefused _⟩⟩
  · rw [multicast_eq_toGroups]
    exact toGroups_eq t packet scope m
  · rw [multicastNow_eq_toGroups]
    exact toGroups_eq t packet scope m

/-- Where nothing can be sent over IPv4, the packet goes out over IPv6, and the failure is reported
all the same. -/
example :
    let u := (refusing (.send .v4 (groupAddress .v4) 0)).multicastNow (.both .single) #[] .any
    u.1.isOk = false ∧ u.2.sent = [⟨.v6, 0, groupAddress .v6, #[]⟩] := by
  decide

/-! ### Up to where a multicast waits -/

/-- What is done after a call that is granted is done from what it leaves. -/
theorem andThen_of_ok {first second : Machine → Except IoFault Unit × Machine} {m' : Machine}
    (h : first m = (.ok (), m')) : andThen first second m = second m' := by
  unfold andThen
  rw [h]

theorem andThen_assoc (first second third : Machine → Except IoFault Unit × Machine) :
    andThen (andThen first second) third = andThen first (andThen second third) := by
  funext m
  unfold andThen
  rcases first m with ⟨fault | _, m'⟩ <;> rfl

/-- Where the next interface has been selected, what is left is to send through it, and through
those behind it. -/
theorem sends_from_selected {scope : IpScope} (h_covers : scope.covers .v6) {next : UInt32}
    {interfaces : List UInt32} {passed : Nat} {m' : Machine}
    (h_next : interfaces[passed]? = some next)
    (h : ((interfaces.take passed).map (sendThrough packet)).foldr andThen
      (·.call .v6 (.selectInterface next)) m = (.ok (), m')) :
    Sends (·.Carries packet (.groups scope)) m' (sendToGroup6 packet (.several interfaces) m).2 := by
  -- on the interfaces that have been passed, each of which has been sent through
  induction passed generalizing interfaces m with
  | zero =>
    obtain ⟨rest, rfl⟩ : ∃ rest, interfaces = next :: rest := by
      cases interfaces with
      | nil => exact absurd h_next (by simp)
      | cons i rest => exact ⟨rest, by rw [Option.some.inj h_next]⟩
    rw [List.take_zero, List.map_nil, List.foldr_nil] at h
    show Sends _ m' (andThen (sendThrough packet next) (sendToGroup6 packet (.several rest)) m).2
    rw [sendThrough, andThen_assoc, andThen_of_ok h]
    exact sends_andThen (sends_send (carries_group h_covers)) (sends_sendToGroup6 h_covers _) m'
  | succ passed ih =>
    cases interfaces with
    | nil => exact absurd h_next (by simp)
    | cons i rest =>
      rw [List.take_succ_cons, List.map_cons, List.foldr_cons] at h
      rcases h_first : sendThrough packet i m with ⟨fault | _, m₁⟩
      · -- it would have been the last
        rw [andThen, h_first] at h
        exact absurd (congrArg Prod.fst h) (by simp)
      · rw [andThen_of_ok h_first] at h
        show Sends _ m' (andThen (sendThrough packet i) (sendToGroup6 packet (.several rest)) m).2
        rw [andThen_of_ok h_first]
        exact ih (by simpa using h_next) h

/-- **A multicast that waits has begun.** A multicast waits for the IPv6 socket after some
interfaces.  What went out and what was called by then is the beginning of what goes out and what is
called in the end, if nothing has to wait; whoever gives it up there leaves out the rest. -/
theorem multicast_goes_on {t : Transport} {scope : IpScope} {passed : Nat} {m' : Machine}
    (h : m.multicastUntil? t packet scope passed = some m') :
    Sends (·.Carries packet (.groups scope)) m' (m.multicast t packet scope).2 := by
  rw [multicast_eq_toGroups]
  unfold multicastUntil? at h
  unfold toGroups toGroup
  -- both have done the same over IPv4
  have h_first : (if t.has .v4 && scope.covers .v4 then (m.send .v4 (groupAddress .v4) packet).2
      else m) = (if t.has .v4 && scope.covers .v4 then m.send .v4 (groupAddress .v4) packet
        else (.ok (), m)).2 := by
    split <;> rfl
  dsimp only at h ⊢
  rw [h_first] at h
  generalize (if t.has .v4 && scope.covers .v4 then m.send .v4 (groupAddress .v4) packet
    else (.ok (), m)) = over4 at h
  split at h
  · exact absurd h (by simp)
  · next h_reach =>
    obtain ⟨-, h_covers⟩ := Option.filter_eq_some_iff.mp h_reach
    split at h
    · obtain rfl := Option.some.inj h
      rw [h_reach]
      exact sends_sendToGroup6 h_covers .single over4.2
    · exact absurd h (by simp)
  · next interfaces h_reach =>
    obtain ⟨-, h_covers⟩ := Option.filter_eq_some_iff.mp h_reach
    obtain ⟨next, h_next, h⟩ := Option.bind_eq_some_iff.mp h
    split at h
    · next m₆ h_selected =>
      obtain rfl := Option.some.inj h
      rw [h_reach]
      exact sends_from_selected h_covers h_next h_selected
    · exact absurd h (by simp)

end Machine
end ServiceDiscovery
