import ServiceDiscovery.Multicast.Transport

/-!
# Multicasts through several interfaces

An IPv6 multicast that is to go through several interfaces takes a round for each of them: the
interface is selected, and if that is granted, the packet is sent through it (`Machine.Round`). 
What becomes of a round depends on all that was called on the socket before.

The rounds are made one after the other, and the first that fails is the last to be made, as much
where sending waits for the socket as where it does not (`Machine.sendToGroup6_several`,
`Machine.sendThroughNow_eq`).  So an interface that refuses a packet keeps it from all that come
after it, which a failure on the other family does not, nor one on joining: every interface gets the
packet just if none but the last refuses it (`Machine.several_stop_at_first_fault`).
-/

namespace ServiceDiscovery
namespace Machine

open Dns (Packet)

/-! ### Rounds -/

/-- What became of an interface. -/
inductive Round
  | notSelected (interface : UInt32) (errno : Errno)
  | notSent (interface : UInt32) (errno : Errno)
  | sent (interface : UInt32)
deriving DecidableEq

namespace Round

def interface : Round → UInt32
  | notSelected interface _ => interface
  | notSent interface _ => interface
  | sent interface => interface

/-- Why the round failed, if it did. -/
def fault? : Round → Option Errno
  | notSelected _ errno => some errno
  | notSent _ errno => some errno
  | sent _ => none

/-- The calls that were made, with the answers to them. -/
def attempts : Round → List Attempt
  | notSelected interface errno => [⟨.selectInterface interface, some errno⟩]
  | notSent interface errno =>
    [⟨.selectInterface interface, none⟩, ⟨.send .v6 (groupAddress .v6) interface, some errno⟩]
  | sent interface =>
    [⟨.selectInterface interface, none⟩, ⟨.send .v6 (groupAddress .v6) interface, none⟩]

/-- What went out. -/
def transmissions (packet : Packet) : Round → List Transmission
  | sent interface => [⟨.v6, interface, groupAddress .v6, packet⟩]
  | _ => []

end Round

/-- What becomes of an interface, after what was called on the socket before. -/
def roundOf (os : OperatingSystem) (history : List Attempt) (interface : UInt32) : Round :=
  match os.refuses history (.selectInterface interface) with
  | some errno => .notSelected interface errno
  | none =>
    match os.refuses (history ++ [⟨.selectInterface interface, none⟩])
        (.send .v6 (groupAddress .v6) interface) with
    | some errno => .notSent interface errno
    | none => .sent interface

/-- What becomes of each of some interfaces, if none of them is left out. -/
def roundsOf (os : OperatingSystem) : List Attempt → List UInt32 → List Round
  | _, [] => []
  | history, interface :: interfaces =>
    roundOf os history interface ::
      roundsOf os (history ++ (roundOf os history interface).attempts) interfaces

/-- The rounds up to the first that fails. -/
def upToFault : List Round → List Round
  | [] => []
  | r :: rounds => if r.fault?.isSome then [r] else r :: upToFault rounds

/-- What is reported of some rounds: the first failure, if there is one. -/
def verdict (rounds : List Round) : Except IoFault Unit :=
  match rounds.findSome? Round.fault? with
  | some errno => .error (.system errno)
  | none => .ok ()

/-- The machine after some rounds. -/
def makeRounds (packet : Packet) (rounds : List Round) (m : Machine) : Machine :=
  { m with
    v6 := ⟨m.v6.history ++ rounds.flatMap Round.attempts⟩
    sent := m.sent ++ rounds.flatMap (Round.transmissions packet)
    calls := m.calls ++ (rounds.flatMap Round.attempts).map (.v6, ·) }

section Rounds

variable {os : OperatingSystem} {history : List Attempt} {packet : Packet} {m : Machine}

theorem interface_roundOf (interface : UInt32) :
    (roundOf os history interface).interface = interface := by
  unfold roundOf
  split
  · rfl
  · split <;> rfl

/-- Each interface has its round. -/
theorem interface_roundsOf (interfaces : List UInt32) :
    (roundsOf os history interfaces).map Round.interface = interfaces := by
  induction interfaces generalizing history with
  | nil => rfl
  | cons interface interfaces ih => rw [roundsOf, List.map_cons, interface_roundOf, ih]

theorem makeRounds_nil : m.makeRounds packet [] = m := by
  simp [makeRounds]

theorem makeRounds_cons (r : Round) (rounds : List Round) :
    m.makeRounds packet (r :: rounds) = (m.makeRounds packet [r]).makeRounds packet rounds := by
  simp [makeRounds]

/-- The interface that was selected last is the one through which multicasts go. -/
theorem through_selected (interface : UInt32) :
    (⟨history ++ [⟨.selectInterface interface, none⟩]⟩ : Socket).through = interface := by
  simp [Socket.through]

/-- A call is granted or not, and is remembered with the answer. -/
theorem call_eq (c : Call) (m : Machine) :
    m.call .v6 c =
      (match m.os.refuses m.v6.history c with
        | some errno => .error (.system errno)
        | none => .ok (),
      { m with
        v6 := ⟨m.v6.history ++ [⟨c, m.os.refuses m.v6.history c⟩]⟩
        calls := m.calls ++ [(.v6, ⟨c, m.os.refuses m.v6.history c⟩)] }) := by
  unfold call socket setSocket Socket.attempt
  -- the call is granted or refused, and noted in either case
  cases m.os.refuses m.v6.history c <;> rfl

/-- **A round.** One interface is selected and sent through, or not. -/
theorem sendThrough_eq (packet : Packet) (interface : UInt32) (m : Machine) :
    sendThrough packet interface m =
      (verdict [roundOf m.os m.v6.history interface],
        m.makeRounds packet [roundOf m.os m.v6.history interface]) := by
  -- the send is asked for only after the selection has been granted, with that in the history
  unfold sendThrough andThen roundOf
  cases h_select : m.os.refuses m.v6.history (.selectInterface interface) with
  | some errno =>
    simp [call_eq, h_select, verdict, makeRounds, Round.fault?, Round.attempts, Round.transmissions]
  | none =>
    cases h_send : m.os.refuses (m.v6.history ++ [⟨.selectInterface interface, none⟩])
        (.send .v6 (groupAddress .v6) interface) with
    | some errno =>
      simp [call_eq, send, through, through_selected, h_select, h_send, verdict, makeRounds,
        Round.fault?, Round.attempts, Round.transmissions]
    | none =>
      simp [call_eq, send, through, through_selected, h_select, h_send, verdict, makeRounds,
        Round.fault?, Round.attempts, Round.transmissions]

/-! ### One round after the other -/

/-- Sending at once makes the same calls as sending that may wait. -/
theorem sendThroughNow_eq (packet : Packet) (interfaces : List UInt32) :
    sendThroughNow packet interfaces = sendToGroup6 packet (.several interfaces) := by
  -- on the interfaces: both stop where one of them faults
  induction interfaces with
  | nil => rfl
  | cons interface interfaces ih =>
    funext m
    unfold sendThroughNow
    rw [ih]
    show _ = andThen (sendThrough packet interface) (sendToGroup6 packet (.several interfaces)) m
    -- selecting and sending is one round
    unfold sendThrough andThen
    dsimp only
    rcases m.call .v6 (.selectInterface interface) with ⟨fault | _, m'⟩
    · rfl
    · dsimp only
      rcases m'.send .v6 (groupAddress .v6) packet with ⟨fault | _, m''⟩ <;> rfl

/-- **Round after round.** The rounds up to the first that fails are made, and its failure is
reported. -/
theorem sendToGroup6_several (packet : Packet) (interfaces : List UInt32) (m : Machine) :
    sendToGroup6 packet (.several interfaces) m =
      (verdict (roundsOf m.os m.v6.history interfaces),
        m.makeRounds packet (upToFault (roundsOf m.os m.v6.history interfaces))) := by
  -- on the interfaces, from any machine, as each round adds to the history
  induction interfaces generalizing m with
  | nil => exact Prod.ext rfl makeRounds_nil.symm
  | cons interface interfaces ih =>
    show andThen (sendThrough packet interface) (sendToGroup6 packet (.several interfaces)) m = _
    unfold andThen
    rw [sendThrough_eq, roundsOf, upToFault]
    generalize h_round : roundOf m.os m.v6.history interface = r
    have h_history : (m.makeRounds packet [r]).v6.history = m.v6.history ++ r.attempts := by
      simp [makeRounds]
    have h_os : (m.makeRounds packet [r]).os = m.os := rfl
    cases h_fault : r.fault? with
    | some errno => simp [verdict, h_fault]
    | none =>
      -- the others go on from what this round has left
      simp only [verdict, List.findSome?_cons, List.findSome?_nil, h_fault, Option.isSome_none,
        Bool.false_eq_true, if_false, ih, h_history, h_os]
      rw [← makeRounds_cons]

end Rounds

/-! ### Which rounds are made -/

section UpToFault

variable {rounds : List Round}

theorem prefix_upToFault (rounds : List Round) : upToFault rounds <+: rounds := by
  induction rounds with
  | nil => exact List.prefix_refl _
  | cons r rounds ih =>
    unfold upToFault
    split
    · exact ⟨rounds, rfl⟩
    · exact (List.prefix_cons_inj r).mpr ih

/-- The first failure is among the rounds that are made. -/
theorem verdict_upToFault (rounds : List Round) : verdict (upToFault rounds) = verdict rounds := by
  -- on the rounds: the verdict is that of the first that faults
  induction rounds with
  | nil => rfl
  | cons r rounds ih =>
    unfold verdict at ih ⊢
    rw [upToFault]
    cases h_fault : r.fault? with
    | some errno => simp [h_fault]
    | none => simpa [h_fault] using ih

/-- A failure is reported just if some round fails. -/
theorem verdict_eq_ok_iff : verdict rounds = .ok () ↔ ∀ r ∈ rounds, r.fault? = none := by
  unfold verdict
  cases h_first : rounds.findSome? Round.fault? with
  | none => simpa using List.findSome?_eq_none_iff.mp h_first
  -- one of the rounds has a fault, and the verdict is about the first of them
  | some errno =>
    obtain ⟨r, h_mem, h_fault⟩ := List.exists_of_findSome?_eq_some h_first
    refine iff_of_false (by simp) fun h => ?_
    rw [h r h_mem] at h_fault
    exact absurd h_fault (by simp)

/-- No round is left out just if none but the last fails. -/
theorem upToFault_eq_self_iff :
    upToFault rounds = rounds ↔ ∀ r ∈ rounds.dropLast, r.fault? = none := by
  -- on the rounds: whatever comes behind a fault is left out
  induction rounds with
  | nil => simp [upToFault]
  | cons r rounds ih =>
    -- behind the last round there is nothing to leave out
    cases rounds with
    | nil => simp [upToFault]
    | cons r' rounds =>
      rw [List.dropLast_cons_cons, List.forall_mem_cons, ← ih, upToFault]
      cases h_fault : r.fault? with
      | some errno => simp
      | none => simp

end UpToFault

/-- **The first failure is the last attempt.** A packet is sent to the IPv6 group through several
interfaces, which waits for the socket or does not.  For each interface there is a round, be it made
or not: selecting the interface, and if that is granted, sending through it.

* The rounds that are made are the first ones, and nothing else is called or goes out.
* A failure is reported just if one of them fails, and it is theirs.
* No interface is left out just if none but the last fails. -/
theorem several_stop_at_first_fault (packet : Packet) (interfaces : List UInt32) (m : Machine) :
    let all := roundsOf m.os m.v6.history interfaces
    let made := upToFault all
    all.map Round.interface = interfaces ∧ made <+: all ∧
    sendToGroup6 packet (.several interfaces) m = (verdict made, m.makeRounds packet made) ∧
    sendThroughNow packet interfaces m = (verdict made, m.makeRounds packet made) ∧
    (verdict made = .ok () ↔ ∀ r ∈ made, r.fault? = none) ∧
    (made = all ↔ ∀ r ∈ all.dropLast, r.fault? = none) := by
  intro all made
  -- what is made of the rounds ends with the first fault, which is the verdict
  have h_several : sendToGroup6 packet (.several interfaces) m =
      (verdict made, m.makeRounds packet made) := by
    rw [sendToGroup6_several, ← verdict_upToFault]
  refine ⟨interface_roundsOf interfaces, prefix_upToFault all, h_several, ?_, verdict_eq_ok_iff,
    upToFault_eq_self_iff⟩
  rw [sendThroughNow_eq, h_several]

/-- A machine on which a single call is refused. -/
def refusing (c : Call) : Machine where
  os := { hostName := .error ⟨1⟩, interfaces := [], listingFault := none
          refuses := fun _ c' => if c' = c then some ⟨101⟩ else none }
  now := 0
  v4 := .fresh
  v6 := .fresh
  inbox := []
  sent := []

/-- If the first of two interfaces cannot be selected, or nothing sent through it, then the second
is not tried, though nothing is wrong with it. -/
theorem second_interface_is_not_tried :
    let m := refusing (.selectInterface 2)
    let m' := refusing (.send .v6 (groupAddress .v6) 2)
    roundsOf m.os m.v6.history [2, 3] = [.notSelected 2 ⟨101⟩, .sent 3] ∧
      roundsOf m'.os m'.v6.history [2, 3] = [.notSent 2 ⟨101⟩, .sent 3] ∧
      ∀ u ∈ [sendToGroup6 #[] (.several [2, 3]) m, sendThroughNow #[] [2, 3] m,
          sendToGroup6 #[] (.several [2, 3]) m', sendThroughNow #[] [2, 3] m'],
        u.1.isOk = false ∧ u.2.sent = [] ∧
          ∀ a ∈ u.2.v6.history, a.call ≠ .selectInterface 3 := by
  decide

end Machine
end ServiceDiscovery
