import ServiceDiscovery.System.Machine
import ServiceDiscovery.Dns.Draft

/-!
# Multicast sockets

A `Transport` says for which families a socket is open.  An IPv6 socket that is to reach several
interfaces selects them one after the other for each multicast, since a socket multicasts through
one interface at a time.

Opening a socket is a dialogue with the operating system that ends at the first call it refuses,
except that joining the group need only succeed on some interface: if it does on none, the default
interface is the last resort (`joinAny`).

Packets to the groups go out on every family in their scope for which a socket is open, and a
failure on one family does not keep them from the other; the first failure is what is reported.
Sending may wait for the socket (`Machine.multicast`); when taking leave nothing waits, and the
packet goes out at once or not at all (`Machine.multicastNow`).
-/

namespace ServiceDiscovery

open Dns (Packet)

/-- How many interfaces multicasts over IPv6 go through. -/
inductive Reach
  /-- The one selected when the socket was opened. -/
  | single
  /-- Each of these in turn. -/
  | several (interfaces : List UInt32)
deriving DecidableEq, Repr

/-- The families for which sockets are open. -/
inductive Transport
  | v4
  | v6 (reach : Reach)
  | both (reach : Reach)
deriving DecidableEq, Repr

namespace Transport

/-- The scope that a transport covers. -/
def scope : Transport → IpScope
  | v4 => .v4
  | v6 _ => .v6
  | both _ => .any

/-- How IPv6 multicasts go out, if there is a socket for them. -/
def reach? : Transport → Option Reach
  | v4 => none
  | v6 reach => some reach
  | both reach => some reach

/-- Whether a socket is open for a family. -/
def has (t : Transport) (f : Family) : Bool := t.scope.covers f

end Transport

/-- The interfaces on which to multicast. -/
inductive Target (α : Type)
  /-- The one the operating system chooses. -/
  | automatic
  /-- As many as possible; the one the operating system chooses if there are none. -/
  | every
  | only (interface : α)
deriving DecidableEq, Repr

/-! ### Opening sockets -/

/-- Calls on a socket, up to the first that is refused. -/
abbrev Dialogue := ExceptT Errno (StateM Socket)

namespace Dialogue

def call (os : OperatingSystem) (c : Call) : Dialogue Unit := fun s => s.attempt os c

/-- Makes a call and says whether it was granted; if it was not, the dialogue goes on. -/
def granted (os : OperatingSystem) (c : Call) : Dialogue Bool := fun s =>
  match s.attempt os c with
  | (.ok (), s) => (.ok true, s)
  | (.error _, s) => (.ok false, s)

/-- Makes calls, and another one if none of them was granted. -/
def joinAny (os : OperatingSystem) (calls : List Call) (lastResort : Call) : Dialogue Unit := do
  let granted ← calls.mapM (granted os)
  if granted.any id then return () else call os lastResort

end Dialogue

open Dialogue in
/-- Opens an IPv4 socket.  The last call stands for two: once the socket is bound, it is told not to
block, and if that is refused, the dialogue ends as if binding were. -/
def openIpv4 (os : OperatingSystem) (loopback : Bool) (target : Target Ipv4) : Dialogue Unit := do
  call os (.openSocket .v4)
  call os (.reuseAddress .v4)
  call os (.loopback .v4 loopback)
  call os (.reusePort .v4)
  match target with
  | .automatic => call os (.joinIpv4 .unspecified)
  | .only interface => call os (.joinIpv4 interface)
  | .every =>
    let external := os.listed.map (·.2) |>.filter (!·.isLoopback)
    let interfaces := (Std.ExtTreeSet.ofList external).toList.filterMap fun
      | .v4 x => some x
      | .v6 _ => none
    joinAny os (interfaces.map .joinIpv4) (.joinIpv4 .unspecified)
  call os (.bind .v4)

/-- The index of an interface, if multicasts can go through it. -/
def selectable? (os : OperatingSystem) (name : String) : Dialogue (Option UInt32) := do
  match os.indexOf name with
  | .error _ => return none
  | .ok index => return if ← Dialogue.granted os (.selectInterface index) then some index else none

open Dialogue in
/-- Opens an IPv6 socket, and says through which interfaces multicasts go.  As with IPv4, binding
stands for being told not to block as well. -/
def openIpv6 (os : OperatingSystem) (loopback : Bool) (target : Target UInt32) : Dialogue Reach := do
  call os (.openSocket .v6)
  call os (.reuseAddress .v6)
  call os .onlyIpv6
  call os (.loopback .v6 loopback)
  call os (.reusePort .v6)
  let interfaces : Std.ExtTreeSet UInt32 ← match target with
    | .only interface => pure (.ofList [interface])
    | _ => do
      let external := os.listed.filter fun (_, x) => !x.isLoopback && x.family = .v6
      let indexes ← external.mapM fun (name, _) => selectable? os name
      pure (.ofList (indexes.filterMap id))
  match target with
  | .automatic => call os (.joinIpv6 0)
  | .only interface => call os (.joinIpv6 interface)
  | .every => joinAny os (interfaces.toList.map .joinIpv6) (.joinIpv6 0)
  call os (.bind .v6)
  match if target = .automatic then [] else interfaces.toList with
  | [] => do
    call os (.selectInterface 0)
    return .single
  | [interface] => do
    call os (.selectInterface interface)
    return .single
  | interfaces => return .several interfaces

/-! ### Sending -/

/-- A packet that went out. -/
structure Transmission where
  family : Family
  /-- The interface through which multicasts went at that moment, 0 for IPv4. -/
  through : UInt32
  destination : SocketAddress
  packet : Packet
deriving DecidableEq

/-- What arrives at a socket. -/
inductive Arrival
  | datagram (octets : Packet) (source : SocketAddress)
  /-- Receiving fails. -/
  | fault (errno : Errno)
deriving DecidableEq

/-- The machine on which sockets are open: the operating system, a clock in milliseconds, the
sockets, what has arrived and not been received, what went out, and what was called to send it. -/
structure Machine where
  os : OperatingSystem
  now : Nat
  v4 : Socket
  v6 : Socket
  /-- What waits to be received, oldest first. -/
  inbox : List Arrival
  /-- What went out, oldest first. -/
  sent : List Transmission
  /-- What was called on open sockets, oldest first, whichever socket it was. -/
  calls : List (Family × Attempt) := []

namespace Machine

/-- The socket of a family. -/
def socket (m : Machine) : Family → Socket
  | .v4 => m.v4
  | .v6 => m.v6

def setSocket (f : Family) (s : Socket) (m : Machine) : Machine :=
  match f with
  | .v4 => { m with v4 := s }
  | .v6 => { m with v6 := s }

/-- Makes a call on the socket of a family. -/
def call (f : Family) (c : Call) (m : Machine) : Except IoFault Unit × Machine :=
  let (result, s) := (m.socket f).attempt m.os c
  let attempt : Attempt := { call := c, refusal := match result with
    | .ok () => none
    | .error errno => some errno }
  (result.mapError .system, { m.setSocket f s with calls := m.calls ++ [(f, attempt)] })

/-- The interface through which multicasts of a family go. -/
def through (f : Family) (m : Machine) : UInt32 :=
  match f with
  | .v4 => 0
  | .v6 => m.v6.through

/-- Sends a packet from the socket of a family. -/
def send (f : Family) (destination : SocketAddress) (packet : Packet) (m : Machine) :
    Except IoFault Unit × Machine :=
  let through := m.through f
  match m.call f (.send f destination through) with
  | (.ok (), m) =>
    (.ok (), { m with sent := m.sent ++ [{ family := f, through, destination, packet }] })
  | (.error fault, m) => (.error fault, m)

/-- Sends a packet to one address. -/
def unicast (t : Transport) (destination : SocketAddress) (packet : Packet) (m : Machine) :
    Except IoFault Unit × Machine :=
  if t.has destination.family then m.send destination.family destination packet
  else (.error .noSocketFor, m)

/-- One call after the other, up to the first that fails. -/
def andThen (first second : Machine → Except IoFault Unit × Machine) (m : Machine) :
    Except IoFault Unit × Machine :=
  match first m with
  | (.ok (), m) => second m
  | (.error fault, m) => (.error fault, m)

/-- Sends a packet to the IPv6 group through an interface that is selected for it. -/
def sendThrough (packet : Packet) (interface : UInt32) : Machine → Except IoFault Unit × Machine :=
  andThen (·.call .v6 (.selectInterface interface)) (·.send .v6 (groupAddress .v6) packet)

/-- Sends a packet to the IPv6 group. -/
def sendToGroup6 (packet : Packet) : Reach → Machine → Except IoFault Unit × Machine
  | .single, m => m.send .v6 (groupAddress .v6) packet
  | .several interfaces, m =>
    (interfaces.map (sendThrough packet)).foldr andThen (fun m => (.ok (), m)) m

/-- The first of two failures. -/
def firstFault (a b : Except IoFault Unit) : Except IoFault Unit :=
  match a with
  | .ok () => b
  | .error fault => .error fault

/-- The ways in which a packet goes to the groups in a scope, by family. -/
def legs (t : Transport) (packet : Packet) (scope : IpScope) :
    List (Machine → Except IoFault Unit × Machine) :=
  (if t.has .v4 && scope.covers .v4 then [(·.send .v4 (groupAddress .v4) packet)] else []) ++
    (t.reach?.filter fun _ => scope.covers .v6).toList.map (sendToGroup6 packet)

/-- Sends a packet to the groups of all families in a scope, as soon as the sockets permit. -/
def multicast (t : Transport) (packet : Packet) (scope : IpScope) (m : Machine) :
    Except IoFault Unit × Machine :=
  (legs t packet scope).foldl
    (fun (result, m) leg =>
      let (next, m) := leg m
      (firstFault result next, m))
    (.ok (), m)

/-- The machine when a multicast waits for the IPv6 socket, after the packet has gone out through
the first `passed` of several interfaces and the next one is selected; none if it does not come to
that. What it does over IPv4 is done by then. -/
def multicastUntil? (t : Transport) (packet : Packet) (scope : IpScope) (passed : Nat)
    (m : Machine) : Option Machine :=
  let m := if t.has .v4 && scope.covers .v4 then (m.send .v4 (groupAddress .v4) packet).2 else m
  match t.reach?.filter fun _ => scope.covers .v6 with
  | none => none
  | some .single => if passed = 0 then some m else none
  | some (.several interfaces) => do
    let next ← interfaces[passed]?
    let before := (interfaces.take passed).map (sendThrough packet)
    match before.foldr andThen (·.call .v6 (.selectInterface next)) m with
    | (.ok (), m) => some m
    | (.error _, _) => none

/-- Sends a packet to the IPv6 group through each of some interfaces, at once or not at all. -/
def sendThroughNow (packet : Packet) : List UInt32 → Machine → Except IoFault Unit × Machine
  | [], m => (.ok (), m)
  | interface :: interfaces, m =>
    match m.call .v6 (.selectInterface interface) with
    | (.error fault, m) => (.error fault, m)
    | (.ok (), m) =>
      match m.send .v6 (groupAddress .v6) packet with
      | (.error fault, m) => (.error fault, m)
      | (.ok (), m) => sendThroughNow packet interfaces m

/-- Sends a packet to the groups of all families in a scope, at once or not at all. -/
def multicastNow (t : Transport) (packet : Packet) (scope : IpScope) (m : Machine) :
    Except IoFault Unit × Machine :=
  let (result4, m) :=
    if scope.covers .v4 && t.has .v4 then m.send .v4 (groupAddress .v4) packet else (.ok (), m)
  if scope.covers .v6 then
    match t.reach? with
    | none => (result4, m)
    | some .single =>
      let (result6, m) := m.send .v6 (groupAddress .v6) packet
      (firstFault result4 result6, m)
    | some (.several interfaces) =>
      let (result6, m) := sendThroughNow packet interfaces m
      (firstFault result4 result6, m)
  else (result4, m)

end Machine

end ServiceDiscovery
