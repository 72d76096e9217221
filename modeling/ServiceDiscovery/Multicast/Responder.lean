import ServiceDiscovery.Discovery.Engine
import ServiceDiscovery.Multicast.LocalService
import ServiceDiscovery.Multicast.PeerTable
import ServiceDiscovery.Multicast.Transport

/-!
# The multicast responder

A `Responder` is a discovery engine that speaks multicast DNS itself.  It announces what it
publishes and answers questions about it; it browses by asking for a service type again and again,
and resolves from what its peers say.

All work is done when the responder is asked for its next event (`Responder.turn`).  A round
attaches the sockets, which are open from the beginning, acts on every time that has come
(`Responder.actOnTime`), sends what is to be sent, and, if nothing is to be reported then, takes in
one packet.  A packet that cannot be sent is dropped and noted; if receiving fails, or the sockets
cannot be attached, the responder has failed for good: it says so once, and nothing after it.
Whoever asks may lose patience while a packet waits to be sent (`Responder.breakOff`), in whichever
round, and perhaps after the packet has gone out over IPv4 or through some interfaces.  What was
done until then stays done, and the next turn goes on from there; a packet that has not gone out in
full is sent again.

* A service is announced at once and again after a second; it is established by its first
  announcement.
* While browsing, each query ages the peers that were not heard from since the last.  Some time
  after browsing started, whatever was heard by then counts as all there is.
* A resolution ends with the packet that completes what is needed to reach the instance, or when
  its time is up.
-/

namespace ServiceDiscovery

open Dns (Name Packet Message)

/-- How a responder is set up.  Times are in milliseconds. -/
structure Settings where
  /-- Whether multicasts are also heard on this host. -/
  loopback : Bool := true
  ipv4 : Target Ipv4 := .every
  ipv6 : Target UInt32 := .every
  /-- The name of this host, if not the one the operating system knows. -/
  hostName : Option String := none
  /-- The time between two queries while browsing. -/
  queryEvery : Nat := 10000
  /-- The time after which what was heard counts as all there is. -/
  settleAfter : Nat := 2000
  /-- How many queries a peer may let pass; 0 if it may let pass any number. -/
  tolerated : UInt8 := 2
  /-- How long a resolution may take. -/
  resolveWithin : Nat := 5000
  /-- The time to live, in seconds, of what is published. -/
  ttl : UInt32 := 120

/-- The time between the two announcements of a service. -/
def announceAgainAfter : Nat := 1000

/-- How many octets of a packet are received. -/
def receiveLimit : Nat := 4096

/-- Where a packet is to go. -/
inductive Destination
  /-- To the groups of a scope. -/
  | groups (scope : IpScope)
  /-- To one address. -/
  | address (address : SocketAddress)
deriving DecidableEq

/-- The sockets of a responder. -/
inductive Link
  /-- Open, and not attached yet. -/
  | waiting (transport : Transport)
  | attached (transport : Transport)
  | closed
deriving DecidableEq

/-- What is browsed for. -/
structure Browsing where
  type : Name
  scope : IpScope
  table : PeerTable
  /-- The packet that asks for instances of the type. -/
  query : Packet
  /-- When to ask next. -/
  queryAt : Nat
  /-- When what was heard counts as all there is; none once that is past. -/
  settlesAt : Option Nat

/-- A resolution that has not ended. -/
structure Resolving where
  id : Nat
  sighting : Sighting
  protocol : IpScope
  deadline : Nat

/-- A discovery engine that speaks multicast DNS. -/
structure Responder where
  machine : Machine
  settings : Settings
  hostName : String
  /-- The scope for which sockets were opened. -/
  scope : IpScope
  link : Link
  state : EngineState
  /-- What is to be reported, oldest first. -/
  events : List Event
  /-- What is to be sent, oldest first. -/
  outgoing : List (Packet × Destination)
  /-- What was published, oldest first. -/
  services : List LocalService
  /-- When to announce which service, by its place among the services. -/
  announcements : List (Nat × Nat)
  browsing : Option Browsing
  /-- The resolutions that have not ended, in the order of their numbers. -/
  resolving : List Resolving
  nextResolution : Nat

namespace Responder

/-! ### Requests -/

def info (r : Responder) : EngineInfo where
  version := "soapy-dnssd 0.1.0"
  hostName := r.hostName
  domain := domain
  fullHostName := r.hostName ++ "." ++ domain

/-- The addresses of this host that are advertised: those of its interfaces in the scope of its
sockets, leaving out those that only reach the host itself; these too if there are no others, and
multicasts are heard on this host. -/
def advertised (r : Responder) : Std.ExtTreeSet IpAddress :=
  let all := (r.machine.os.listed.map (·.2)).filter (r.scope.includes ·.scope)
  let external := all.filter (!·.isLoopback)
  if external ≠ [] ∨ !r.settings.loopback then .ofList external else .ofList all

/-- Adds a service, to be announced now and again a little later. -/
def addService (service : LocalService) (r : Responder) : Responder :=
  let now := r.machine.now
  let place := r.services.length
  { r with
    services := r.services ++ [service]
    announcements := r.announcements ++ [(now, place), (now + announceAgainAfter, place)] }

def publish (ad : Advertisement) (r : Responder) : Except Refusal Unit × Responder :=
  if r.state = .failure then (.error .notRunning, r)
  else
    match (do LocalService.create ad (← hostNameOf r.hostName) r.advertised r.settings.ttl) with
    | .error refusal => (.error refusal, r)
    | .ok service => (.ok (), r.addService service)

/-- What browsing for a type begins with. -/
def beginBrowsing (type : String) (scope : IpScope) (r : Responder) : Except Refusal Browsing := do
  let name ← typeName type
  let query ← (questionPacket name .ptr false).mapError .io
  return { type := name, scope, table := .empty name type, query, queryAt := r.machine.now
           settlesAt := some (r.machine.now + r.settings.settleAfter) }

def browse (type : String) (scope : IpScope) (r : Responder) : Except Refusal Unit × Responder :=
  if r.state = .failure then (.error .notRunning, r)
  else if r.browsing.isSome then (.error .alreadyBrowsing, r)
  else
    match r.beginBrowsing type scope with
    | .error refusal => (.error refusal, r)
    | .ok browsing => (.ok (), { r with browsing := some browsing })

/-- The packet that asks for what is missing to resolve a sighting: where the instance runs, or if
it was not heard from, which instances there are. -/
def missingQuestion (sighting : Sighting) (b : Browsing) : Except IoFault Packet :=
  let name := (b.table.name? sighting).getD b.type
  questionPacket name (if name.same b.type then .ptr else .srv) false

def resolve (sighting : Sighting) (protocol : IpScope) (r : Responder) :
    Except Refusal Nat × Responder :=
  if r.state = .failure then (.error .notRunning, r)
  else
    match r.browsing with
    | none => (.error .notBrowsing, r)
    | some b =>
      let id := r.nextResolution
      let r := { r with nextResolution := id + 1 }
      match b.table.contact? sighting protocol with
      -- what is known already is reported with the next turn
      | some contact => (.ok id, { r with events := r.events ++ [.found id contact] })
      | none =>
        match missingQuestion sighting b with
        | .error fault => (.error (.io fault), r)
        | .ok packet =>
          (.ok id, { r with
            outgoing := r.outgoing ++ [(packet, .groups protocol)]
            resolving := r.resolving ++
              [{ id, sighting, protocol
                 deadline := r.machine.now + r.settings.resolveWithin }] })

def release (id : Nat) (r : Responder) : Responder :=
  -- the end may have been queued before the release
  { r with
    resolving := r.resolving.filter (·.id ≠ id)
    events := r.events.filter (·.resolution? ≠ some id) }

/-! ### Times that come -/

/-- Announces a service; the first time, that establishes it. -/
def announce (place : Nat) (r : Responder) : Responder :=
  match r.services[place]? with
  | none => r
  | some service =>
    let r := { r with
      outgoing := r.outgoing ++ [(service.announcement, .groups service.scope)] }
    if service.established then r
    else
      { r with
        services := r.services.set place { service with established := true }
        events := r.events ++ [.established] }

/-- Makes the announcements that are due. -/
def announceDue (now : Nat) (r : Responder) : Responder :=
  let due := r.announcements.filter (·.1 ≤ now)
  due.foldl (fun r (_, place) => r.announce place)
    { r with announcements := r.announcements.filter (now < ·.1) }

/-- Asks for instances, if it is time to. -/
def queryDue (now : Nat) (r : Responder) : Responder :=
  match r.browsing with
  | none => r
  | some b =>
    if b.queryAt ≤ now then
      let (table, events) := b.table.age r.settings.tolerated
      { r with
        browsing := some { b with table, queryAt := now + r.settings.queryEvery }
        events := r.events ++ events
        outgoing := r.outgoing ++ [(b.query, .groups b.scope)] }
    else r

/-- Declares what was heard to be all there is, if it is time to. -/
def settleDue (now : Nat) (r : Responder) : Responder :=
  match r.browsing with
  | none => r
  | some b =>
    if b.settlesAt.any (· ≤ now) then
      { r with
        browsing := some { b with settlesAt := none }
        events := r.events ++ [.cacheExhausted, .allForNow] }
    else r

/-- Ends the resolutions whose time is up. -/
def expireDue (now : Nat) (r : Responder) : Responder :=
  { r with
    resolving := r.resolving.filter (now < ·.deadline)
    events := r.events ++
      (r.resolving.filter (·.deadline ≤ now)).map fun p => .unresolved p.id "timed out" }

/-- Acts on every time that has come. -/
def actOnTime (now : Nat) (r : Responder) : Responder :=
  (((r.announceDue now).queryDue now).settleDue now).expireDue now

/-- The next time at which there is something to do, if there is any. -/
def wakeTime? (r : Responder) : Option Nat :=
  (r.announcements.map (·.1) ++
    (r.browsing.toList.flatMap fun b => b.queryAt :: b.settlesAt.toList) ++
    r.resolving.map (·.deadline)).min?

/-! ### Packets -/

/-- Sends a packet from the sockets of a transport. -/
def dispatch (t : Transport) (packet : Packet) (destination : Destination) (m : Machine) :
    Except IoFault Unit × Machine :=
  match destination with
  | .groups scope => m.multicast t packet scope
  | .address address => m.unicast t address packet

/-- Sends packets one after the other.  What cannot be sent is dropped. -/
def dispatchAll (t : Transport) (packets : List (Packet × Destination)) (m : Machine) :
    List Notice × Machine :=
  packets.foldl
    (fun (notices, m) (packet, destination) =>
      match dispatch t packet destination m with
      | (.ok (), m) => (notices, m)
      | (.error fault, m) => (notices ++ [.sendFailed fault], m))
    ([], m)

/-- Sends the first `count` of the packets that are to be sent. -/
def flushSome (count : Nat) (r : Responder) : List Notice × Responder :=
  match r.link with
  | .attached t =>
    let (notices, machine) := dispatchAll t (r.outgoing.take count) r.machine
    (notices, { r with machine, outgoing := r.outgoing.drop count })
  | _ => ([], r)

/-- The responder when its first packet to be sent, a multicast, waits for the IPv6 socket after
some interfaces; none if it does not come to that.  The packet stays in line, and all of it is sent
again. -/
def sendPart? (passed : Nat) (r : Responder) : Option Responder :=
  match r.link, r.outgoing with
  | .attached t, (packet, .groups scope) :: _ =>
    (r.machine.multicastUntil? t packet scope passed).map fun machine => { r with machine }
  | _, _ => none

/-- Sends all that is to be sent. -/
def flush (r : Responder) : List Notice × Responder := r.flushSome r.outgoing.length

/-- The answers to a query that came from an address: the announcement of each service in whose
scope the address is and that a question asks for.  If the first such question permits it, the
answer goes to the one who asks, otherwise to the group of the family. -/
def answersTo (m : Message) (source : SocketAddress) (services : List LocalService) :
    List (Packet × Destination) :=
  (services.filter (·.scope.includes source.scope)).filterMap fun service =>
    (m.questions.find? service.answers).map fun question =>
      (service.announcement,
        if question.unicast then .address source else .groups source.scope)

/-- Takes note of the services whose name another host claims. -/
def noteClaims (m : Message) (r : Responder) : Responder :=
  let claimed (s : LocalService) := !s.collided && m.records.any s.isClaimedBy
  { r with
    services := r.services.map fun s => if claimed s then { s with collided := true } else s
    events := r.events ++ (r.services.filter claimed).map fun _ => .nameTaken }

/-- Ends the resolutions for which all that is needed is known. -/
def completeKnown (table : PeerTable) (r : Responder) : Responder :=
  let contact? (p : Resolving) := table.contact? p.sighting p.protocol
  { r with
    resolving := r.resolving.filter fun p => (contact? p).isNone
    events := r.events ++ r.resolving.filterMap fun p => (contact? p).map (.found p.id) }

/-- Takes in a response. -/
def takeIn (m : Message) (source : SocketAddress) (r : Responder) : Responder :=
  let r := r.noteClaims m
  match r.browsing with
  | some b =>
    if b.scope.includes source.scope then
      let (table, events) := b.table.takeIn m.records source
      { r with
        browsing := some { b with table }, events := r.events ++ events }.completeKnown table
    else r
  | none => r

/-- Takes in a packet.  What cannot be read, or is cut short, is ignored. -/
def receive (octets : Packet) (source : SocketAddress) (r : Responder) : Responder :=
  match Message.decode? (octets.take receiveLimit) with
  | none => r
  | some m =>
    if m.truncated then r
    else if m.isResponse then r.takeIn m source
    else { r with outgoing := r.outgoing ++ answersTo m source r.services }

/-! ### Turns -/

/-- Attaches the sockets; the first time, the responder is running from then on. -/
def attach (r : Responder) : Except IoFault Responder :=
  match r.link with
  | .attached _ => .ok r
  | .waiting t =>
    match r.machine.os.attachFault with
    | some errno => .error (.system errno)
    | none =>
      .ok { r with
        link := .attached t, state := .running, events := r.events ++ [.engine .running] }
  | .closed => .error .socketClosed

/-- Gives everything up. -/
def fail (r : Responder) : Responder :=
  { r with
    state := .failure, link := .closed, outgoing := [], events := r.events ++ [.engine .failure] }

/-- Reports the first event, if there is one. -/
def report (notices : List Notice) (r : Responder) : Turn Responder :=
  match r.events with
  | [] => { event := none, notices, engine := r }
  | event :: events => { event := some event, notices, engine := { r with events } }

/-- Attaches the sockets, acts on the times that have come, and sends. -/
def work (r : Responder) : Except IoFault (List Notice × Responder) := do
  let r ← r.attach
  return (r.actOnTime r.machine.now).flush

/-- Works until there is an event to report or nothing has arrived; `arrivals` is what has. -/
def turnWith (arrivals : List Arrival) (r : Responder) : Turn Responder :=
  -- nothing is begun while something is to be reported, and nothing after a failure
  if r.events ≠ [] ∨ r.state = .failure then r.report []
  else
    match r.work with
    | .error fault => r.fail.report [.socketFailed fault]
    | .ok (notices, r) =>
      if r.events ≠ [] then r.report notices
      else
        match arrivals with
        | [] => r.report notices
        | arrival :: arrivals =>
          let r := { r with machine := { r.machine with inbox := arrivals } }
          match arrival with
          | .fault errno => r.fail.report (notices ++ [.socketFailed (.system errno)])
          | .datagram octets source =>
            let turn := turnWith arrivals (r.receive octets source)
            { turn with notices := notices ++ turn.notices }
termination_by structural arrivals

def turn (r : Responder) : Turn Responder := r.turnWith r.machine.inbox

/-- Where a turn waits to send a packet. -/
structure Pause where
  /-- How many packets were received in this turn. -/
  received : Nat
  /-- How many packets were sent since. -/
  sent : Nat
  /-- If it is a multicast that waits for the IPv6 socket, through how many interfaces it has gone
  out; none if nothing has been done for it. -/
  passed : Option Nat

/-- Sends some packets, and a part of the next one if it comes to that. -/
def flushUntil (sent : Nat) (passed : Option Nat) (r : Responder) : List Notice × Responder :=
  let (notices, r) := r.flushSome sent
  (notices, (passed.bind r.sendPart?).getD r)

/-- A turn up to where it waits to send a packet, after it has received some; none if it ends
before. -/
def turnUntil? (sent : Nat) (passed : Option Nat) :
    (received : Nat) → Responder → Option (List Notice × Responder)
  | 0, r =>
    if r.events ≠ [] ∨ r.state = .failure then none
    else
      match r.attach with
      | .error _ => none
      | .ok r => some ((r.actOnTime r.machine.now).flushUntil sent passed)
  | received + 1, r =>
    if r.events ≠ [] ∨ r.state = .failure then none
    else
      match r.work with
      | .error _ => none
      | .ok (notices, r) =>
        match r.events, r.machine.inbox with
        | [], .datagram octets source :: inbox =>
          let r := { r with machine := { r.machine with inbox } }
          (turnUntil? sent passed received (r.receive octets source)).map fun (more, r) =>
            (notices ++ more, r)
        | _, _ => none

/-- A turn that is given up while a packet waits to be sent.  Where it does not come to that, there
is nothing to give up. -/
def breakOff (pause : Pause) (r : Responder) : List Notice × Responder :=
  (r.turnUntil? pause.sent pause.passed pause.received).getD ([], r)

/-- To how many events something that arrives can lead; no event takes less than an octet. -/
def weight : Arrival → Nat
  | .fault _ => 1
  | .datagram octets _ => 2 * octets.size

/-- The events to report, and one for everything that can still lead to one: a state, an
announcement, the end of settling, a peer, a resolution, a service, and what has arrived. -/
def backlog (r : Responder) : Nat :=
  r.events.length + 4 + r.announcements.length +
    (r.browsing.map (·.table.peers.size)).getD 0 + r.resolving.length + r.services.length +
    r.machine.inbox.foldl (fun n arrival => n + weight arrival) 0

/-- Takes back, without waiting, what has been announced. -/
def close (r : Responder) : Responder :=
  match r.link with
  | .attached t =>
    { r with
      machine := (r.services.filter (·.established)).foldl
        (fun m service => (m.multicastNow t service.farewell service.scope).2) r.machine }
  | _ => r

instance : Engine Responder where
  state r := r.state
  info
  publish
  browse
  resolve
  release
  next := turn
  backlog
  close

/-! ### What happens outside -/

/-- The clock goes on. -/
def elapse (time : Nat) (r : Responder) : Responder :=
  { r with machine := { r.machine with now := r.machine.now + time } }

/-- The operating system changes. -/
def setSystem (f : OperatingSystem → OperatingSystem) (r : Responder) : Responder :=
  { r with machine := { r.machine with os := f r.machine.os } }

/-- Something arrives; it is lost if there is no socket for it. -/
def arrive (family : Family) (arrival : Arrival) (r : Responder) : Responder :=
  let open? := match r.link with
    | .waiting t | .attached t => t.has family
    | .closed => false
  if open? then
    { r with machine := { r.machine with inbox := r.machine.inbox ++ [arrival] } }
  else r

end Responder

end ServiceDiscovery
