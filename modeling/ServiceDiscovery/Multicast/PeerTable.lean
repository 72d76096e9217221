import ServiceDiscovery.Discovery.Event
import ServiceDiscovery.Dns.NameText
import ServiceDiscovery.Multicast.ServiceName
import Std.Data.ExtTreeSet

/-!
# What peers have said

A `PeerTable` holds what was heard about instances of one service type: which instances there are,
where each runs, and the addresses of the hosts they run on.  Names are kept in lower case, so that
looking them up ignores the case of letters.

A response is taken in in two passes (`PeerTable.takeIn`).  Pointers and service records come first,
because attributes are kept only for services, and addresses only for hosts that some service runs
on; so the order of records in a response does not matter for these.  Records with a time to live
of zero take back what they say, except that attributes replace those of a service that is known
whatever their time to live.

An instance is heard from when a pointer to it arrives.  Each query that goes unanswered is counted
(`PeerTable.age`); an instance that has let pass as many as are tolerated is dropped by the next.

An instance can be reached when its service and an address of its host in the family asked for are
known (`PeerTable.contact?`).
-/

namespace ServiceDiscovery

open Dns (Name Record RecordData)

/-- An instance that was heard from. -/
structure Peer where
  /-- Its name, in lower case. -/
  name : Name
  /-- How many queries it has let pass since it was heard from. -/
  ignored : UInt8
deriving DecidableEq

/-- Where an instance runs. -/
structure PeerService where
  port : UInt16
  /-- Its host, in lower case. -/
  host : Name
  txt : Attributes

/-- What was heard about instances of a service type. -/
structure PeerTable where
  type : Name
  /-- The service type as it was asked for. -/
  typeText : String
  peers : Std.ExtTreeMap Sighting Peer
  services : Std.ExtTreeMap Name PeerService
  addresses : Std.ExtTreeMap Name (Std.ExtTreeSet IpAddress)

/-- Attributes read from the entries of a record: what is before the first equals sign names the
attribute, entries without one are skipped, and of several of one name the last counts. -/
def Attributes.ofEntries (entries : List (List UInt8)) : Attributes :=
  entries.foldl
    (fun txt entry =>
      let cs := Utf8.decodeLossy entry
      match cs.dropWhile (· ≠ '=') with
      | [] => txt
      | _ :: value => txt.insert (String.ofList (cs.takeWhile (· ≠ '='))) (String.ofList value))
    ∅

namespace PeerTable

/-- The table in which nothing is known. -/
def empty (type : Name) (typeText : String) : PeerTable :=
  { type, typeText, peers := ∅, services := ∅, addresses := ∅ }

/-- Whether a name is that of an instance of the type. -/
def isOfType (n : Name) (t : PeerTable) : Bool :=
  n.depth == t.type.depth + 1 && n.base.same t.type

/-- As what an instance is seen by someone who hears from it on an interface and a family. -/
def sighting? (interface : UInt32) (protocol : IpScope) (target : Name) (t : PeerTable) :
    Option Sighting :=
  if t.isOfType target then
    (instanceText? target).map fun name =>
      { interface, protocol, name, serviceType := t.typeText, domain }
  else none

/-- Takes in a pointer to an instance. -/
def takePointer (sighting : Sighting) (target : Name) (ttl : UInt32) (t : PeerTable) :
    PeerTable × List Event :=
  if ttl = 0 then
    if sighting ∈ t.peers then
      ({ t with peers := t.peers.erase sighting }, [.vanished sighting])
    else (t, [])
  else
    match t.peers[sighting]? with
    | some peer => ({ t with peers := t.peers.insert sighting { peer with ignored := 0 } }, [])
    | none =>
      ({ t with peers := t.peers.insert sighting { name := target.lower, ignored := 0 } },
        [.appeared sighting])

/-- Takes in where an instance runs; the attributes that are known of it stay. -/
def takeService (name : Name) (port : UInt16) (target : Name) (ttl : UInt32) (t : PeerTable) :
    PeerTable :=
  if ttl = 0 then { t with services := t.services.erase name.lower }
  else
    let txt := (t.services[name.lower]?.map (·.txt)).getD ∅
    { t with services := t.services.insert name.lower { port, host := target.lower, txt } }

/-- Takes in the attributes of an instance whose service is known. -/
def takeAttributes (name : Name) (txt : Attributes) (t : PeerTable) : PeerTable :=
  match t.services[name.lower]? with
  | some service => { t with services := t.services.insert name.lower { service with txt } }
  | none => t

/-- Whether some instance runs on a host, given in lower case. -/
def runsOn (host : Name) (t : PeerTable) : Bool :=
  t.services.toList.any fun (_, service) => service.host == host

/-- Takes in an address of a host. -/
def takeAddress (name : Name) (address : IpAddress) (ttl : UInt32) (t : PeerTable) : PeerTable :=
  let host := name.lower
  if ttl = 0 then
    match t.addresses[host]? with
    | some known => { t with addresses := t.addresses.insert host (known.erase address) }
    | none => t
  else if t.runsOn host then
    { t with addresses := t.addresses.insert host ((t.addresses.getD host ∅).insert address) }
  else t

/-- The first pass over a record: pointers and service records. -/
def takeFirst (interface : UInt32) (protocol : IpScope) (r : Record) (t : PeerTable) :
    PeerTable × List Event :=
  match r.data with
  | .ptr target =>
    if r.owner.same t.type then
      match t.sighting? interface protocol target with
      | some sighting => t.takePointer sighting target r.ttl
      | none => (t, [])
    else (t, [])
  | .srv _ _ port target =>
    if t.isOfType r.owner then (t.takeService r.owner port target r.ttl, []) else (t, [])
  | _ => (t, [])

/-- The second pass over a record: attributes and addresses. -/
def takeSecond (t : PeerTable) (r : Record) : PeerTable :=
  match r.data with
  | .txt entries =>
    if t.isOfType r.owner then t.takeAttributes r.owner (.ofEntries entries) else t
  | .a address => t.takeAddress r.owner (.v4 address) r.ttl
  | .aaaa address => t.takeAddress r.owner (.v6 address) r.ttl
  | _ => t

/-- Takes in the records of a response that came from a source, and says what appeared and
vanished. -/
def takeIn (records : List Record) (source : SocketAddress) (t : PeerTable) :
    PeerTable × List Event :=
  let (t, events) := records.foldl
    (fun (t, events) r =>
      let (t, more) := t.takeFirst source.interface source.scope r
      (t, events ++ more))
    (t, [])
  (records.foldl takeSecond t, events)

/-- Counts a query that goes out; instances that have let pass `tolerated` queries are dropped.
Nothing is ever dropped if none is tolerated. -/
def age (tolerated : UInt8) (t : PeerTable) : PeerTable × List Event :=
  if tolerated = 0 then (t, [])
  else
    ({ t with
        peers := t.peers.filterMap fun _ peer =>
          if peer.ignored < tolerated then some { peer with ignored := peer.ignored + 1 } else none },
      (t.peers.toList.filter fun (_, peer) => !(peer.ignored < tolerated)).map
        fun (sighting, _) => .vanished sighting)

/-- The full name of an instance that was heard from. -/
def name? (sighting : Sighting) (t : PeerTable) : Option Name :=
  t.peers[sighting]?.map (·.name)

/-- How to reach an instance that was heard from, if all that is needed is known: the least address
of its host that lies in the scope asked for. -/
def contact? (sighting : Sighting) (protocol : IpScope) (t : PeerTable) : Option Contact := do
  let peer ← t.peers[sighting]?
  let service ← t.services[peer.name]?
  let known ← t.addresses[service.host]?
  let address ← known.toList.find? (protocol.includes ·.scope)
  return { hostName := service.host.hostText, address, port := service.port, txt := service.txt }

end PeerTable

end ServiceDiscovery
