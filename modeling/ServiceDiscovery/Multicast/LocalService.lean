import ServiceDiscovery.Multicast.ServiceName
import Std.Data.ExtTreeSet

/-!
# Services of this host

A service that this host publishes is announced by one response: the pointer from its type to its
name as the answer, and with it all that is needed to reach it, its port and host, its attributes
and the addresses of the host in the scope of the service.  The farewell is the same response with
times to live of zero.  Both packets are written once, when the service is published.

The response answers questions about the type, the name or the host of the service, each for the
types of records that it owns (`LocalService.answers`).  Another host claims the name of the service
if it says that the service of that name runs elsewhere (`LocalService.isClaimedBy`); records that
say farewell claim nothing.
-/

namespace ServiceDiscovery

open Dns (Name Packet Question Record RecordData RecordType)

/-- A service that this host publishes. -/
structure LocalService where
  scope : IpScope
  name : Name
  type : Name
  host : Name
  /-- What announces the service and answers questions about it. -/
  announcement : Packet
  /-- What takes the announcement back. -/
  farewell : Packet
  /-- Whether the service has been announced. -/
  established : Bool
  /-- Whether another host has been seen to claim the name. -/
  collided : Bool

namespace LocalService

/-- The most octets of an attribute. -/
def attributeLimit : Nat := 255

/-- The attributes as octets, each behind its name and an equals sign. -/
def entries (txt : Attributes) : List (List UInt8) :=
  txt.toList.map fun (name, value) => Utf8.bytes (name ++ "=" ++ value)

/-- The record of an address of a host. -/
def addressRecord (host : Name) (ttl : UInt32) (address : IpAddress) : Record where
  owner := host
  ttl
  cacheFlush := true
  data := match address with
    | .v4 x => .a x
    | .v6 x => .aaaa x

/-- The response that announces a service for some seconds. -/
def response (type name host : Name) (port : UInt16) (entries : List (List UInt8))
    (addresses : List IpAddress) (ttl : UInt32) : Dns.Message :=
  .response
    [{ owner := type, ttl, cacheFlush := false, data := .ptr name }]
    ([{ owner := name, ttl, cacheFlush := true, data := .srv 0 0 port host },
      { owner := name, ttl, cacheFlush := true, data := .txt entries }] ++
      addresses.map (addressRecord host ttl))

/-- The packet of such a response.  The records beside the answer must be countable in sixteen
bits. -/
def responsePacket (type name host : Name) (port : UInt16) (entries : List (List UInt8))
    (addresses : List IpAddress) (ttl : UInt32) : Except Refusal Packet :=
  if 65536 ≤ addresses.length + 2 then .error .tooManyAddresses
  else
    (response type name host port entries addresses ttl).encode.mapError
      fun octets => .io (.nameTooLong .response octets)

/-- The service that an advertisement on a host with these addresses makes. -/
def create (ad : Advertisement) (host : Name) (addresses : Std.ExtTreeSet IpAddress) (ttl : UInt32) :
    Except Refusal LocalService := do
  let addresses := addresses.toList.filter (ad.scope.includes ·.scope)
  if addresses = [] then throw .noAddress
  let entries := entries ad.txt
  if !entries.all (·.length ≤ attributeLimit) then throw .attributeTooLong
  let type ← typeName ad.serviceType
  let name ← nameInType ad.name type
  let announcement ← responsePacket type name host ad.port entries addresses ttl
  let farewell ← responsePacket type name host ad.port entries addresses 0
  return { scope := ad.scope, name, type, host, announcement, farewell, established := false
           collided := false }

/-- Whether a question is about this service. -/
def answers (s : LocalService) (q : Question) : Bool :=
  if q.type = RecordType.ptr then q.name.same s.type
  else if q.type = RecordType.srv ∨ q.type = RecordType.txt then q.name.same s.name
  else if q.type = RecordType.a ∨ q.type = RecordType.aaaa then q.name.same s.host
  else if q.type = RecordType.any then
    q.name.same s.type || q.name.same s.name || q.name.same s.host
  else false

/-- Whether a record says that the service of this name runs on another host. -/
def isClaimedBy (s : LocalService) (r : Record) : Bool :=
  r.ttl != 0 && r.owner.same s.name &&
    match r.data with
    | .srv _ _ _ target => !target.same s.host
    | _ => false

end LocalService

end ServiceDiscovery
