import ServiceDiscovery.Discovery.Event
import Std.Data.ExtTreeSet

/-!
# A network segment in memory

A `Segment` stands for a network on which hosts post advertisements.  It holds what is posted
now, under numbers that are never used again, and the history of everything that was posted and
withdrawn.  Whoever watches the segment keeps a place in that history and reads on from there; only
the latest 256 entries can still be read, and what lies before them is missed (`Watch.missed`).

A posting shows itself once for each family on which it is posted and watched for.
-/

namespace ServiceDiscovery

/-- A host on a segment. -/
structure Host where
  name : String
  /-- The index of the interface on which others see the host. -/
  interface : UInt32
  v4 : Ipv4
  v6 : Ipv6
deriving DecidableEq, Repr

/-- The address of a host for those who ask on a scope. -/
def Host.address (h : Host) : IpScope → IpAddress
  | .v6 => .v6 h.v6
  | _ => .v4 h.v4

/-- An advertisement posted by a host. -/
structure Posting where
  id : Nat
  host : Host
  advertisement : Advertisement

namespace Posting

/-- As what a posting is seen by those who watch for a service type on a scope. -/
def sightings (p : Posting) (serviceType : String) (scope : IpScope) : List Sighting :=
  if p.advertisement.serviceType = serviceType then
    ([.v4, .v6] : List IpScope).filter
        (fun protocol => scope.includes protocol && p.advertisement.scope.includes protocol)
      |>.map fun protocol =>
        { interface := p.host.interface, protocol, name := p.advertisement.name
          serviceType := p.advertisement.serviceType, domain }
  else []

/-- Whether a posting is what a sighting shows, and can be reached on a scope. -/
def shows (p : Posting) (s : Sighting) (protocol : IpScope) : Bool :=
  p.host.interface == s.interface && p.advertisement.name == s.name &&
    p.advertisement.serviceType == s.serviceType && s.domain == domain &&
    p.advertisement.scope.includes protocol

/-- How to reach a posting on a scope. -/
def contact (p : Posting) (protocol : IpScope) : Contact where
  hostName := p.host.name ++ "." ++ domain
  address := p.host.address protocol
  port := p.advertisement.port
  txt := p.advertisement.txt

end Posting

/-- What happens on a segment. -/
inductive Happening
  | posted (posting : Posting)
  | withdrawn (posting : Posting)

/-- A network segment. -/
structure Segment where
  postings : Std.ExtTreeMap Nat Posting
  /-- The number of the next posting. -/
  nextId : Nat
  /-- Everything that has happened, oldest first. -/
  history : Array Happening

namespace Segment

/-- The segment on which nothing has happened. -/
def quiet : Segment := { postings := ∅, nextId := 1, history := #[] }

instance : Inhabited Segment := ⟨quiet⟩

/-- Posts an advertisement and says under which number. -/
def post (host : Host) (advertisement : Advertisement) (s : Segment) : Segment × Nat :=
  let posting : Posting := { id := s.nextId, host, advertisement }
  ({ postings := s.postings.insert s.nextId posting, nextId := s.nextId + 1
     history := s.history.push (.posted posting) }, s.nextId)

/-- Withdraws a posting, if it is still there. -/
def withdraw (id : Nat) (s : Segment) : Segment :=
  match s.postings[id]? with
  | none => s
  | some posting =>
    { s with postings := s.postings.erase id, history := s.history.push (.withdrawn posting) }

/-- The postings, in the order of their numbers. -/
def current (s : Segment) : List Posting := s.postings.toList.map (·.2)

/-- The first posting that a sighting shows and that can be reached on a scope. -/
def find? (sighting : Sighting) (protocol : IpScope) (s : Segment) : Option Posting :=
  s.current.find? (·.shows sighting protocol)

end Segment

/-- A place in the history of a segment, from which someone watches for a service type. -/
structure Watch where
  serviceType : String
  scope : IpScope
  /-- How much of the history has been read or missed. -/
  place : Nat
  /-- The postings that have been reported or passed over, and not withdrawn since. -/
  seen : Std.ExtTreeSet Nat

namespace Watch

/-- How many of the latest entries of the history can still be read. -/
def window : Nat := 256

/-- How many entries have not been read. -/
def unread (w : Watch) (s : Segment) : Nat := s.history.size - w.place

/-- How many entries can no longer be read. -/
def missed (w : Watch) (s : Segment) : Nat := w.unread s - window

/-- Takes in an entry of the history: a posting that is new, or one that was seen and is gone, is
reported as all it is seen as. -/
def notice (h : Happening) (w : Watch) : Watch × List Event :=
  match h with
  | .posted p =>
    if p.id ∈ w.seen then (w, [])
    else ({ w with seen := w.seen.insert p.id }, (p.sightings w.serviceType w.scope).map .appeared)
  | .withdrawn p =>
    if p.id ∈ w.seen then
      ({ w with seen := w.seen.erase p.id }, (p.sightings w.serviceType w.scope).map .vanished)
    else (w, [])

/-- Reads on until an entry leads to events. -/
def scan : List Happening → Watch → Watch × List Event
  | [], w => (w, [])
  | h :: hs, w =>
    match { w with place := w.place + 1 }.notice h with
    | (w, []) => scan hs w
    | (w, events) => (w, events)

/-- Reads on from the earliest entry that can still be read. -/
def readOn (s : Segment) (w : Watch) : Watch × List Event :=
  let w := { w with place := w.place + w.missed s }
  w.scan (s.history.extract w.place).toList

/-- Starts to watch: reports what is posted now, and reads on from here.  Nothing is posted in
between. -/
def start (serviceType : String) (scope : IpScope) (s : Segment) : Watch × List Event :=
  ({ serviceType, scope, place := s.history.size
     seen := s.current.foldl (fun seen p => seen.insert p.id) ∅ },
    s.current.flatMap fun p => (p.sightings serviceType scope).map .appeared)

end Watch

end ServiceDiscovery
