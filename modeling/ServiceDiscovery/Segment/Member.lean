import ServiceDiscovery.Segment.Segment
import ServiceDiscovery.Discovery.Engine

/-!
# Engines on a segment

A `Member` is a discovery engine without sockets.  A member that is attached to a segment posts
there what it publishes, watches for what it browses for, and resolves from what is posted.  A
scripted member reports exactly the events it is handed, and keeps a record of the requests made of
it; it can be told to refuse some of them, and to report prepared events when it starts to browse.

Events are reported in the order in which they come up.  A member looks at its segment only when it
has nothing of its own left to report.

A member acts at its `Seat`, together with the segment as it is at that moment.
-/

namespace ServiceDiscovery

/-- How a member stands to its segment. -/
inductive Attachment
  | scripted
  | attached (host : Host) (posted : Array Nat) (watch : Option Watch)

/-- The requests made of a member, each kind in order. -/
structure Requests where
  browses : List IpScope := []
  /-- The resolutions that were accepted. -/
  resolutions : List (Nat × Sighting × IpScope) := []
  released : List Nat := []
  published : List Advertisement := []

/-- What a member is told to do. -/
structure Script where
  refuseBrowsing : Bool := false
  refuseResolutions : Bool := false
  /-- The events to report when browsing starts for the first time. -/
  prepared : List Event := []

/-- A discovery engine on a segment. -/
structure Member where
  state : EngineState
  hostName : String
  attachment : Attachment
  requests : Requests
  script : Script
  /-- The events that have come up and are not reported yet. -/
  queue : List Event
  /-- The number of the next resolution. -/
  nextResolution : Nat

namespace Member

/-- A running member with nothing to report. -/
def fresh (hostName : String) (attachment : Attachment) : Member :=
  { state := .running, hostName, attachment, requests := {}, script := {}, queue := []
    nextResolution := 1 }

/-- A member for a host on a segment. -/
def ofHost (host : Host) : Member := fresh host.name (.attached host #[] none)

/-- A member that reports what it is handed. -/
def scripted : Member := fresh "mock-host" .scripted

/-- A member whose engine has failed. -/
def failed : Member := { scripted with state := .failure }

/-- Hands an event over to be reported. -/
def hand (event : Event) (m : Member) : Member := { m with queue := m.queue ++ [event] }

def info (m : Member) : EngineInfo where
  version := "mock"
  hostName := m.hostName
  domain := domain
  fullHostName := m.hostName ++ "." ++ domain

end Member

/-- A member and its segment at the moment at which it acts. -/
structure Seat where
  segment : Segment
  member : Member

namespace Seat

def publish (advertisement : Advertisement) (s : Seat) : Except Refusal Unit × Seat :=
  let m := s.member
  if m.state = .failure then (.error .notRunning, s)
  else
    let m := { m with
      requests := { m.requests with published := m.requests.published ++ [advertisement] } }
    match m.attachment with
    | .scripted => (.ok (), { s with member := m })
    | .attached host posted watch =>
      let (segment, id) := s.segment.post host advertisement
      (.ok (), {
        segment
        member := { m with attachment := .attached host (posted.push id) watch }.hand .established })

def browse (serviceType : String) (scope : IpScope) (s : Seat) : Except Refusal Unit × Seat :=
  let m := s.member
  if m.state = .failure then (.error .notRunning, s)
  else
    let m := { m with requests := { m.requests with browses := m.requests.browses ++ [scope] } }
    if m.script.refuseBrowsing then
      (.error (.rejected "browsing rejected by script"), { s with member := m })
    else
      match m.attachment with
      | .scripted =>
        (.ok (), { s with
          member := { m with
            queue := m.queue ++ m.script.prepared
            script := { m.script with prepared := [] } } })
      | .attached _ _ (some _) => (.error .alreadyBrowsing, { s with member := m })
      | .attached host posted none =>
        let (watch, events) := Watch.start serviceType scope s.segment
        (.ok (), { s with
          member := { m with
            attachment := .attached host posted (some watch)
            queue := m.queue ++ events ++ [.cacheExhausted, .allForNow] } })

/-- The event that ends a resolution at once on a segment. -/
def resolution (segment : Segment) (id : Nat) (sighting : Sighting) (protocol : IpScope) : Event :=
  match segment.find? sighting protocol with
  | some posting => .found id (posting.contact protocol)
  | none => .unresolved id (sighting.text ++ " is not published")

def resolve (sighting : Sighting) (protocol : IpScope) (s : Seat) : Except Refusal Nat × Seat :=
  let m := s.member
  if m.state = .failure then (.error .notRunning, s)
  else if m.script.refuseResolutions then
    (.error (.rejected "resolution rejected by script"), s)
  else
    let id := m.nextResolution
    let m := { m with
      nextResolution := id + 1
      requests := { m.requests with
        resolutions := m.requests.resolutions ++ [(id, sighting, protocol)] } }
    match m.attachment with
    | .scripted => (.ok id, { s with member := m })
    | .attached .. =>
      (.ok id, { s with member := m.hand (resolution s.segment id sighting protocol) })

def release (id : Nat) (s : Seat) : Seat :=
  { s with
    member := { s.member with
      requests := { s.member.requests with released := s.member.requests.released ++ [id] } } }

/-- Reports the first event in the queue.  A member enters a state when it reports it. -/
def report (s : Seat) : Option Event × Seat :=
  match s.member.queue with
  | [] => (none, s)
  | event :: rest =>
    let m := { s.member with queue := rest }
    match event with
    | .engine state => (some event, { s with member := { m with state } })
    | _ => (some event, { s with member := m })

/-- Looks at the segment if there is nothing to report. -/
def look (s : Seat) : List Notice × Seat :=
  match s.member.queue, s.member.attachment with
  | [], .attached host posted (some watch) =>
    let missed := watch.missed s.segment
    let (watch, events) := watch.readOn s.segment
    (if missed = 0 then [] else [.eventsMissed missed],
      { s with
        member := { s.member with
          attachment := .attached host posted (some watch), queue := events } })
  | _, _ => ([], s)

def next (s : Seat) : Turn Seat :=
  let (notices, s) := s.look
  let (event, engine) := s.report
  { event, notices, engine }

/-- The events in the queue, and two for every entry of the history that is not read. -/
def backlog (s : Seat) : Nat :=
  s.member.queue.length +
    match s.member.attachment with
    | .attached _ _ (some watch) => 2 * watch.unread s.segment
    | _ => 0

/-- Withdraws everything that was posted. -/
def close (s : Seat) : Seat :=
  match s.member.attachment with
  | .scripted => s
  | .attached _ posted _ =>
    { s with segment := posted.foldl (fun segment id => segment.withdraw id) s.segment }

instance : Engine Seat where
  state s := s.member.state
  info s := s.member.info
  publish
  browse
  resolve
  release
  next
  backlog
  close

end Seat

end ServiceDiscovery
