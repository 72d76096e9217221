import ServiceDiscovery.Multicast.Responder
import ServiceDiscovery.Discovery.Agent

/-!
# Setting up a responder

The sockets of a responder are opened for one family or for both.  If both were asked for and one
of them cannot be had, a responder for IPv4 alone is set up instead, on a socket of its own; so
trouble with IPv6 never keeps a responder from starting.
-/

namespace ServiceDiscovery

/-- Sockets that were opened. -/
structure Opened where
  transport : Transport
  v4 : Socket := .fresh
  v6 : Socket := .fresh

/-- What opening sockets led to: every call that was made, what was noted, and the sockets. -/
structure Opening where
  trace : List Attempt
  notices : List Notice := []
  result : Except Errno Opened

namespace Opening

def ipv4 (os : OperatingSystem) (settings : Settings) : Opening :=
  let (result, socket) := (openIpv4 os settings.loopback settings.ipv4).run Socket.fresh
  { trace := socket.history, result := result.map fun () => { transport := .v4, v4 := socket } }

def ipv6 (os : OperatingSystem) (settings : Settings) : Opening :=
  let (result, socket) := (openIpv6 os settings.loopback settings.ipv6).run Socket.fresh
  { trace := socket.history
    result := result.map fun reach => { transport := .v6 reach, v6 := socket } }

/-- Sockets for both families, the IPv6 socket only if there is one for IPv4. -/
def both (os : OperatingSystem) (settings : Settings) : Opening :=
  let first := ipv4 os settings
  match first.result with
  | .error _ => first
  | .ok opened =>
    let second := ipv6 os settings
    { trace := first.trace ++ second.trace
      result := second.result.map fun opened6 =>
        { opened6 with
          transport := (opened6.transport.reach?.map .both).getD .v4, v4 := opened.v4 } }

/-- Sockets for a scope; for IPv4 alone if those for both cannot be had. -/
def forScope (os : OperatingSystem) (settings : Settings) : IpScope → Opening
  | .v4 => ipv4 os settings
  | .v6 => ipv6 os settings
  | .any =>
    let first := both os settings
    match first.result with
    | .ok _ => first
    | .error errno =>
      let second := ipv4 os settings
      { trace := first.trace ++ second.trace
        notices := [.ipv6Unavailable (.system errno)]
        result := second.result }

end Opening

/-- The responder on sockets that were opened. -/
def Responder.on (os : OperatingSystem) (settings : Settings) (opened : Opened) : Responder where
  machine := { os, now := 0, v4 := opened.v4, v6 := opened.v6, inbox := [], sent := [] }
  settings
  hostName := settings.hostName.getD os.shortHostName
  scope := opened.transport.scope
  link := .waiting opened.transport
  state := .connecting
  events := []
  outgoing := []
  services := []
  announcements := []
  browsing := none
  resolving := []
  nextResolution := 0

/-- The responder for a scope, or why there is none. -/
def Responder.build (os : OperatingSystem) (settings : Settings) (scope : IpScope) :
    Opening × Except IoFault Responder :=
  let opening := Opening.forScope os settings scope
  (opening, match opening.result with
    | .ok opened => .ok (.on os settings opened)
    | .error errno => .error (.system errno))

/-- An agent with a responder of its own on both families; without an engine if there can be
none. -/
def Agent.onSystem (os : OperatingSystem) : Opening × Agent Responder × List Notice :=
  let (opening, built) := Responder.build os {} .any
  match built with
  | .ok responder => (opening, .resting responder, opening.notices)
  | .error fault => (opening, .unavailable, opening.notices ++ [.engineUnbuilt fault])

end ServiceDiscovery
