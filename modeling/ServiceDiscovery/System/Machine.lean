import ServiceDiscovery.Net.SocketAddress
import ServiceDiscovery.System.IoFault
import ServiceDiscovery.Text.Utf8
import Std.Data.ExtTreeSet

/-!
# The operating system

What the library asks of the operating system, and how it answers.  An `OperatingSystem` knows the
name of the host and its network interfaces, and grants or refuses calls on sockets; its answer may
depend on the call and on everything that was called on the same socket before (`refuses`).  A
`Socket` is the record of these calls, from which its multicast interface can be read
(`Socket.through`).

A list of interfaces leaves out those without an address and IPv6 addresses that are link-local.
The host name counts up to its first dot; a host that has no usable name is called `localhost`.
-/

namespace ServiceDiscovery

/-- A network interface, with one of its addresses. -/
structure Interface where
  name : String
  index : UInt32
  address : Option IpAddress
deriving DecidableEq, Repr

/-- A call on a socket. -/
inductive Call
  | openSocket (family : Family)
  | reuseAddress (family : Family)
  | onlyIpv6
  | loopback (family : Family) (on : Bool)
  | reusePort (family : Family)
  /-- Joins the multicast group on an interface. -/
  | joinIpv4 (interface : Ipv4)
  | joinIpv6 (interface : UInt32)
  /-- Selects the interface through which IPv6 multicasts go. -/
  | selectInterface (index : UInt32)
  | bind (family : Family)
  /-- Sends a packet; a multicast goes through the interface given. -/
  | send (family : Family) (destination : SocketAddress) (through : UInt32)
deriving DecidableEq, Repr

/-- The port of multicast DNS. -/
def multicastPort : UInt16 := 5353

/-- The IPv4 group of multicast DNS. -/
def ipv4Group : Ipv4 := ⟨224, 0, 0, 251⟩

/-- The IPv6 group of multicast DNS. -/
def ipv6Group : Ipv6 := .ofGroups 0xff02 0 0 0 0 0 0 0xfb

/-- The group of a family, as a destination. -/
def groupAddress : Family → SocketAddress
  | .v4 => .v4 ipv4Group multicastPort
  | .v6 => .v6 ipv6Group multicastPort 0

namespace Call

/-- The names a call goes by, the plainest first.  Sending goes by the family alone, by the
destination and by the interface. -/
def names : Call → List String
  | openSocket f => [f.name ++ " socket udp"]
  | reuseAddress f => [f.name ++ " reuse_address 1"]
  | onlyIpv6 => ["v6 only_v6 1"]
  | loopback f on => [f.name ++ " multicast_loop " ++ (if on then "1" else "0")]
  | reusePort f => [f.name ++ " reuse_port 1"]
  | joinIpv4 i => ["v4 join " ++ ipv4Group.text ++ " on " ++ i.text]
  | joinIpv6 i => ["v6 join " ++ ipv6Group.text ++ " on " ++ toString i.toNat]
  | selectInterface i => ["v6 multicast_if " ++ toString i.toNat]
  | bind f =>
    let any := SocketAddress.ofAddress
      (match f with | .v4 => .v4 .unspecified | .v6 => .v6 .unspecified) multicastPort
    [f.name ++ " bind " ++ any.text]
  | send f destination through =>
    [f.name ++ " send", f.name ++ " send " ++ destination.text,
      f.name ++ " send if " ++ toString through.toNat]

end Call

/-- A call that was made, and why it was refused if it was. -/
structure Attempt where
  call : Call
  refusal : Option Errno
deriving DecidableEq, Repr

/-- How an attempt is shown. -/
def Attempt.text (a : Attempt) : String :=
  a.call.names.headD "" ++
    match a.refusal with
    | none => ""
    | some errno => " -> " ++ toString errno.number

/-- What is asked of an operating system, and its answers. -/
structure OperatingSystem where
  /-- The octets of the host name. -/
  hostName : Except Errno (List UInt8)
  interfaces : List Interface
  /-- Why the interfaces cannot be listed, if they cannot. -/
  listingFault : Option Errno
  /-- Why open sockets cannot be attached to an event loop, if they cannot. -/
  attachFault : Option Errno := none
  /-- Why a call is refused after earlier ones on the same socket, oldest first; none if it is
  granted. -/
  refuses : List Attempt → Call → Option Errno

namespace OperatingSystem

/-- The interfaces as they are listed, by name and address; none if they cannot be listed. -/
def listed (os : OperatingSystem) : List (String × IpAddress) :=
  if os.listingFault.isSome then []
  else os.interfaces.filterMap fun i =>
    (i.address.filter (!·.isLinkLocal)).map (i.name, ·)

/-- The index of the interface of a name. -/
def indexOf (name : String) (os : OperatingSystem) : Except IoFault UInt32 :=
  if name.contains '\x00' then .error .badInterfaceName
  else
    match os.interfaces.find? (·.name = name) with
    | some i => if i.index = 0 then .error (.system .noDevice) else .ok i.index
    | none => .error (.system .noDevice)

/-- The name of the host, up to its first dot. -/
def shortHostName (os : OperatingSystem) : String :=
  let name? := do
    let octets ← os.hostName.toOption
    let name ← Utf8.decode? (octets.takeWhile (· ≠ 0))
    let short := String.ofList (name.toList.takeWhile (· ≠ '.'))
    if short = "" then none else some short
  name?.getD "localhost"

/-- The answer that refuses a call if one of its names is listed. -/
def refusalByName (listed : String → Option Errno) (_ : List Attempt) (c : Call) : Option Errno :=
  c.names.findSome? listed

end OperatingSystem

/-- What was called on a socket, oldest first. -/
structure Socket where
  history : List Attempt
deriving DecidableEq, Repr

namespace Socket

/-- The socket on which nothing was called. -/
def fresh : Socket := ⟨[]⟩

/-- The interface through which multicasts go, 0 until one is selected. -/
def through (s : Socket) : UInt32 :=
  (s.history.reverse.findSome? fun
    | ⟨.selectInterface i, none⟩ => some i
    | _ => none).getD 0

/-- Makes a call. -/
def attempt (os : OperatingSystem) (c : Call) (s : Socket) : Except Errno Unit × Socket :=
  let refusal := os.refuses s.history c
  (match refusal with
    | none => .ok ()
    | some errno => .error errno,
    ⟨s.history ++ [⟨c, refusal⟩]⟩)

end Socket

end ServiceDiscovery
