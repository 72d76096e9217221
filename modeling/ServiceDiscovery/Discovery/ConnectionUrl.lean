import ServiceDiscovery.Net.SocketAddress

/-!
# Connection URLs

A server that was found is shown as the URL under which it accepts connections.  If an IPv6
address was seen over IPv6, the URL carries the interface, because link-local addresses are
ambiguous without it (`effectiveInterface`).
-/

namespace ServiceDiscovery

/-- The interface that the URL of a server names, 0 for none. -/
def effectiveInterface (address : IpAddress) (protocol : IpScope) (interface : UInt32) : UInt32 :=
  match protocol, address with
  | .v6, .v6 _ => interface
  | _, _ => 0

/-- Where the connection goes. -/
def connectionAddress (address : IpAddress) (port : UInt16) (protocol : IpScope) (interface : UInt32) :
    SocketAddress :=
  match address with
  | .v4 x => .v4 x port
  | .v6 x => .v6 x port (effectiveInterface address protocol interface)

/-- The URL of a server whose instance was seen on a family and an interface. -/
def connectionUrl (address : IpAddress) (port : UInt16) (protocol : IpScope) (interface : UInt32) :
    String :=
  "tcp://" ++ (connectionAddress address port protocol interface).text

end ServiceDiscovery
