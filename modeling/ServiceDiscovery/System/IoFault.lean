import ServiceDiscovery.System.Errno

/-!
# Input and output that fails

What can go wrong on the way to the operating system and the network: the system refuses a call,
or the library sees that a call makes no sense before making it.
-/

namespace ServiceDiscovery

/-- A kind of message that is sent. -/
inductive PacketKind
  | query
  | response
deriving DecidableEq, Repr

def PacketKind.label : PacketKind → String
  | query => "Query"
  | response => "Response"

/-- Why input or output failed. -/
inductive IoFault
  /-- The operating system refused a call. -/
  | system (errno : Errno)
  /-- An interface name holds a null character. -/
  | badInterfaceName
  /-- A packet was to go to a family that no socket is open for. -/
  | noSocketFor
  /-- The sockets have been given up. -/
  | socketClosed
  /-- A name would take this many octets in a message, more than a name may. -/
  | nameTooLong (kind : PacketKind) (octets : Nat)
  /-- Any other failure, described. -/
  | other (text : String)
deriving DecidableEq, Repr

def IoFault.message : IoFault → String
  | system errno => errno.message
  | badInterfaceName => "Invalid interface name"
  | noSocketFor => "Invalid address"
  | socketClosed => "mDNS socket closed"
  | nameTooLong kind octets =>
    kind.label ++ " packet failed to serialize: name label data exceed 255: " ++ toString octets
  | other text => text

end ServiceDiscovery
