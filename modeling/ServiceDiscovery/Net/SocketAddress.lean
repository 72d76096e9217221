import ServiceDiscovery.Net.AddressText

/-!
# Socket addresses

An address with a port.  An IPv6 socket address also says on which interface the address is
meant, 0 standing for none in particular: a link-local address is ambiguous without it.  The
interface is written behind a percent sign, unless it is 0.
-/

namespace ServiceDiscovery

/-- An address and a port, for IPv6 with the interface the address is meant on. -/
inductive SocketAddress
  | v4 (address : Ipv4) (port : UInt16)
  | v6 (address : Ipv6) (port : UInt16) (interface : UInt32)
deriving DecidableEq, Repr

namespace SocketAddress

def family : SocketAddress → Family
  | v4 .. => .v4
  | v6 .. => .v6

/-- The scope that holds the address's family alone. -/
def scope (x : SocketAddress) : IpScope := x.family.scope

/-- The interface, 0 for an IPv4 address. -/
def interface : SocketAddress → UInt32
  | v4 .. => 0
  | v6 _ _ i => i

/-- The socket address on no interface in particular. -/
def ofAddress : IpAddress → UInt16 → SocketAddress
  | .v4 x, port => v4 x port
  | .v6 x, port => v6 x port 0

def spell : SocketAddress → List Char
  | v4 x port => x.spell ++ ':' :: decimalDigits port.toNat
  | v6 x port i =>
    '[' :: x.spell ++ (if i = 0 then [] else '%' :: decimalDigits i.toNat) ++
      ']' :: ':' :: decimalDigits port.toNat

def text (x : SocketAddress) : String := String.ofList x.spell

/-! ### Reading -/

/-- A decimal number below a limit. -/
def readBelow? (limit : Nat) (cs : List Char) : Option Nat :=
  if cs = [] then none
  else (readDigits? decimalValue? 10 cs).bind fun n => if n < limit then some n else none

/-- An IPv6 address, perhaps with an interface behind a percent sign. -/
def readHost? (cs : List Char) : Option (Ipv6 × UInt32) :=
  match cs.splitOn '%' with
  | [host] => (Ipv6.read? host).map (·, 0)
  | [host, interface] => do
    return (← Ipv6.read? host, UInt32.ofNat (← readBelow? 4294967296 interface))
  | _ => none

def read? : List Char → Option SocketAddress
  | '[' :: cs =>
    match cs.splitOn ']' with
    | [host, ':' :: port] => do
      let (address, interface) ← readHost? host
      return v6 address (UInt16.ofNat (← readBelow? 65536 port)) interface
    | _ => none
  | cs =>
    match cs.splitOn ':' with
    | [host, port] => do
      return v4 (← Ipv4.read? host) (UInt16.ofNat (← readBelow? 65536 port))
    | _ => none

def parse? (text : String) : Option SocketAddress := read? text.toList

end SocketAddress

end ServiceDiscovery
