import ServiceDiscovery.Net.SocketAddress
import Std.Data.ExtTreeMap

/-!
# What is advertised and what is found

A server advertises itself as an instance of a service type, with a port and attributes
(`Advertisement`); a client that resolves the instance learns how to reach it (`Contact`).  The
servers found here share one service type, and each carries an identity tag as an attribute, by
which a client recognises the same server on both families.
-/

namespace ServiceDiscovery

/-- The attributes of an instance, by name. -/
abbrev Attributes := Std.ExtTreeMap String String

/-- An instance of a service, as its server announces it. -/
structure Advertisement where
  name : String
  serviceType : String
  port : UInt16
  txt : Attributes
  /-- The families to announce the instance on. -/
  scope : IpScope

/-- How to reach an instance. -/
structure Contact where
  hostName : String
  address : IpAddress
  port : UInt16
  txt : Attributes

/-- The first part of the name of every instance that is advertised. -/
def productName : String := "SoapyRemote"

/-- The service type of the servers. -/
def serverType : String := "_soapy._tcp"

/-- The attribute with the identity tag of a server. -/
def tagAttribute : String := "uuid"

/-- The domain in which instances live. -/
def domain : String := "local"

/-- The identity tag of a contact; an empty one is none. -/
def Contact.tag? (c : Contact) : Option String :=
  (c.txt[tagAttribute]?).filter (· ≠ "")

/-- What a server on this host advertises. -/
def Advertisement.ofServer (hostName tag : String) (port : UInt16) (scope : IpScope) :
    Advertisement where
  name := productName ++ " @ " ++ hostName
  serviceType := serverType
  port
  txt := (∅ : Attributes).insert tagAttribute tag
  scope

end ServiceDiscovery
