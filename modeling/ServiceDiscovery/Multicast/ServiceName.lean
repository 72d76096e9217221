import ServiceDiscovery.Discovery.Advertisement
import ServiceDiscovery.Discovery.Refusal
import ServiceDiscovery.Dns.Reader
import ServiceDiscovery.Text.Quoted

/-!
# Names of services

A service type is a few labels in the local domain, an instance of it one label more, and a host
a single label in the local domain.  Type and host are given as text; the text of a type is cut at
its dots, and nothing between two dots is no label.  The label of an instance is free text and is
taken as it is, dots and all.
-/

namespace ServiceDiscovery

open Dns (Name Packet)

/-- The label of the local domain. -/
def domainLabel : Dns.Label := Utf8.bytes domain

/-- Refuses labels that make no name, quoting the text they come from. -/
def nameOf (text : String) (labels : List Dns.Label) : Except Refusal Name :=
  (Name.ofLabels labels).mapError fun fault =>
    .badName (Text.quoted text ++ ": " ++ fault.message)

/-- The labels in a text, between its dots. -/
def labelsOf (text : String) : List Dns.Label :=
  ((text.toList.splitOn '.').filter (· ≠ [])).map Utf8.encode

/-- The name of a service type. -/
def typeName (text : String) : Except Refusal Name :=
  nameOf text (labelsOf text ++ [domainLabel])

/-- The name of an instance of a type. -/
def nameInType (text : String) (type : Name) : Except Refusal Name :=
  nameOf text (Utf8.bytes text :: type.labels)

/-- The name of a host. -/
def hostNameOf (text : String) : Except Refusal Name :=
  nameOf text [Utf8.bytes text, domainLabel]

/-- The text of an instance, read off its name. -/
def instanceText? (n : Name) : Option String := n.head?.map Utf8.textLossy

/-- The packet that asks for the records of a type that a name owns. -/
def questionPacket (name : Name) (type : Dns.RecordType) (unicast : Bool) : Except IoFault Packet :=
  (Dns.Message.query { name, type, unicast }).encode.mapError (.nameTooLong .query)

end ServiceDiscovery
