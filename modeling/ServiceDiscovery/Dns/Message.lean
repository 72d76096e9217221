import ServiceDiscovery.Dns.Name
import ServiceDiscovery.Net.IpAddress

/-!
# DNS messages

A message asks questions or carries records.  Of a record the library looks at its owner, its time
to live and, for the types it knows, its data; every other record is only told apart by its type.
Records are of class IN throughout: class bits carry the two marks of multicast DNS, that an
answer may come by unicast (`Question.unicast`) and that a record replaces what is known
(`Record.cacheFlush`).
-/

namespace ServiceDiscovery.Dns

/-- The type of a record, or of the records a question asks for. -/
abbrev RecordType := UInt16

namespace RecordType

/-- The type that nothing has. -/
def zero : RecordType := 0
def a : RecordType := 1
def ns : RecordType := 2
def cname : RecordType := 5
def ptr : RecordType := 12
def hinfo : RecordType := 13
def mx : RecordType := 15
def txt : RecordType := 16
def aaaa : RecordType := 28
def srv : RecordType := 33
/-- The pseudo-record that carries extensions. -/
def opt : RecordType := 41
def ixfr : RecordType := 251
def axfr : RecordType := 252
/-- Asks for records of every type. -/
def any : RecordType := 255

end RecordType

/-- A question for the records of a type that a name owns. -/
structure Question where
  name : Name
  type : RecordType
  /-- Whether the answer may come by unicast. -/
  unicast : Bool
deriving DecidableEq

/-- What a record says. -/
inductive RecordData
  | ptr (target : Name)
  | srv (priority weight port : UInt16) (target : Name)
  | txt (entries : List (List UInt8))
  | a (address : Ipv4)
  | aaaa (address : Ipv6)
  /-- A record without data, or of a type that is not looked at. -/
  | other (type : RecordType)
deriving DecidableEq

/-- The type of a record that says this. -/
def RecordData.type : RecordData → RecordType
  | ptr .. => .ptr
  | srv .. => .srv
  | txt .. => .txt
  | a .. => .a
  | aaaa .. => .aaaa
  | other type => type

/-- What a name owns, for a time in seconds. -/
structure Record where
  owner : Name
  ttl : UInt32
  /-- Whether the record replaces what is known, rather than being added to it. -/
  cacheFlush : Bool
  data : RecordData
deriving DecidableEq

/-- Questions and records that travel together. -/
structure Message where
  isResponse : Bool
  /-- Whether records are missing for want of room. -/
  truncated : Bool
  questions : List Question
  answers : List Record
  additionals : List Record
deriving DecidableEq

namespace Message

/-- The records a receiver takes in, in the order in which they are written. -/
def records (m : Message) : List Record := m.answers ++ m.additionals

/-- A question on its own. -/
def query (question : Question) : Message :=
  { isResponse := false, truncated := false, questions := [question], answers := [],
    additionals := [] }

/-- Records in answer to no question in particular. -/
def response (answers additionals : List Record) : Message :=
  { isResponse := true, truncated := false, questions := [], answers, additionals }

end Message

end ServiceDiscovery.Dns
