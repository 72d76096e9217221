import ServiceDiscovery.System.IoFault
import ServiceDiscovery.Dns.Name

/-!
# Refused requests

Why a discovery engine does not do what it is asked for, and why stopping the event loop can fail.
-/

namespace ServiceDiscovery

/-- Why an engine refuses a request. -/
inductive Refusal
  /-- The engine has failed. -/
  | notRunning
  /-- A text is no DNS name, for the reason given. -/
  | badName (detail : String)
  /-- There is no local address to advertise in the scope asked for. -/
  | noAddress
  /-- An attribute takes more than 255 octets. -/
  | attributeTooLong
  /-- The records do not fit one message. -/
  | tooManyAddresses
  | alreadyBrowsing
  | notBrowsing
  /-- The engine declines, for the reason given. -/
  | rejected (reason : String)
  | io (fault : IoFault)
deriving DecidableEq, Repr

def Refusal.message : Refusal → String
  | notRunning => "The discovery provider is not running"
  | badName detail => "Bad DNS name: " ++ detail
  | noAddress => "The service requires at least one advertisement address"
  | attributeTooLong => "TXT record too long (max 255 bytes)"
  | tooManyAddresses => "There are too many IP addresses to advertise"
  | alreadyBrowsing => "Browsing has already started"
  | notBrowsing => "Browsing has not started"
  | rejected reason => reason
  | io fault => "I/O error: " ++ fault.message

/-- Why stopping the event loop failed. -/
inductive ShutdownFault
  | io (fault : IoFault)
  | panicked
deriving DecidableEq, Repr

def ShutdownFault.message : ShutdownFault → String
  | io fault => "I/O error: " ++ fault.message
  | panicked => "The event loop thread panicked"

end ServiceDiscovery
