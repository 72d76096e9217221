import ServiceDiscovery.Discovery.Refusal
import ServiceDiscovery.Discovery.Sighting
import ServiceDiscovery.Text.PortNumber

/-!
# Notices

Nothing that goes wrong in discovery stops a program: it is noted and turns into an empty answer.
A `Notice` is what is noted, with its cause; `Notice.text` and `Notice.severity` are how it is
shown.
-/

namespace ServiceDiscovery

inductive Severity
  | error
  | warning
  | info
deriving DecidableEq, Repr

/-- Something worth telling the people who run a program. -/
inductive Notice
  /-- A sighting cannot be resolved. -/
  | unresolvable (sighting : Sighting) (refusal : Refusal)
  /-- Browsing broke off. -/
  | browsingFailed (reason : String)
  /-- Browsing cannot start. -/
  | browsingRefused (refusal : Refusal)
  | engineFailed
  | hostNameTaken
  | instanceNameTaken
  | publishingFailed (reason : String)
  /-- The port of a service to register is no port. -/
  | badPort (text : String) (fault : Text.PortFault)
  /-- A service is not registered because the engine has failed. -/
  | registeredNowhere
  /-- A service is not registered because there is no engine. -/
  | registeredWithoutEngine
  | registrationRefused (refusal : Refusal)
  /-- The engine cannot be built. -/
  | engineUnbuilt (fault : IoFault)
  /-- The sockets of the engine failed. -/
  | socketFailed (fault : IoFault)
  /-- Only IPv4 is used, for the reason given. -/
  | ipv6Unavailable (fault : IoFault)
  | sendFailed (fault : IoFault)
  /-- Events of the segment went by unseen. -/
  | eventsMissed (count : Nat)
  /-- A fact about the engine. -/
  | version (text : String)
  | hostName (text : String)
  | domain (text : String)
  | fullHostName (text : String)
  | noEngine
deriving DecidableEq, Repr

namespace Notice

def text : Notice → String
  | unresolvable sighting refusal =>
    "Failed to resolve " ++ sighting.text ++ ": " ++ refusal.message
  | browsingFailed reason => "Browser failure: " ++ reason
  | browsingRefused refusal => "Failed to create browser: " ++ refusal.message
  | engineFailed => "Discovery client failure"
  | hostNameTaken => "Discovery client failure: host name collision"
  | instanceNameTaken => "Service registration failure: name collision"
  | publishingFailed reason => "Service registration failure: " ++ reason
  | badPort text fault =>
    "Not registering service: invalid port " ++ Text.quoted text ++ ": " ++ fault.message
  | registeredNowhere => "Not registering service: discovery client failed"
  | registeredWithoutEngine => "Not registering service: discovery unavailable"
  | registrationRefused refusal => "Failed to register service: " ++ refusal.message
  | engineUnbuilt fault => "Failed to start mDNS provider: " ++ fault.message
  | socketFailed fault => "mDNS socket error: " ++ fault.message
  | ipv6Unavailable fault =>
    "IPv6 multicast unavailable, falling back to IPv4 only: " ++ fault.message
  | sendFailed fault => "Failed to send mDNS packet: " ++ fault.message
  | eventsMissed count => "Mock browser missed " ++ toString count ++ " network events"
  | version text => "DNS-SD version:  " ++ text
  | hostName text => "DNS-SD hostname: " ++ text
  | domain text => "DNS-SD domain:   " ++ text
  | fullHostName text => "DNS-SD FQDN:     " ++ text
  | noEngine => "DNS-SD unavailable"

def severity : Notice → Severity
  | ipv6Unavailable _ | sendFailed _ | eventsMissed _ => .warning
  | version _ | hostName _ | domain _ | fullHostName _ | noEngine => .info
  | _ => .error

end Notice

end ServiceDiscovery
