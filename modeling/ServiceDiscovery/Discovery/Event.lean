import ServiceDiscovery.Discovery.Sighting
import ServiceDiscovery.Discovery.Advertisement

/-!
# Events of an engine

A discovery engine answers requests at once and reports everything that happens afterwards as
events: on itself, on what it publishes, on what it sees while browsing, and on the resolutions it
was asked for, each of which ends in exactly one event unless it is released first.
-/

namespace ServiceDiscovery

/-- The state of an engine. -/
inductive EngineState
  | connecting
  | running
  /-- Another host has the name of this one. -/
  | collision
  | failure
deriving DecidableEq, Repr

/-- What an engine reports. -/
inductive Event
  /-- The engine entered a state. -/
  | engine (state : EngineState)
  /-- What was published is announced on the network. -/
  | established
  /-- Another host has an instance of the name that was published. -/
  | nameTaken
  | publishFailed (reason : String)
  /-- An instance is there. -/
  | appeared (sighting : Sighting)
  /-- An instance is gone. -/
  | vanished (sighting : Sighting)
  /-- Everything that was known when browsing started has been reported. -/
  | cacheExhausted
  /-- Everything known so far has been reported. -/
  | allForNow
  /-- Browsing failed, and nothing more will be reported of it. -/
  | browseFailed (reason : String)
  /-- A resolution succeeded. -/
  | found (id : Nat) (contact : Contact)
  /-- A resolution failed. -/
  | unresolved (id : Nat) (reason : String)

/-- The resolution an event ends. -/
def Event.resolution? : Event → Option Nat
  | found id _ => some id
  | unresolved id _ => some id
  | _ => none

end ServiceDiscovery
