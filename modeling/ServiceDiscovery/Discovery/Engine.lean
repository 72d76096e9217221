import ServiceDiscovery.Discovery.Event
import ServiceDiscovery.Discovery.Notice

/-!
# Discovery engines

An engine publishes, browses and resolves.  Requests are answered at once: a refused one may still
leave a trace in the engine, so the new state is returned in either case.  Everything else is
reported when the engine is asked for its next event (`Engine.next`); an engine that would have to
wait for the outside says so by giving none.

How many events an engine can give before it has to wait is bounded by its `backlog`, as long as
it is asked for nothing else; a resolution adds at most one.  So whoever handles its events until it
waits comes to an end (`Engine.drain`).
-/

namespace ServiceDiscovery

/-- What there is to know about an engine. -/
structure EngineInfo where
  version : String
  hostName : String
  domain : String
  /-- The host name with the domain. -/
  fullHostName : String
deriving DecidableEq, Repr

/-- The answer of an engine that is asked for its next event. -/
structure Turn (σ : Type) where
  /-- The event; none if the engine has to wait. -/
  event : Option Event
  /-- What was noted on the way. -/
  notices : List Notice
  engine : σ

/-- A discovery engine with states `σ`. -/
class Engine (σ : Type) where
  state : σ → EngineState
  info : σ → EngineInfo
  /-- Advertises until the engine is closed. -/
  publish : Advertisement → σ → Except Refusal Unit × σ
  /-- Starts to browse for instances of a service type on the families of a scope. -/
  browse : String → IpScope → σ → Except Refusal Unit × σ
  /-- Starts to resolve a sighting on the families of a scope, under a new number. -/
  resolve : Sighting → IpScope → σ → Except Refusal Nat × σ
  /-- Gives a resolution up; unknown numbers are ignored. -/
  release : Nat → σ → σ
  /-- Works until there is an event to report or nothing is left to do. -/
  next : σ → Turn σ
  /-- How many events may be reported before the engine waits. -/
  backlog : σ → Nat
  /-- Takes leave of the network. -/
  close : σ → σ

namespace Engine

variable {σ : Type} [Engine σ]

/-- Whether the engine has failed. -/
def failed (e : σ) : Bool := state e == .failure

/-- Up to `limit` events, in order, with what was noted on the way. -/
def take : (limit : Nat) → σ → List Event × List Notice × σ
  | 0, e => ([], [], e)
  | limit + 1, e =>
    let turn := next e
    match turn.event with
    | none => ([], turn.notices, turn.engine)
    | some event =>
      let (events, notices, e) := take limit turn.engine
      (event :: events, turn.notices ++ notices, e)

/-- All events until the engine waits. -/
def drain (e : σ) : List Event × List Notice × σ := take (backlog e + 1) e

end Engine

end ServiceDiscovery
