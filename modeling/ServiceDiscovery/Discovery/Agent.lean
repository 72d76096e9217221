import ServiceDiscovery.Discovery.EventLoop

/-!
# Agents

An `Agent` is what a program holds to announce its server and to find others.  Nothing it is asked
for fails outwardly: what goes wrong is noted and turns into nothing or an empty answer, so a
program whose network is unusable keeps working without discovery.

An agent without an engine does nothing.  One with an engine starts the event loop when it first
has something to run it for: a registration that the engine accepts, or a query while the engine
has not failed.
-/

namespace ServiceDiscovery

/-- A program's access to discovery. -/
inductive Agent (σ : Type)
  /-- There is no engine. -/
  | unavailable
  /-- There is an engine that nobody runs yet. -/
  | resting (engine : σ)
  /-- The event loop runs the engine. -/
  | running (loop : EventLoop σ)

namespace Agent

variable {σ : Type}

/-- The engine, wherever it is. -/
def engine? : Agent σ → Option σ
  | unavailable => none
  | resting engine => some engine
  | running loop => some loop.engine

/-- Changes the engine, wherever it is. -/
def mapEngine (f : σ → σ) : Agent σ → Agent σ
  | unavailable => unavailable
  | resting engine => resting (f engine)
  | running loop => running { loop with engine := f loop.engine }

variable [Engine σ]

/-- Starts the event loop, if there is an engine that nobody runs. -/
def start : Agent σ → Agent σ
  | resting engine => running (.ofEngine engine)
  | agent => agent

/-- Whether there is an engine that has not failed. -/
def status : Agent σ → Bool
  | unavailable => false
  | resting engine => !(Engine.failed engine)
  | running loop => !(Engine.failed loop.engine)

def info? (a : Agent σ) : Option EngineInfo := a.engine?.map Engine.info

/-- The facts about the engine, as notices. -/
def facts (a : Agent σ) : List Notice :=
  match a.info? with
  | some info =>
    [.version info.version, .hostName info.hostName, .domain info.domain,
      .fullHostName info.fullHostName]
  | none => [.noEngine]

/-- The notices that the result of publishing leaves. -/
def registrationNotices : Except Refusal Unit → List Notice
  | .ok () => []
  | .error refusal => [.registrationRefused refusal]

/-- What replies say about publishing under a ticket. -/
def publishNotices (replies : List (Nat × Reply)) : List Notice :=
  replies.flatMap fun
    | (_, .publish result) => registrationNotices result
    | _ => []

/-- Announces a server with an identity tag that listens on a port, given as text. -/
def register (tag port : String) (scope : IpScope) (a : Agent σ) : Agent σ × List Notice :=
  match Text.parsePort port with
  | .error fault => (a, [.badPort port fault])
  | .ok number =>
    match a with
    | unavailable => (a, [.registeredWithoutEngine])
    | resting engine =>
      if Engine.failed engine then (a, [.registeredNowhere])
      else
        match Engine.publish
            (.ofServer (Engine.info engine).hostName tag number scope) engine with
        | (.ok (), engine) => ((resting engine).start, [])
        | (.error refusal, engine) => (resting engine, [.registrationRefused refusal])
    | running loop =>
      let advertisement := .ofServer (Engine.info loop.engine).hostName tag number scope
      let (loop, effects) := loop.serve 0 (.publish advertisement)
      (running loop, effects.notices ++ publishNotices effects.replies)

/-- Asks for the servers: sends the query to the event loop, which is started if need be.  Without
an engine, or with one that failed before the loop was started, there is none to ask. -/
def ask (ticket : Nat) (scope : IpScope) (a : Agent σ) : Agent σ × Effects :=
  match a with
  | unavailable => (a, { replies := [(ticket, .urls ∅)] })
  | resting engine =>
    if Engine.failed engine then (a, { replies := [(ticket, .urls ∅)] })
    else
      let (loop, effects) := (EventLoop.ofEngine engine).serve ticket (.query scope)
      (running loop, effects)
  | running loop =>
    let (loop, effects) := loop.serve ticket (.query scope)
    (running loop, effects)

/-- Lets the event loop run until the engine waits. -/
def settle : Agent σ → Agent σ × Effects
  | running loop =>
    let (loop, effects) := loop.settle
    (running loop, effects)
  | agent => (agent, {})

/-- The URLs that replies give under a ticket. -/
def urlsFor? (ticket : Nat) (replies : List (Nat × Reply)) : Option Urls :=
  replies.findSome? fun
    | (t, .urls urls) => if t = ticket then some urls else none
    | _ => none

/-- Asks for the servers and waits for the answer as long as the engine has anything to report. -/
def urls? (scope : IpScope) (a : Agent σ) : Option Urls × Agent σ × List Notice :=
  let (a, asked) := a.ask 0 scope
  let (a, waited) := a.settle
  (urlsFor? 0 (asked.replies ++ waited.replies), a, asked.notices ++ waited.notices)

/-- Closes the engine; what is left of it is returned. -/
def close : Agent σ → Option σ
  | unavailable => none
  | resting engine => some (Engine.close engine)
  | running loop => some loop.stop.2

end Agent

end ServiceDiscovery
