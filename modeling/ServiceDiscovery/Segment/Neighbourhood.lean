import ServiceDiscovery.Segment.Member
import ServiceDiscovery.Discovery.Agent

/-!
# Agents that share a segment

A `Neighbourhood` is a segment with the agents on it, each under a name.  Only one agent acts at a
time (`visit`): it finds the segment as the others left it, and leaves it behind as it changed it.
-/

namespace ServiceDiscovery

/-- A segment and the agents on it. -/
structure Neighbourhood where
  segment : Segment
  agents : List (String × Agent Seat)

namespace Neighbourhood

/-- A quiet segment without agents. -/
def empty : Neighbourhood := { segment := .quiet, agents := [] }

instance : Inhabited Neighbourhood := ⟨empty⟩

/-- The agent, finding the segment as it is. -/
def seated (segment : Segment) (a : Agent Seat) : Agent Seat :=
  a.mapEngine fun seat => { seat with segment }

/-- The segment as an agent leaves it. -/
def left (segment : Segment) (a : Agent Seat) : Segment :=
  match a.engine? with
  | some seat => seat.segment
  | none => segment

def agent? (name : String) (n : Neighbourhood) : Option (Agent Seat) := n.agents.lookup name

/-- Puts an agent in place of the one of that name. -/
def replace (name : String) (a : Agent Seat) (n : Neighbourhood) : Neighbourhood :=
  { n with agents := n.agents.map fun (other, b) => (other, if other = name then a else b) }

/-- Lets the agent of a name act, if there is one. -/
def visit {α : Type} (name : String) (act : Agent Seat → α × Agent Seat) (n : Neighbourhood) :
    Option α × Neighbourhood :=
  match n.agent? name with
  | none => (none, n)
  | some a =>
    let (result, a) := act (seated n.segment a)
    (some result, { n.replace name a with segment := left n.segment a })

/-- Takes an agent in under a name that is free. -/
def join (name : String) (a : Agent Seat) (n : Neighbourhood) : Neighbourhood :=
  { n with agents := n.agents ++ [(name, a)] }

/-- Sends the agent of a name away; what it had posted is withdrawn. -/
def dismiss (name : String) (n : Neighbourhood) : Neighbourhood :=
  match n.agent? name with
  | none => n
  | some a =>
    { segment := ((seated n.segment a).close.map (·.segment)).getD n.segment
      agents := n.agents.filter (·.1 ≠ name) }

/-- Lets the event loops of all agents run until they wait. -/
def settle (n : Neighbourhood) : Neighbourhood × List Notice :=
  n.agents.foldl
    (fun (n, notices) (name, _) =>
      let (effects, n) := n.visit name fun a => a.settle.swap
      (n, notices ++ (effects.map (·.notices)).getD []))
    (n, [])

end Neighbourhood

end ServiceDiscovery
