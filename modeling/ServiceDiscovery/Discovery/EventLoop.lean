import ServiceDiscovery.Discovery.Sweep

/-!
# The event loop

An event loop owns an engine and everything discovered through it.  Callers send commands, each
under a ticket of their own, and get replies under the same ticket; between commands the loop asks
the engine for events.

A query for servers waits until the first sweep is complete (`EventLoop.parked`); the query that
finds the sweep not started starts it, and so decides on its scope.  Once the sweep is complete,
all parked queries get the same answer at the end of that very step, and later queries are answered
at once.  If the engine has failed or refuses to browse, the answer is that there are no servers.
-/

namespace ServiceDiscovery

/-- What a caller asks of the loop. -/
inductive Command
  /-- Whether the engine is usable. -/
  | status
  | info
  | publish (advertisement : Advertisement)
  /-- The servers; the scope counts if this is what starts the sweep. -/
  | query (scope : IpScope)

/-- What the loop answers. -/
inductive Reply
  | status (usable : Bool)
  | info (info : EngineInfo)
  | publish (result : Except Refusal Unit)
  | urls (urls : Urls)

/-- What a step shows outside. -/
structure Effects where
  /-- Replies by ticket, in order. -/
  replies : List (Nat × Reply) := []
  notices : List Notice := []

instance : Append Effects := ⟨fun a b => ⟨a.replies ++ b.replies, a.notices ++ b.notices⟩⟩

@[simp] theorem Effects.replies_append (a b : Effects) :
    (a ++ b).replies = a.replies ++ b.replies := rfl

/-- An engine with everything discovered through it. -/
structure EventLoop (σ : Type) where
  engine : σ
  sweep : Sweep
  /-- The tickets of queries that wait, in the order in which they came. -/
  parked : List Nat

namespace EventLoop

variable {σ : Type} [Engine σ]

/-- The loop that has just got its engine. -/
def ofEngine (engine : σ) : EventLoop σ := { engine, sweep := .fresh, parked := [] }

/-- Answers the parked queries if the sweep is complete. -/
def answerParked (l : EventLoop σ) : EventLoop σ × Effects :=
  if l.sweep.progress = .complete then
    ({ l with parked := [] }, { replies := l.parked.map (·, .urls l.sweep.urls) })
  else (l, {})

/-- Answers a query at once or parks it. -/
def query (ticket : Nat) (scope : IpScope) (l : EventLoop σ) : EventLoop σ × Effects :=
  match l.sweep.progress with
  | .idle =>
    -- a failed engine is not even asked
    if Engine.failed l.engine then (l, { replies := [(ticket, .urls ∅)] })
    else
      match l.sweep.start scope l.engine with
      | (.ok (), sweep, engine) => ({ l with sweep, engine, parked := l.parked ++ [ticket] }, {})
      | (.error refusal, sweep, engine) =>
        ({ l with sweep, engine },
          { replies := [(ticket, .urls ∅)], notices := [.browsingRefused refusal] })
  | .browsing => ({ l with parked := l.parked ++ [ticket] }, {})
  | .complete => (l, { replies := [(ticket, .urls l.sweep.urls)] })

/-- Does what a command asks for. -/
def obey (ticket : Nat) (command : Command) (l : EventLoop σ) : EventLoop σ × Effects :=
  match command with
  | .status => (l, { replies := [(ticket, .status !(Engine.failed l.engine))] })
  | .info => (l, { replies := [(ticket, .info (Engine.info l.engine))] })
  | .publish advertisement =>
    let (result, engine) := Engine.publish advertisement l.engine
    ({ l with engine }, { replies := [(ticket, .publish result)] })
  | .query scope => l.query ticket scope

/-- Takes in an event. -/
def handle (event : Event) (l : EventLoop σ) : EventLoop σ × List Notice :=
  match event with
  | .engine .failure =>
    let (sweep, engine) := l.sweep.giveUp l.engine
    ({ l with sweep, engine }, [.engineFailed])
  | .engine .collision => (l, [.hostNameTaken])
  | .engine _ => (l, [])
  | .established => (l, [])
  | .nameTaken => (l, [.instanceNameTaken])
  | .publishFailed reason => (l, [.publishingFailed reason])
  -- everything else is about browsing or about a resolution
  | event =>
    let (sweep, engine, notices) := l.sweep.handle event l.engine
    ({ l with sweep, engine }, notices)

/-- The step that serves a command. -/
def serve (ticket : Nat) (command : Command) (l : EventLoop σ) : EventLoop σ × Effects :=
  let (l, effects) := l.obey ticket command
  let (l, released) := l.answerParked
  (l, effects ++ released)

/-- The step that takes in an event. -/
def receive (event : Event) (l : EventLoop σ) : EventLoop σ × Effects :=
  let (l, notices) := l.handle event
  let (l, released) := l.answerParked
  (l, { notices } ++ released)

/-- Asks the engine for an event and takes it in; says whether there was one. -/
def poll (l : EventLoop σ) : Bool × EventLoop σ × Effects :=
  let turn := Engine.next l.engine
  let l := { l with engine := turn.engine }
  match turn.event with
  | none => (false, l, { notices := turn.notices })
  | some event =>
    let (l, effects) := l.receive event
    (true, l, { notices := turn.notices } ++ effects)

/-- Polls until there is no event, at most `limit` times. -/
def run : (limit : Nat) → EventLoop σ → EventLoop σ × Effects
  | 0, l => (l, {})
  | limit + 1, l =>
    match l.poll with
    | (false, l, effects) => (l, effects)
    | (true, l, effects) =>
      let (l, rest) := run limit l
      (l, effects ++ rest)

/-- Polls until the engine waits.  Each event in its backlog leads to at most one resolution, and
each of these to one more event. -/
def settle (l : EventLoop σ) : EventLoop σ × Effects :=
  l.run (2 * Engine.backlog l.engine + 1)

/-! ### What taking in an event leaves alone -/

@[simp] theorem parked_handle (event : Event) (l : EventLoop σ) :
    (l.handle event).1.parked = l.parked := by
  unfold handle; split <;> rfl

@[simp] theorem started_handle (event : Event) (l : EventLoop σ) :
    (l.handle event).1.sweep.started = l.sweep.started := by
  unfold handle; split <;> simp

omit [Engine σ] in
@[simp] theorem sweep_answerParked (l : EventLoop σ) : l.answerParked.1.sweep = l.sweep := by
  unfold answerParked; split <;> rfl

omit [Engine σ] in
@[simp] theorem engine_answerParked (l : EventLoop σ) : l.answerParked.1.engine = l.engine := by
  unfold answerParked; split <;> rfl

/-! ### Steps end by answering the parked queries -/

theorem serve_fst (ticket : Nat) (command : Command) (l : EventLoop σ) :
    (l.serve ticket command).1 = (l.obey ticket command).1.answerParked.1 := rfl

theorem replies_serve (ticket : Nat) (command : Command) (l : EventLoop σ) :
    (l.serve ticket command).2.replies =
      (l.obey ticket command).2.replies ++ (l.obey ticket command).1.answerParked.2.replies := rfl

theorem receive_fst (event : Event) (l : EventLoop σ) :
    (l.receive event).1 = (l.handle event).1.answerParked.1 := rfl

theorem replies_receive (event : Event) (l : EventLoop σ) :
    (l.receive event).2.replies = (l.handle event).1.answerParked.2.replies := rfl

/-- Stops the loop: the engine is closed, and the tickets of queries that got no answer are
returned. -/
def stop (l : EventLoop σ) : List Nat × σ := (l.parked, Engine.close l.engine)

end EventLoop

end ServiceDiscovery
