import ChatRouter.Dispatch.Connection
import ChatRouter.Dispatch.Handling
import ChatRouter.Dispatch.Routing
import ChatRouter.Dispatch.World

set_option autoImplicit false

/-!
# The pipeline

Tasks that run side by side: one forwarder for each connection, the event loop and the response router.
Forwarders merge the event streams into one bounded queue; the event loop handles one event after the
other and hands out requests; the router takes responses back. `Pipeline.step?` moves one task by one
effect, so any order of the tasks is a sequence of steps.
-/

namespace ChatRouter.Dispatch

inductive Forwarder where
  /-- The stream is not open: not yet, or because it could not be opened. -/
  | waiting
  | running
  | ended
deriving DecidableEq

structure Connection where
  state : ConnectionState
  inbox : List Event
  ended : Bool
  forwarder : Forwarder
deriving DecidableEq

namespace Connection

def unopened : Connection := ⟨.idle, [], false, .waiting⟩

def isForwarding (c : Connection) : Bool := c.forwarder = .running

end Connection

inductive EventLoop where
  | idle
  | handling (adapter : String) (work : Work (Option Request))
  /-- Waits for room in the queue of requests. -/
  | offering (adapter : String) (request : Request)
  | finished

inductive Router where
  | idle
  | routing (work : Work Unit)
  | finished

structure Pipeline where
  settings : Settings
  /-- The hash for an account that the n-th event creates. -/
  hashes : Nat → PasswordHash
  world : World
  unopened : List String
  connections : SortedMap String Connection
  /-- The events that forwarders have seen and not yet merged, in the order in which they were seen. -/
  held : List (String × Event)
  merged : List (String × Event)
  taken : Nat
  events : EventLoop
  requests : Outbox Request
  responses : List Response
  /-- Whether the host can still send responses. -/
  responding : Bool
  router : Router

inductive Task where
  | opening
  | forwarder (adapter : String)
  | events
  | router
deriving DecidableEq

namespace Pipeline

def initial (settings : Settings) (hashes : Nat → PasswordHash) (data : Faulty)
    (adapters : Registry Adapter) : Pipeline where
  settings
  hashes
  world := .initial data adapters settings.buffers.errors
  unopened := adapters.order
  connections := adapters.adapters.mapValues fun _ _ => .unopened
  held := []
  merged := []
  taken := 0
  events := .idle
  requests := .ofCapacity settings.buffers.requests
  responses := []
  responding := true
  router := .idle

/-- Opens the next stream. An adapter that fails to listen is reported and left out. -/
def stepOpening (p : Pipeline) : Option Pipeline :=
  match p.unopened with
  | [] => none
  | a :: rest =>
    let p := { p with unopened := rest }
    match p.world.adapters.get? a, p.connections.get? a with
    | some adapter, some c =>
      match adapter.listen with
      | .ok () =>
        some { p with connections := p.connections.insert a { c with state := .listening, forwarder := .running } }
      | .error cause =>
        some { p with
          connections := p.connections.insert a { c with state := .errored }
          world := p.world.raise (.listen a cause) }
    | _, _ => some p

def hasRoom (p : Pipeline) : Bool := p.merged.length < max 1 p.settings.buffers.events

/-- A forwarder merges the event that it holds, or takes the next one and lets it change the state. -/
def stepForwarder (p : Pipeline) (a : String) : Option Pipeline :=
  match p.held.find? (·.1 == a) with
  | some e =>
    if p.hasRoom then
      some { p with held := p.held.eraseP (·.1 == a), merged := p.merged ++ [e] }
    else none
  | none =>
    match p.connections.get? a with
    | some c =>
      match c.forwarder, c.inbox, c.ended with
      | .running, e :: rest, _ =>
        some { p with
          connections := p.connections.insert a { c with inbox := rest, state := c.state.after e }
          held := p.held ++ [(a, e)] }
      | .running, [], true =>
        some { p with connections := p.connections.insert a { c with state := .closed, forwarder := .ended } }
      | _, _, _ => none
    | none => none

/-- Whether an event may still come. -/
def listening (p : Pipeline) : Bool := !p.unopened.isEmpty || p.connections.values.any Connection.isForwarding

def stepEvents (p : Pipeline) : Option Pipeline :=
  match p.events with
  | .idle =>
    match p.merged with
    | (a, e) :: rest =>
      some { p with
        merged := rest
        taken := p.taken + 1
        world := p.world.count ⟨.eventsReceived, [a]⟩
        events := .handling a (handle p.settings (p.hashes p.taken) a e) }
    | [] => if p.listening then none else some { p with events := .finished }
  | .handling a (.ask effect next) =>
    let r := p.world.perform effect
    some { p with world := r.2, events := .handling a (next r.1) }
  | .handling _ (.done none) => some { p with events := .idle }
  | .handling a (.done (some request)) => some { p with events := .offering a request }
  | .offering a request =>
    if !p.requests.held then
      some { p with world := p.world.raise (.requestChannelClosed request.id), events := .idle }
    else if p.requests.hasRoom then
      some { p with
        requests := p.requests.push request
        world := p.world.count ⟨.requestsEmitted, [a]⟩
        events := .idle }
    else none
  | .finished => none

def isRegistered (p : Pipeline) (adapter : String) : Bool := (p.world.adapters.get? adapter).isSome

def stepRouter (p : Pipeline) : Option Pipeline :=
  match p.router with
  | .idle =>
    match p.responses with
    | r :: rest => some { p with responses := rest, router := .routing (route p.isRegistered r) }
    | [] => if p.responding then none else some { p with router := .finished }
  | .routing (.ask effect next) =>
    let r := p.world.perform effect
    some { p with world := r.2, router := .routing (next r.1) }
  | .routing (.done ()) => some { p with router := .idle }
  | .finished => none

/-- The pipeline after a step of the task, if the task can move. The loop and the router begin when all
streams are open. -/
def step? (p : Pipeline) : Task → Option Pipeline
  | .opening => p.stepOpening
  | .forwarder a => p.stepForwarder a
  | .events => if p.unopened.isEmpty then p.stepEvents else none
  | .router => if p.unopened.isEmpty then p.stepRouter else none

def Step (p q : Pipeline) : Prop := ∃ t, p.step? t = some q

def finished (p : Pipeline) : Bool :=
  !p.listening &&
    match p.events, p.router with
    | .finished, .finished => true
    | _, _ => false

def states (p : Pipeline) : List (String × ConnectionState) :=
  p.connections.entries.map fun (name, c) => (name, c.state)

end Pipeline

end ChatRouter.Dispatch
