import ChatRouter.Dispatch.Settling

set_option autoImplicit false

namespace ChatRouter.Dispatch.Pipeline

/-- Changes a connection whose stream has not ended and that `accepts` holds of; tells whether it is
there. -/
def onOpen (p : Pipeline) (adapter : String) (accepts : Connection → Bool)
    (change : Connection → Connection) : Bool × Pipeline :=
  match p.connections.get? adapter with
  | some c =>
    if accepts c && !c.ended then
      (true, { p with connections := p.connections.insert adapter (change c) })
    else (false, p)
  | none => (false, p)

/-- An event arrives on a connection. Where nobody reads yet it waits; after the forwarder it is lost. -/
def deliver (p : Pipeline) (adapter : String) (e : Event) : Bool × Pipeline :=
  p.onOpen adapter (fun c => c.forwarder != .ended) fun c => { c with inbox := c.inbox ++ [e] }

def endStream (p : Pipeline) (adapter : String) : Bool × Pipeline :=
  p.onOpen adapter (fun _ => true) fun c => { c with ended := true }

def takeRequest (p : Pipeline) : Option Request × Pipeline :=
  let (request, requests) := p.requests.take
  (request, { p with requests })

def takeFailure (p : Pipeline) : Option Failure × Pipeline :=
  let (failure, errors) := p.world.errors.take
  (failure, { p with world := { p.world with errors } })

def takeSent (p : Pipeline) : List Sent × Pipeline :=
  (p.world.sent, { p with world := { p.world with sent := [] } })

def takesResponses (p : Pipeline) : Bool :=
  match p.router with
  | .finished => false
  | _ => p.responding && p.responses.length < max 1 p.settings.buffers.responses

def respond (p : Pipeline) (r : Response) : Bool × Pipeline :=
  if p.takesResponses then (true, { p with responses := p.responses ++ [r] }) else (false, p)

def dropRequests (p : Pipeline) : Bool × Pipeline :=
  (p.requests.held, { p with requests := p.requests.release })

def dropFailures (p : Pipeline) : Bool × Pipeline :=
  (p.world.errors.held, { p with world := { p.world with errors := p.world.errors.release } })

def dropResponses (p : Pipeline) : Bool × Pipeline := (p.responding, { p with responding := false })

/-- Ends all tasks at once; the states stay as they are. -/
def abort (p : Pipeline) : Pipeline :=
  { p with
    unopened := []
    connections := p.connections.mapValues fun _ c =>
      if c.isForwarding then { c with forwarder := .ended } else c
    held := []
    merged := []
    events := .finished
    responses := []
    router := .finished }

def replaceAdapter (p : Pipeline) (name : String) (f : Adapter → Adapter) : Pipeline :=
  { p with world := { p.world with adapters := p.world.adapters.modify name f } }

/-- Takes requests and lets the tasks move on after each, until none is waiting. -/
def drainRequests (p : Pipeline) : List Request × Pipeline :=
  match _h : p.requests.waiting with
  | [] => ([], p)
  | request :: rest =>
    let drained := drainRequests { p with requests := { p.requests with waiting := rest } }.settle
    (request :: drained.1, drained.2)
termination_by p.load
decreasing_by
  refine Nat.lt_of_le_of_lt (load_settle_le _) ?_
  simp only [load, _h, List.length_cons]
  omega

def drainFailures (p : Pipeline) : List Failure × Pipeline :=
  (p.world.errors.waiting,
    { p with world := { p.world with errors := { p.world.errors with waiting := [] } } })

end ChatRouter.Dispatch.Pipeline
