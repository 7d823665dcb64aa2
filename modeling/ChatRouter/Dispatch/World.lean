import ChatRouter.Chat.Registry
import ChatRouter.Dispatch.Effect

set_option autoImplicit false

namespace ChatRouter.Dispatch

/-- A bounded queue towards the host, who may let go of its end. -/
structure Outbox (α : Type) where
  capacity : Nat
  waiting : List α
  held : Bool
deriving DecidableEq

namespace Outbox

variable {α : Type}

/-- A queue holds at least one element. -/
def ofCapacity (capacity : Nat) : Outbox α := ⟨max 1 capacity, [], true⟩

def hasRoom (o : Outbox α) : Bool := o.waiting.length < o.capacity

def push (o : Outbox α) (a : α) : Outbox α := { o with waiting := o.waiting ++ [a] }

/-- Drops the element when the queue is full or nobody holds it. -/
def offer (o : Outbox α) (a : α) : Outbox α := if o.held && o.hasRoom then o.push a else o

def take (o : Outbox α) : Option α × Outbox α :=
  match o.waiting with
  | a :: rest => (some a, { o with waiting := rest })
  | [] => (none, o)

def release (o : Outbox α) : Outbox α := { o with waiting := [], held := false }

end Outbox

/-- A message that an adapter has sent; an error message has a title. -/
structure Sent where
  adapter : String
  channel : String
  title : Option String
  text : String
deriving DecidableEq

structure World where
  data : Faulty
  adapters : Registry Adapter
  turn : Nat
  /-- The messages sent and not yet read by the host, oldest first. -/
  sent : List Sent
  errors : Outbox Failure
  tally : Tally

namespace World

def initial (data : Faulty) (adapters : Registry Adapter) (errorBuffer : Nat) : World where
  data
  adapters
  turn := 0
  sent := []
  errors := .ofCapacity errorBuffer
  tally := (∅ : Tally).insert ⟨.adaptersActive, []⟩ adapters.size

def count (w : World) (s : Series) : World := { w with tally := w.tally.count s }

/-- A failure is counted even when the queue of failures has no room for it. -/
def raise (w : World) (f : Failure) : World :=
  { w with errors := w.errors.offer f }.count ⟨.pipelineErrors, [f.kind]⟩

def sentBy? (adapter : String) : ChatCall → Option Sent
  | .send channel text => some ⟨adapter, channel, none, text⟩
  | .sendError channel title text => some ⟨adapter, channel, some title, text⟩
  | .identify _ | .presentChannels _ => none

def chat (w : World) (adapter : String) (c : ChatCall) : c.Answer × World :=
  let answer := match w.adapters.require adapter with
    | .ok a => a.answer w.turn c
    | .error cause => c.refuse cause
  let sent := match answer with
    | .ok _ => (sentBy? adapter c).toList
    | .error _ => []
  (answer, { w with turn := w.turn + 1, sent := w.sent ++ sent })

def perform : (e : Effect) → World → e.Answer × World
  | .store c, w =>
    let (answer, data) := w.data.perform c
    (answer, { w with data })
  | .chat adapter c, w => w.chat adapter c
  | .report f, w => ((), w.raise f)
  | .count s, w => ((), w.count s)

def run {α : Type} (work : Work α) (w : World) : α × World := Script.run perform work w

end World

end ChatRouter.Dispatch
