import ChatRouter.Chat.Adapter
import ChatRouter.Dispatch.Failure
import ChatRouter.Metrics.Series

set_option autoImplicit false

namespace ChatRouter.Dispatch

inductive Effect where
  | store (call : Call)
  | chat (adapter : String) (call : ChatCall)
  | report (failure : Failure)
  | count (series : Series)
deriving DecidableEq

@[reducible] def Effect.Answer : Effect → Type
  | store call => call.Answer
  | chat _ call => call.Answer
  | report _ | count _ => Unit

abbrev Work (α : Type) : Type := Script Effect Effect.Answer α

namespace Work

def ofStore {α : Type} (p : StoreScript α) : Work α := p.mapQuestions Effect.store fun _ answer => answer

def chat (adapter : String) (call : ChatCall) : Work call.Answer := Script.question (Effect.chat adapter call)

def store (call : Call) : Work call.Answer := Script.question (Effect.store call)

def report (failure : Failure) : Work Unit := Script.question (Effect.report failure)

def count (metric : Metric) (values : List String) : Work Unit :=
  Script.question (Effect.count ⟨metric, values⟩)

end Work

end ChatRouter.Dispatch
