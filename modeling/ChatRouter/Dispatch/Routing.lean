import ChatRouter.Dispatch.Effect
import ChatRouter.Dispatch.Notices

set_option autoImplicit false

namespace ChatRouter.Dispatch

open Work

/-- Closes the record; `fallback` is the error of a response that has none. -/
def closeRecord (r : Response) (fallback : Option String) : Work Unit := do
  match ← Work.store (.requestClose r.request.id r.status (r.error <|> fallback)) with
  | .ok () => return ()
  | .error cause => report (.store s!"close request {r.request.id}" cause)

/-- The call that delivers a response; a success without output needs none. -/
def delivery? (r : Response) : Option ChatCall :=
  if r.isError then
    some (.sendError r.request.channel (r.title.getD errorTitle) (executionFailure r))
  else if r.output.isEmpty then none
  else some (.send r.request.channel (outputText r))

def countRouted (adapter : String) : Work Unit := do
  count .responsesRouted [adapter]
  count .messagesSent [adapter]

def deliver (r : Response) (call : ChatCall) : Work Unit := do
  match ← chat r.request.adapter call with
  | .ok _ => countRouted r.request.adapter
  | .error cause => report (.send r.request.adapter r.request.channel cause)

/-- The work that a response makes, where `known` tells the registered adapters. -/
def route (known : String → Bool) (r : Response) : Work Unit := do
  if !known r.request.adapter then
    report (.unknownAdapter r.request.adapter r.request.id)
    closeRecord r (some "unknown adapter")
  else
    match delivery? r with
    | some call => deliver r call
    | none => countRouted r.request.adapter
    closeRecord r none

end ChatRouter.Dispatch
