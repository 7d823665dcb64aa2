import ChatRouter.Access.Provisioning
import ChatRouter.Chat.Event
import ChatRouter.Dispatch.Effect
import ChatRouter.Dispatch.Notices
import ChatRouter.Dispatch.Settings
import ChatRouter.Resolution

set_option autoImplicit false

namespace ChatRouter.Dispatch

open Work

def refuse (adapter : String) (m : Message) (error : String) : Work Unit := do
  let text := planningFailure (Text.trimmed m.text) error
  match ← chat adapter (.sendError m.channel errorTitle text) with
  | .ok () => return ()
  | .error cause => report (.send adapter m.channel cause)

def resolve : Invocation → Resolution.Resolving (Option Resolution)
  | .explicit text => do
    let r ← Resolution.ofCommand text
    return some r
  | .spoken text => Resolution.ofSpoken text

def refuseUnresolved (adapter : String) (m : Message) (e : ResolutionError) : Work Unit := do
  if e.isUserFacing then count .resolutionFailures [adapter]
  else report (.internal "resolve command" e.message)
  refuse adapter m e.message

def refuseAccess (adapter : String) (m : Message) (e : AccessError) : Work Unit := do
  match e with
  | .notBootstrapped => report (.notBootstrapped adapter m.user)
  | .selfRegistrationOff | .unauthorized _ _ _ => count .authorizationDenied [adapter]
  | e => report (.ofAccess "authorize sender" e)
  refuse adapter m e.message

def countProvisioning (adapter : String) : Except AccessError (User × Bool) → Work Unit
  | .ok (_, true) => count .usersProvisioned [adapter]
  | .error .selfRegistrationOff => count .provisioningRefused [adapter, "self_registration_off"]
  | .error .notBootstrapped => count .provisioningRefused [adapter, "not_bootstrapped"]
  | _ => return ()

def provision (settings : Settings) (hash : PasswordHash) (adapter : String) (who : Identity) :
    Work (Except AccessError User) := do
  let outcome ← ofStore (Provisioning.resolveOrCreate settings.allowSelfRegistration hash adapter who).run
  countProvisioning adapter outcome
  return outcome.map Prod.fst

def requestFor (adapter : String) (m : Message) (user : User) (r : Resolution) : Request where
  entry := r.entry
  adapter := adapter
  channel := m.channel
  parameters := r.parameters
  userId := m.user
  userName := user.username
  userEmail := user.email
  id := 0

def plan (settings : Settings) (hash : PasswordHash) (adapter : String) (m : Message)
    (resolution : Resolution) : Work (Option Request) := do
  match ← chat adapter (.identify m.user) with
  | .error cause =>
    report (.adapterCall adapter "look up sender" cause)
    refuse adapter m cause.message
    return none
  | .ok who =>
    match ← provision settings hash adapter who with
    | .error e =>
      refuseAccess adapter m e
      return none
    | .ok user =>
      match ← ofStore (Authorization.authorize user.username resolution.entry).run with
      | .error e =>
        refuseAccess adapter m e
        return none
      | .ok () =>
        match ← Work.store (.requestBegin (requestFor adapter m user resolution)) with
        | .error cause =>
          report (.store "begin request" cause)
          refuse adapter m cause.message
          return none
        | .ok request =>
          count .resolutionDuration []
          return some request

/-- A message that asks for nothing, or that no trigger finds, is ignored. -/
def handleMessage (settings : Settings) (hash : PasswordHash) (adapter : String) (m : Message) :
    Work (Option Request) :=
  match settings.classify m.text with
  | none => return none
  | some invocation => do
    match ← ofStore (resolve invocation).run with
    | .error e =>
      refuseUnresolved adapter m e
      return none
    | .ok none => return none
    | .ok (some resolution) =>
      count .commandsResolved [adapter, resolution.entry.bundle.name]
      plan settings hash adapter m resolution

def sampleCommand : Work (Option String) := do
  match ← Work.store (.findCommandEntry "" "") with
  | .ok entries => return entries.head?.map Entry.qualifiedName
  | .error _ => return none

def sendToAll (adapter text : String) : List Channel → Work Unit
  | [] => return ()
  | channel :: rest => do
    match ← chat adapter (.send channel.id text) with
    | .ok () => pure ()
    | .error cause => report (.send adapter channel.id cause)
    sendToAll adapter text rest

def greet (settings : Settings) (adapter bot : String) : Work Unit := do
  match ← chat adapter (.identify bot) with
  | .error cause => report (.adapterCall adapter "look up bot user" cause)
  | .ok who =>
    match ← chat adapter (.presentChannels bot) with
    | .error cause => report (.adapterCall adapter "list present channels" cause)
    | .ok channels =>
      let sample ← if settings.trigger?.isSome then sampleCommand else pure none
      sendToAll adapter (greetingText who.preferredName settings.trigger? sample) channels

def handle (settings : Settings) (hash : PasswordHash) (adapter : String) : Event → Work (Option Request)
  | .connected bot => do
    if settings.greeting then greet settings adapter bot
    return none
  | .disconnected _ => return none
  | .channelMessage m | .directMessage m => handleMessage settings hash adapter m
  | .authenticationError message => do
    report (.authentication adapter message)
    return none
  | .error message => do
    report (.adapter adapter message)
    return none

end ChatRouter.Dispatch
