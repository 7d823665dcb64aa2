import ChatRouter.Access.Authorization
import ChatRouter.Chat.Error

set_option autoImplicit false

namespace ChatRouter.Dispatch

inductive Failure where
  | authentication (adapter message : String)
  | adapter (adapter message : String)
  | adapterCall (adapter context : String) (cause : ChatError)
  | listen (adapter : String) (cause : ChatError)
  | send (adapter channel : String) (cause : ChatError)
  | unknownAdapter (adapter : String) (request : Int)
  | notBootstrapped (adapter user : String)
  | store (context : String) (cause : DataError)
  | internal (context message : String)
  | requestChannelClosed (request : Int)
deriving DecidableEq

namespace Failure

def kind : Failure → String
  | authentication _ _ => "authentication"
  | adapter _ _ => "adapter"
  | adapterCall _ _ _ => "adapter_call"
  | listen _ _ => "listen"
  | send _ _ _ => "send"
  | unknownAdapter _ _ => "unknown_adapter"
  | notBootstrapped _ _ => "not_bootstrapped"
  | store _ _ => "store"
  | internal _ _ => "internal"
  | requestChannelClosed _ => "request_channel_closed"

def adapter? : Failure → Option String
  | authentication a _ | adapter a _ | adapterCall a _ _ | listen a _ | send a _ _
  | unknownAdapter a _ | notBootstrapped a _ => some a
  | store _ _ | internal _ _ | requestChannelClosed _ => none

def message : Failure → String
  | authentication a message => s!"adapter {a}: authentication failed: {message}"
  | adapter a message => s!"adapter {a}: {message}"
  | adapterCall a context cause => s!"adapter {a}: {context}: {cause.message}"
  | listen a cause => s!"adapter {a}: failed to listen: {cause.message}"
  | send a channel cause => s!"adapter {a}: send to channel {channel} failed: {cause.message}"
  | unknownAdapter a request => s!"response for request {request} names unknown adapter {a}"
  | notBootstrapped a user =>
    s!"adapter {a}: refused command from {user}: no admin account exists"
  | store context cause => s!"{context}: {cause.message}"
  | internal context message => s!"{context}: {message}"
  | requestChannelClosed request => s!"request channel closed, dropped request {request}"

/-- The failure behind an access error that is not the sender's fault. -/
def ofAccess (context : String) : AccessError → Failure
  | .store cause => store context cause
  | e => internal context e.message

end Failure

end ChatRouter.Dispatch
