import ChatRouter.Chat.Event

set_option autoImplicit false

namespace ChatRouter.Dispatch

inductive ConnectionState where
  | idle
  /-- The event stream is open and no connection is confirmed. -/
  | listening
  | connected
  | authFailed
  | errored
  | closed
deriving DecidableEq

namespace ConnectionState

def text : ConnectionState → String
  | idle => "idle"
  | listening => "listening"
  | connected => "connected"
  | authFailed => "auth_failed"
  | errored => "errored"
  | closed => "closed"

/-- The state after an event. Messages do not change it. -/
def after (s : ConnectionState) : Event → ConnectionState
  | .connected _ => connected
  | .disconnected _ => listening
  | .authenticationError _ => authFailed
  | .error _ => errored
  | .channelMessage _ | .directMessage _ => s

theorem after_message (s : ConnectionState) {e : Event} {m : Message} (h : e.message? = some m) :
    s.after e = s := by
  cases e <;> simp_all [Event.message?, after]

end ConnectionState

end ChatRouter.Dispatch
