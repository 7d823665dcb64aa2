set_option autoImplicit false

namespace ChatRouter

structure Message where
  channel : String
  user : String
  text : String
deriving DecidableEq

inductive Event where
  /-- The connection is up; `bot` is the router's own user on it. -/
  | connected (bot : String)
  | disconnected (reason : String)
  | channelMessage (message : Message)
  | directMessage (message : Message)
  | authenticationError (reason : String)
  | error (reason : String)
deriving DecidableEq

namespace Event

def kind : Event → String
  | connected _ => "connected"
  | disconnected _ => "disconnected"
  | channelMessage _ => "channel_message"
  | directMessage _ => "direct_message"
  | authenticationError _ => "authentication_error"
  | error _ => "error"

def fields : Event → List (String × String)
  | connected bot => [("bot_user_id", bot), ("message", "connected")]
  | disconnected reason | authenticationError reason | error reason => [("message", reason)]
  | channelMessage m | directMessage m =>
    [("channel_id", m.channel), ("user_id", m.user), ("text", m.text)]

def message? : Event → Option Message
  | channelMessage m | directMessage m => some m
  | _ => none

end Event

end ChatRouter
