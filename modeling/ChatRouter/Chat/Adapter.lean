import ChatRouter.Chat.Error
import ChatRouter.Chat.Identity

set_option autoImplicit false

namespace ChatRouter

inductive ChatCall where
  | identify (user : String)
  /-- The channels in which a user is present. -/
  | presentChannels (user : String)
  | send (channel text : String)
  | sendError (channel title text : String)
deriving DecidableEq

namespace ChatCall

@[reducible] def Reply : ChatCall → Type
  | identify _ => Identity
  | presentChannels _ => List Channel
  | send _ _ | sendError _ _ _ => Unit

abbrev Answer (c : ChatCall) : Type := Except ChatError c.Reply

def refuse (c : ChatCall) (cause : ChatError) : c.Answer := .error cause

end ChatCall

structure Adapter where
  listen : Except ChatError Unit
  /-- The answer to a call when so many calls have been made before. -/
  answer : Nat → (c : ChatCall) → c.Answer

end ChatRouter
