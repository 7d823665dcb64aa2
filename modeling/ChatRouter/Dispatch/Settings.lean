import ChatRouter.Configuration.Schema
import ChatRouter.Text.Blank

set_option autoImplicit false

namespace ChatRouter.Dispatch

structure Settings where
  /-- Without a trigger there are no explicit commands. -/
  commandTrigger : Option Char
  enableExplicitCommands : Bool
  enableSpokenCommands : Bool
  allowSelfRegistration : Bool
  greeting : Bool
  buffers : Buffers
deriving DecidableEq

inductive Invocation where
  /-- By name; the trigger is removed. -/
  | explicit (text : String)
  /-- By a trigger pattern on the whole message. -/
  | spoken (text : String)
deriving DecidableEq

namespace Settings

def ofConfiguration (c : Configuration) : Settings where
  commandTrigger := c.global.triggerChar?
  enableExplicitCommands := c.global.enableExplicitCommands
  enableSpokenCommands := c.global.enableSpokenCommands
  allowSelfRegistration := c.global.allowSelfRegistration
  greeting := c.global.greeting
  buffers := c.buffers

def trigger? (s : Settings) : Option Char := if s.enableExplicitCommands then s.commandTrigger else none

/-- What follows the trigger in a message that begins with it after blanks. -/
def afterTrigger? (s : Settings) (text : String) : Option (List Char) :=
  match s.trigger?, Text.trimLeft text.toList with
  | some t, c :: rest => if c = t then some rest else none
  | _, _ => none

def classify (s : Settings) (text : String) : Option Invocation :=
  match s.afterTrigger? text with
  | some rest => if Text.allBlank rest then none else some (.explicit (String.ofList rest))
  | none => if s.enableSpokenCommands && !Text.isBlankText text then some (.spoken text) else none

end Settings

end ChatRouter.Dispatch
