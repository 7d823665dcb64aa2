set_option autoImplicit false

namespace ChatRouter

inductive ChatError where
  | invalidInput (message : String)
  | unknownAdapter (name : String)
  | duplicateAdapter (name : String)
  | noSuchUser (id : String)
  | noSuchChannel (id : String)
  | unavailable (message : String)
  | external (context cause : String)
deriving DecidableEq

def ChatError.message : ChatError → String
  | invalidInput message => s!"invalid adapter input: {message}"
  | unknownAdapter name => s!"unknown adapter: {name}"
  | duplicateAdapter name => s!"adapter registered twice: {name}"
  | noSuchUser id => s!"no such provider user: {id}"
  | noSuchChannel id => s!"no such provider channel: {id}"
  | unavailable message => s!"adapter operation unavailable: {message}"
  | external context cause => s!"adapter operation failed: {context}: {cause}"

end ChatRouter
