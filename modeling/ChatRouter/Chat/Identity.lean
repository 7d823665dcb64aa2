set_option autoImplicit false

namespace ChatRouter

structure Identity where
  id : String
  /-- The handle. -/
  name : String
  displayName : Option String
  realName : Option String
  email : Option String
deriving DecidableEq

def filled? (text : Option String) : Option String := text.filter fun t => !t.isEmpty

def Identity.preferredName (who : Identity) : String :=
  ((filled? who.displayName) <|> (filled? who.realName)).getD who.name

structure Channel where
  id : String
  name : String
  members : List String
deriving DecidableEq

end ChatRouter
