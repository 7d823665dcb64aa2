import ChatRouter.Catalog.Version
import ChatRouter.SortedMap

set_option autoImplicit false

namespace ChatRouter

structure Command where
  name : String
  description : String
  triggers : List String
  rules : List String
  executable : List String
deriving DecidableEq

structure Bundle where
  name : String
  version : String
  enabled : Bool
  description : String
  author : Option String
  permissions : List String
  commands : SortedMap String Command
deriving DecidableEq

/-- A command together with the bundle it was found in. -/
structure Entry where
  bundle : Bundle
  command : Command
deriving DecidableEq

namespace Command

def empty : Command := ⟨"", "", [], [], []⟩

end Command

namespace Bundle

def named (name version : String) : Bundle := ⟨name, version, false, "", none, [], ∅⟩

def nameCommands (b : Bundle) : Bundle :=
  { b with commands := b.commands.mapValues fun key c => { c with name := key } }

def commandsNamed (b : Bundle) : Bool :=
  b.commands.entries.all fun e => !Text.isBlankText e.1 && !Text.isBlankText e.2.name

/-- What every installed bundle satisfies; answers its version. -/
def validate (b : Bundle) : Except DataError Version :=
  if Text.isBlankText b.name then .error .emptyBundleName
  else if b.name.toList.contains ':' then .error (.invalidBundleName b.name)
  else
    match Version.coerce b.version with
    | .error e => .error e
    | .ok version =>
      if b.commandsNamed then .ok version else .error (.emptyCommandName b.name)

end Bundle

/-- The name that a user types: bundle, colon, command. -/
def Entry.qualifiedName (e : Entry) : String := e.bundle.name ++ ":" ++ e.command.name

end ChatRouter
