import ChatRouter.Store.Access
import ChatRouter.Text.Words

set_option autoImplicit false

namespace ChatRouter

inductive ResolutionError where
  | noSuchCommand (name : String)
  | ambiguousCommand (first second : String)
  | store (cause : DataError)
deriving DecidableEq

namespace ResolutionError

def message : ResolutionError → String
  | noSuchCommand name => s!"no such command: {name}"
  | ambiguousCommand first second => s!"ambiguous command: {first} and {second} both match"
  | store cause => cause.message

def isUserFacing : ResolutionError → Bool
  | noSuchCommand _ | ambiguousCommand _ _ => true
  | store _ => false

end ResolutionError

/-- A command and the arguments it is invoked with. -/
structure Resolution where
  entry : Entry
  parameters : List String
deriving DecidableEq

namespace Resolution

abbrev Resolving (α : Type) : Type := ExceptT ResolutionError (Script Call Call.Answer) α

def call (c : Call) : Resolving c.Reply := ExceptT.adapt ResolutionError.store c.require

def single : List Entry → Except ResolutionError (Option Entry)
  | [] => .ok none
  | [e] => .ok (some e)
  | e :: f :: _ => .error (.ambiguousCommand e.qualifiedName f.qualifiedName)

/-- The bundle and command that a name asks for; a bare name leaves the bundle empty. With a colon both
parts must be there. -/
def nameParts? (name : String) : Option (String × String) :=
  match Text.splitFirst ':' name.toList with
  | some (b :: bs, c :: cs) => some (String.ofList (b :: bs), String.ofList (c :: cs))
  | some _ => none
  | none => if name.isEmpty then none else some ("", name)

def ofWords (words : List String) : Resolving Entry :=
  match words with
  | [] => throw (.noSuchCommand "")
  | name :: _ =>
    match nameParts? name with
    | none => throw (.noSuchCommand name)
    | some (bundle, command) => do
      let entries ← call (.findCommandEntry bundle command)
      match single entries with
      | .error e => throw e
      | .ok none => throw (.noSuchCommand name)
      | .ok (some entry) => return entry

/-- The command that `text` names; the other words are its arguments. -/
def ofCommand (text : String) : Resolving Resolution := do
  let words := Text.words text
  let entry ← ofWords words
  return ⟨entry, words.tail⟩

def ofTrigger (text : String) : Resolving (Option Entry) := do
  let entries ← call (.findCommandEntryByTrigger text)
  match single entries with
  | .error e => throw e
  | .ok entry => return entry

def ofSpoken (text : String) : Resolving (Option Resolution) := do
  let entry ← ofTrigger text
  return entry.map fun e => ⟨e, Text.words text⟩

end Resolution

end ChatRouter
