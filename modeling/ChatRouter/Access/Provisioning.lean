import ChatRouter.Access.Bootstrap
import ChatRouter.Chat.Identity

set_option autoImplicit false

/-!
# From chat identities to users

An identity is matched by its e-mail, then by the mapping of its adapter. An unknown identity gets an
account of its own when self-registration is on and the system is bootstrapped.
-/

namespace ChatRouter.Provisioning

open Authorization (call)

def findMapped (adapter : String) (who : Identity) : Accessing (Option User) := do
  let users ← call .userList
  return users.find? (·.isMapped adapter who.id)

def findExisting (adapter : String) (who : Identity) : Accessing (Option User) :=
  match filled? who.email with
  | none => findMapped adapter who
  | some email => do
    match ← Call.ask (.userGetByEmail email) with
    | .ok user => return some user
    | .error (.noSuchUser _) => findMapped adapter who
    | .error e => throw (.store e)

/-- The account of an unknown identity: named by its handle, or by its identifier if that is blank. -/
def newUser (adapter : String) (who : Identity) (hash : PasswordHash) : User where
  username := if Text.isBlankText who.name then who.id else who.name
  email := filled? who.email
  fullName := who.preferredName
  passwordHash := some hash
  mappings := (∅ : SortedMap String String).insert adapter who.id

/-- Creates a user; if another one has just taken the e-mail, that is the user. -/
def register (user : User) : Accessing (User × Bool) := do
  match ← Call.ask (.userCreate user) with
  | .ok () => return (user, true)
  | .error (.duplicateEmail email) => do
    let winner ← call (.userGetByEmail email)
    return (winner, false)
  | .error e => throw (.store e)

def resolveOrCreate (allow : Bool) (hash : PasswordHash) (adapter : String) (who : Identity) :
    Accessing (User × Bool) := do
  match ← findExisting adapter who with
  | some user => return (user, false)
  | none =>
    if !allow then throw .selfRegistrationOff
    if !(← Bootstrap.isBootstrapped) then throw .notBootstrapped
    register (newUser adapter who hash)

end ChatRouter.Provisioning
