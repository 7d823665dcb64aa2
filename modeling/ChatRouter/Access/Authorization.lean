import ChatRouter.Access.Rules
import ChatRouter.Store.Access

set_option autoImplicit false

namespace ChatRouter

inductive AccessError where
  | selfRegistrationOff
  | notBootstrapped
  | alreadyBootstrapped
  | unauthorized (user command reason : String)
  | store (cause : DataError)
deriving DecidableEq

def AccessError.message : AccessError → String
  | selfRegistrationOff =>
    "self-registration is disabled; ask an administrator to create your account"
  | notBootstrapped => "switchyard has not been bootstrapped; no admin account exists"
  | alreadyBootstrapped => "switchyard is already bootstrapped"
  | unauthorized user command reason => s!"{user} is not allowed to run {command}: {reason}"
  | store cause => cause.message

/-- A script of store calls that may also fail for reasons of access. -/
abbrev Accessing (α : Type) : Type := ExceptT AccessError (Script Call Call.Answer) α

namespace Authorization

def call (c : Call) : Accessing c.Reply := ExceptT.adapt AccessError.store c.require

def collectRoles (granted : GrantSet) : List String → Accessing GrantSet
  | [] => return granted
  | role :: rest => do
    let grants ← call (.rolePermissionList role)
    collectRoles (granted.addAll grants) rest

def collectGroup (granted : GrantSet) (group : String) : Accessing GrantSet := do
  let roles ← call (.groupRoleList group)
  collectRoles granted roles

def collectGroups (granted : GrantSet) : List String → Accessing GrantSet
  | [] => return granted
  | group :: rest => do
    let granted ← collectGroup granted group
    collectGroups granted rest

def groupGrants (group : String) : Accessing GrantSet := collectGroup ∅ group

def userGrants (username : String) : Accessing GrantSet := do
  let groups ← call (.userGroupList username)
  collectGroups ∅ groups

def userHasPermission (username bundle permission : String) : Accessing Bool := do
  let granted ← userGrants username
  return granted.has ⟨bundle, permission⟩

def authorize (username : String) (entry : Entry) : Accessing Unit := do
  let rules := entry.command.rules
  let granted ← if rules.all Rules.isUnconditional then pure ∅ else userGrants username
  match Rules.evaluate rules granted with
  | .allow => return ()
  | .deny reason => throw (.unauthorized username entry.qualifiedName reason)

end Authorization

end ChatRouter
