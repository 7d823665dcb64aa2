import ChatRouter.Access.Authorization

set_option autoImplicit false

namespace ChatRouter.Bootstrap

open Authorization (call)

def systemBundle : String := "switchyard"

def adminPermissions : List String :=
  ["manage_bundles", "manage_commands", "manage_groups", "manage_roles", "manage_users"]

/-- What is known of the administrator beforehand. -/
structure Account where
  email : Option String
  fullName : Option String
deriving DecidableEq

def Account.user (a : Account) (hash : PasswordHash) : User :=
  { User.named adminUser with
    email := a.email
    fullName := a.fullName.getD "Administrator"
    passwordHash := some hash }

def isBootstrapped : Accessing Bool := call (.userExists adminUser)

def grantAll : List String → Accessing Unit
  | [] => return ()
  | permission :: rest => do
    call (.rolePermissionAdd adminRole systemBundle permission)
    grantAll rest

def bootstrap (account : Account) (hash : PasswordHash) : Accessing Unit := do
  if ← call (.userExists adminUser) then throw .alreadyBootstrapped
  call (.userCreate (account.user hash))
  unless ← call (.groupExists adminGroup) do call (.groupCreate adminGroup)
  unless ← call (.roleExists adminRole) do call (.roleCreate adminRole)
  grantAll adminPermissions
  call (.groupRoleAdd adminGroup adminRole)
  call (.groupUserAdd adminGroup adminUser)

end ChatRouter.Bootstrap
