import ChatRouter.Store.Basic

set_option autoImplicit false

namespace ChatRouter.Store

def requireUser (s : Store) (username : String) : Except DataError Unit :=
  if username.isEmpty then .error .emptyUserName
  else if s.users.contains username then .ok () else .error (.noSuchUser username)

def requireRole (s : Store) (role : String) : Except DataError Unit :=
  if role.isEmpty then .error .emptyRoleName
  else if s.roles.contains role then .ok () else .error (.noSuchRole role)

def group (s : Store) (name : String) : Except DataError Membership :=
  if name.isEmpty then .error .emptyGroupName
  else
    match s.groups.get? name with
    | some g => .ok g
    | none => .error (.noSuchGroup name)

def requireGroup (s : Store) (name : String) : Except DataError Unit :=
  match s.group name with
  | .ok _ => .ok ()
  | .error e => .error e

def emailTaken (s : Store) (email except : String) : Bool :=
  s.users.values.any fun u => u.username != except && u.hasEmail email

def requireEmailFree (s : Store) (u : User) : Except DataError Unit :=
  match u.email with
  | some email =>
    if !email.isEmpty && s.emailTaken email u.username then .error (.duplicateEmail email) else .ok ()
  | none => .ok ()

def putUser (s : Store) (u : User) : Store := { s with users := s.users.insert u.username u }

def changeGroup (s : Store) (name : String) (f : Membership → Membership) : Store :=
  { s with groups := s.groups.modify name f }

def createUser (u : User) : Edit Unit := do
  Edit.check (if Text.isBlankText u.username then .error .emptyUserName else .ok ())
  Edit.ask fun s => if s.users.contains u.username then .error (.userExists u.username) else .ok ()
  Edit.ask fun s => s.requireEmailFree u
  Edit.change fun s => s.putUser u

def user (s : Store) (username : String) : Except DataError User :=
  if username.isEmpty then .error .emptyUserName
  else
    match s.users.get? username with
    | some u => .ok u
    | none => .error (.noSuchUser username)

def userByEmail (s : Store) (email : String) : Except DataError User :=
  match s.users.values.find? fun u => !email.isEmpty && u.hasEmail email with
  | some u => .ok u
  | none => .error (.noSuchUser email)

def updateUser (u : User) : Edit Unit := do
  Edit.ask fun s => s.requireUser u.username
  Edit.ask fun s => s.requireEmailFree u
  Edit.change fun s =>
    match s.users.get? u.username with
    | some old => s.putUser { u with passwordHash := u.passwordHash <|> old.passwordHash }
    | none => s

def deleteUser (username : String) : Edit Unit := do
  Edit.check (if username = adminUser then .error (.adminUndeletable .user) else .ok ())
  Edit.ask fun s => s.requireUser username
  Edit.change fun s => { s with users := s.users.erase username }
  Edit.change fun s => { s with
    groups := s.groups.mapValues fun _ g => { g with users := g.users.erase username } }

def userExists (s : Store) (username : String) : Bool := s.users.contains username

def userList (s : Store) : List User := s.users.values

def groupsOf (s : Store) (username : String) : Except DataError (List String) :=
  match s.requireUser username with
  | .ok () => .ok ((s.groups.entries.filter fun e => e.2.users.contains username).map (·.1))
  | .error e => .error e

def createGroup (name : String) : Edit Unit := do
  Edit.check (if Text.isBlankText name then .error .emptyGroupName else .ok ())
  Edit.ask fun s => if s.groups.contains name then .error (.groupExists name) else .ok ()
  Edit.change fun s => { s with groups := s.groups.insert name Membership.empty }

def groupExists (s : Store) (name : String) : Bool := s.groups.contains name

def groupList (s : Store) : List String := s.groups.keys

def deleteGroup (name : String) : Edit Unit := do
  Edit.check (if name = adminGroup then .error (.adminUndeletable .group) else .ok ())
  Edit.ask fun s => s.requireGroup name
  Edit.change fun s => { s with groups := s.groups.erase name }

def addMember (group username : String) : Edit Unit := do
  Edit.ask fun s => s.requireGroup group
  Edit.ask fun s => s.requireUser username
  Edit.change fun s => s.changeGroup group fun g => { g with users := g.users.insert username () }

def removeMember (group username : String) : Edit Unit := do
  Edit.check <|
    if group = adminGroup && username = adminUser then .error (.adminUndeletable .groupMember)
    else .ok ()
  Edit.ask fun s => s.requireGroup group
  Edit.ask fun s => s.requireUser username
  Edit.change fun s => s.changeGroup group fun g => { g with users := g.users.erase username }

def members (s : Store) (group : String) : Except DataError (List User) :=
  match s.group group with
  | .ok g => .ok (g.users.keys.filterMap s.users.get?)
  | .error e => .error e

def addRole (group role : String) : Edit Unit := do
  Edit.ask fun s => s.requireGroup group
  Edit.ask fun s => s.requireRole role
  Edit.change fun s => s.changeGroup group fun g => { g with roles := g.roles.insert role () }

def removeRole (group role : String) : Edit Unit := do
  Edit.ask fun s => s.requireGroup group
  Edit.ask fun s => s.requireRole role
  Edit.change fun s => s.changeGroup group fun g => { g with roles := g.roles.erase role }

def rolesOf (s : Store) (group : String) : Except DataError (List String) :=
  match s.group group with
  | .ok g => .ok g.roles.keys
  | .error e => .error e

def createRole (name : String) : Edit Unit := do
  Edit.check (if Text.isBlankText name then .error .emptyRoleName else .ok ())
  Edit.ask fun s => if s.roles.contains name then .error (.roleExists name) else .ok ()
  Edit.change fun s => { s with roles := s.roles.insert name ∅ }

def roleExists (s : Store) (name : String) : Bool := s.roles.contains name

def roleList (s : Store) : List String := s.roles.keys

def deleteRole (name : String) : Edit Unit := do
  Edit.ask fun s => s.requireRole name
  Edit.change fun s => { s with roles := s.roles.erase name }
  Edit.change fun s => { s with
    groups := s.groups.mapValues fun _ g => { g with roles := g.roles.erase name } }

def addGrant (role bundle permission : String) : Edit Unit := do
  let grant ← Edit.check (Grant.checked bundle permission)
  Edit.ask fun s => s.requireRole role
  Edit.change fun s => { s with roles := s.roles.modify role (GrantSet.add · grant) }

def removeGrant (role bundle permission : String) : Edit Unit := do
  let grant ← Edit.check (Grant.checked bundle permission)
  Edit.ask fun s => s.requireRole role
  Edit.change fun s => { s with roles := s.roles.modify role (GrantSet.remove · grant) }

def grantsOf (s : Store) (role : String) : Except DataError (List Grant) :=
  match s.requireRole role with
  | .ok () => .ok (((s.roles.get? role).map SortedMap.values).getD [])
  | .error e => .error e

end ChatRouter.Store
