import ChatRouter.Store.Accounts
import ChatRouter.Store.Bundles
import ChatRouter.Store.Ledger

set_option autoImplicit false

/-!
# Store calls

The data-access interface as values: a `Call` names an operation with its arguments, `Call.Reply` is
what it answers when it succeeds, and `Store.perform` carries it out.
-/

namespace ChatRouter

inductive Call where
  | bundleCreate (bundle : Bundle)
  | bundleDelete (name version : String)
  | bundleEnable (name version : String)
  | bundleDisable (name version : String)
  | bundleEnabledVersion (name : String)
  | bundleExists (name version : String)
  | bundleGet (name version : String)
  | bundleList
  | bundleListVersions (name : String)
  | findCommandEntry (bundle command : String)
  | findCommandEntryByTrigger (text : String)
  | userCreate (user : User)
  | userGet (username : String)
  | userGetByEmail (email : String)
  | userUpdate (user : User)
  | userDelete (username : String)
  | userExists (username : String)
  | userList
  | userGroupList (username : String)
  | groupCreate (name : String)
  | groupGet (name : String)
  | groupList
  | groupDelete (name : String)
  | groupExists (name : String)
  | groupUserAdd (group username : String)
  | groupUserDelete (group username : String)
  | groupUserList (group : String)
  | groupRoleAdd (group role : String)
  | groupRoleDelete (group role : String)
  | groupRoleList (group : String)
  | roleCreate (name : String)
  | roleGet (name : String)
  | roleDelete (name : String)
  | roleExists (name : String)
  | roleList
  | rolePermissionAdd (role bundle permission : String)
  | rolePermissionDelete (role bundle permission : String)
  | rolePermissionList (role : String)
  | requestBegin (request : Request)
  | requestClose (id status : Int) (error : Option String)
  | requestGet (id : Int)
  | configCreate (value : LayeredValue)
  | configGet (layer bundle owner key : String)
  | configDelete (layer bundle owner key : String)
  | configExists (layer bundle owner key : String)
  | configList (layer bundle owner key : String)
deriving DecidableEq

namespace Call

@[reducible] def Reply : Call → Type
  | bundleEnabledVersion _ => Option String
  | bundleExists _ _ | userExists _ | groupExists _ | roleExists _ | configExists _ _ _ _ => Bool
  | bundleGet _ _ => Bundle
  | bundleList | bundleListVersions _ => List Bundle
  | findCommandEntry _ _ | findCommandEntryByTrigger _ => List Entry
  | userGet _ | userGetByEmail _ => User
  | userList | groupUserList _ => List User
  | userGroupList _ | groupList | groupRoleList _ | roleList => List String
  | groupGet _ | roleGet _ => String
  | rolePermissionList _ => List Grant
  | requestBegin _ => Request
  | requestGet _ => Record
  | configGet _ _ _ _ => LayeredValue
  | configList _ _ _ _ => List LayeredValue
  | _ => Unit

abbrev Answer (c : Call) : Type := Except DataError c.Reply

def name : Call → String
  | bundleCreate _ => "bundle_create"
  | bundleDelete _ _ => "bundle_delete"
  | bundleEnable _ _ => "bundle_enable"
  | bundleDisable _ _ => "bundle_disable"
  | bundleEnabledVersion _ => "bundle_enabled_version"
  | bundleExists _ _ => "bundle_exists"
  | bundleGet _ _ => "bundle_get"
  | bundleList => "bundle_list"
  | bundleListVersions _ => "bundle_list_versions"
  | findCommandEntry _ _ => "find_command_entry"
  | findCommandEntryByTrigger _ => "find_command_entry_by_trigger"
  | userCreate _ => "user_create"
  | userGet _ => "user_get"
  | userGetByEmail _ => "user_get_by_email"
  | userUpdate _ => "user_update"
  | userDelete _ => "user_delete"
  | userExists _ => "user_exists"
  | userList => "user_list"
  | userGroupList _ => "user_group_list"
  | groupCreate _ => "group_create"
  | groupGet _ => "group_get"
  | groupList => "group_list"
  | groupDelete _ => "group_delete"
  | groupExists _ => "group_exists"
  | groupUserAdd _ _ => "group_user_add"
  | groupUserDelete _ _ => "group_user_delete"
  | groupUserList _ => "group_user_list"
  | groupRoleAdd _ _ => "group_role_add"
  | groupRoleDelete _ _ => "group_role_delete"
  | groupRoleList _ => "group_role_list"
  | roleCreate _ => "role_create"
  | roleGet _ => "role_get"
  | roleDelete _ => "role_delete"
  | roleExists _ => "role_exists"
  | roleList => "role_list"
  | rolePermissionAdd _ _ _ => "role_permission_add"
  | rolePermissionDelete _ _ _ => "role_permission_delete"
  | rolePermissionList _ => "role_permission_list"
  | requestBegin _ => "request_begin"
  | requestClose _ _ _ => "request_close"
  | requestGet _ => "request_get"
  | configCreate _ => "dynamic_configuration_create"
  | configGet _ _ _ _ => "dynamic_configuration_get"
  | configDelete _ _ _ _ => "dynamic_configuration_delete"
  | configExists _ _ _ _ => "dynamic_configuration_exists"
  | configList _ _ _ _ => "dynamic_configuration_list"

end Call

namespace Store

def editFor : (c : Call) → Edit c.Reply
  | .bundleCreate b => createBundle b
  | .bundleDelete n v => deleteBundle n v
  | .bundleEnable n v => enableBundle n v
  | .bundleDisable n v => disableBundle n v
  | .bundleEnabledVersion n => Edit.ask fun s => s.enabledVersion n
  | .bundleExists n v => Edit.ask fun s => s.bundleExists n v
  | .bundleGet n v => Edit.ask fun s => s.bundle n v
  | .bundleList => Edit.ask fun s => .ok s.bundleList
  | .bundleListVersions n => Edit.ask fun s => s.versionList n
  | .findCommandEntry b c => Edit.ask fun s => .ok (s.findEntries b c)
  | .findCommandEntryByTrigger t => Edit.ask fun s => .ok (s.findTriggered t)
  | .userCreate u => createUser u
  | .userGet n => Edit.ask fun s => s.user n
  | .userGetByEmail e => Edit.ask fun s => s.userByEmail e
  | .userUpdate u => updateUser u
  | .userDelete n => deleteUser n
  | .userExists n => Edit.ask fun s => .ok (s.userExists n)
  | .userList => Edit.ask fun s => .ok s.userList
  | .userGroupList n => Edit.ask fun s => s.groupsOf n
  | .groupCreate n => createGroup n
  | .groupGet n => Edit.ask fun s => (s.requireGroup n).map fun _ => n
  | .groupList => Edit.ask fun s => .ok s.groupList
  | .groupDelete n => deleteGroup n
  | .groupExists n => Edit.ask fun s => .ok (s.groupExists n)
  | .groupUserAdd g u => addMember g u
  | .groupUserDelete g u => removeMember g u
  | .groupUserList g => Edit.ask fun s => s.members g
  | .groupRoleAdd g r => addRole g r
  | .groupRoleDelete g r => removeRole g r
  | .groupRoleList g => Edit.ask fun s => s.rolesOf g
  | .roleCreate n => createRole n
  | .roleGet n => Edit.ask fun s => (s.requireRole n).map fun _ => n
  | .roleDelete n => deleteRole n
  | .roleExists n => Edit.ask fun s => .ok (s.roleExists n)
  | .roleList => Edit.ask fun s => .ok s.roleList
  | .rolePermissionAdd r b p => addGrant r b p
  | .rolePermissionDelete r b p => removeGrant r b p
  | .rolePermissionList r => Edit.ask fun s => s.grantsOf r
  | .requestBegin r => beginRequest r
  | .requestClose i t e => closeRequest i t e
  | .requestGet i => Edit.ask fun s => s.request i
  | .configCreate v => createLayered v
  | .configGet l b o k => Edit.ask fun s => s.layeredAt l b o k
  | .configDelete l b o k => deleteLayered l b o k
  | .configExists l b o k => Edit.ask fun s => s.layeredExists l b o k
  | .configList l b o k => Edit.ask fun s => s.layeredList l b o k

def perform (c : Call) (s : Store) : c.Answer × Store := (editFor c).run s

def after (calls : List Call) (s : Store) : Store := calls.foldl (fun s c => (perform c s).2) s

/-- The stores that calls can make of an empty one. -/
def Reachable (s : Store) : Prop := ∃ engine calls, s = after calls (new engine)

end Store

end ChatRouter
