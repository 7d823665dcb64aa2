import ChatRouter.Text.Quoted

set_option autoImplicit false

namespace ChatRouter

inductive Protected where
  | user
  | group
  | groupMember
deriving DecidableEq

def Protected.text : Protected → String
  | user => "user"
  | group => "group"
  | groupMember => "group member"

inductive DataError where
  | emptyBundleName
  | invalidBundleName (name : String)
  | emptyBundleVersion
  | invalidBundleVersion (text : String)
  | noSuchBundle (name version : String)
  | bundleExists (name version : String)
  | emptyCommandName (bundle : String)
  | invalidTrigger (bundle command : String)
  | emptyUserName
  | noSuchUser (name : String)
  | userExists (name : String)
  | duplicateEmail (email : String)
  | adminUndeletable (what : Protected)
  | emptyGroupName
  | noSuchGroup (name : String)
  | groupExists (name : String)
  | emptyRoleName
  | noSuchRole (name : String)
  | roleExists (name : String)
  | emptyPermission
  | requestAlreadyBegun (id : Int)
  | noSuchRequest (id : Int)
  | invalidLayer (text : String)
  | missingField (field : String)
  | noSuchConfiguration (path : String)
  | configurationExists (path : String)
  | malformedManifest
  | other (message : String)
deriving DecidableEq

def DataError.message : DataError → String
  | emptyBundleName => "bundle name is empty"
  | invalidBundleName name => s!"bundle name {Text.quoted name} must not contain ':'"
  | emptyBundleVersion => "bundle version is empty"
  | invalidBundleVersion text => s!"bundle version {Text.quoted text} is not a semantic version"
  | noSuchBundle name version => s!"no such bundle: {name} {version}"
  | bundleExists name version => s!"bundle already exists: {name} {version}"
  | emptyCommandName bundle => s!"command name is empty in bundle {bundle}"
  | invalidTrigger bundle command => s!"invalid trigger for {bundle}:{command}"
  | emptyUserName => "user name is empty"
  | noSuchUser name => s!"no such user: {name}"
  | userExists name => s!"user already exists: {name}"
  | duplicateEmail email => s!"email already in use: {email}"
  | adminUndeletable what => s!"the admin {what.text} cannot be deleted"
  | emptyGroupName => "group name is empty"
  | noSuchGroup name => s!"no such group: {name}"
  | groupExists name => s!"group already exists: {name}"
  | emptyRoleName => "role name is empty"
  | noSuchRole name => s!"no such role: {name}"
  | roleExists name => s!"role already exists: {name}"
  | emptyPermission => "permission name is empty"
  | requestAlreadyBegun id => s!"request {id} has already begun"
  | noSuchRequest id => s!"no such request: {id}"
  | invalidLayer text =>
    s!"invalid configuration layer {Text.quoted text}: expected bundle, room, group or user"
  | missingField field => s!"dynamic configuration field {field} is empty"
  | noSuchConfiguration path => s!"no such configuration: {path}"
  | configurationExists path => s!"configuration already exists: {path}"
  | malformedManifest => "malformed manifest"
  | other message => message

end ChatRouter
