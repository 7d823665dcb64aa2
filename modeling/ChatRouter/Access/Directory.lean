import ChatRouter.Access.PasswordHash
import ChatRouter.DataError
import ChatRouter.SortedMap
import ChatRouter.Text.Blank

set_option autoImplicit false

namespace ChatRouter

def adminUser : String := "admin"

def adminGroup : String := "admin"

def adminRole : String := "admin"

structure User where
  username : String
  email : Option String
  fullName : String
  passwordHash : Option PasswordHash
  /-- For each adapter the identifier of the user there. -/
  mappings : SortedMap String String
deriving DecidableEq

namespace User

def named (username : String) : User := ⟨username, none, "", none, ∅⟩

/-- Whether the user's e-mail is `email` up to the case of ASCII letters. -/
def hasEmail (u : User) (email : String) : Bool :=
  match u.email with
  | some own => Text.sameLetters own email
  | none => false

def isMapped (u : User) (adapter id : String) : Bool := u.mappings.get? adapter == some id

end User

structure Grant where
  bundle : String
  permission : String
deriving DecidableEq

namespace Grant

def text (g : Grant) : String := g.bundle ++ ":" ++ g.permission

/-- Reads a grant; the first colon separates two parts that are not empty. -/
def ofText? (text : String) : Option Grant :=
  match Text.splitFirst ':' text.toList with
  | some (b :: bs, p :: ps) => some ⟨String.ofList (b :: bs), String.ofList (p :: ps)⟩
  | _ => none

def checked (bundle permission : String) : Except DataError Grant :=
  if bundle.isEmpty then .error .emptyBundleName
  else if bundle.toList.contains ':' then .error (.invalidBundleName bundle)
  else if permission.isEmpty then .error .emptyPermission
  else .ok ⟨bundle, permission⟩

end Grant

/-- Grants in the order of their texts; of grants with one text the first stays. -/
abbrev GrantSet := SortedMap String Grant

namespace GrantSet

def add (s : GrantSet) (g : Grant) : GrantSet := s.insertNew g.text g

def addAll (s : GrantSet) (grants : List Grant) : GrantSet := grants.foldl add s

def remove (s : GrantSet) (g : Grant) : GrantSet := s.erase g.text

def has (s : GrantSet) (g : Grant) : Bool := s.contains g.text

end GrantSet

structure Membership where
  users : SortedSet String
  roles : SortedSet String
deriving DecidableEq

def Membership.empty : Membership := ⟨∅, ∅⟩

end ChatRouter
