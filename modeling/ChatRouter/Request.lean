import ChatRouter.Catalog.Bundle

set_option autoImplicit false

namespace ChatRouter

structure Request where
  entry : Entry
  adapter : String
  channel : String
  parameters : List String
  /-- The sender as the adapter knows them. -/
  userId : String
  userName : String
  userEmail : Option String
  id : Int
deriving DecidableEq

def Request.assign (r : Request) (id : Int) : Except DataError Request :=
  if r.id ≠ 0 then .error (.requestAlreadyBegun r.id) else .ok { r with id }

structure Response where
  request : Request
  status : Int
  output : List String
  title : Option String
  error : Option String
deriving DecidableEq

namespace Response

def success (request : Request) (output : List String) : Response :=
  ⟨request, 0, output, none, none⟩

def failure (request : Request) (status : Int) (error : String) : Response :=
  ⟨request, status, [], none, some error⟩

def isError (r : Response) : Bool := r.status ≠ 0 || r.error.isSome

end Response

structure Record where
  request : Request
  status : Option Int
  error : Option String
  closed : Bool
deriving DecidableEq

end ChatRouter
