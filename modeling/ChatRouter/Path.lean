import ChatRouter.Text.Blank

set_option autoImplicit false

namespace ChatRouter.Path

def isAbsolute (path : String) : Bool := path.toList.head? == some '/'

def parts (path : String) : List String :=
  ((Text.pieces '/' path.toList).filter fun p => p != [] && p != ['.']).map String.ofList

def fileName? (path : String) : Option String :=
  match (parts path).getLast? with
  | some ".." | none => none
  | some name => some name

/-- What follows the last dot of the file name; a dot that begins the name does not count. -/
def extension? (path : String) : Option String := do
  let name ← fileName? path
  let (reversed, rest) ← Text.splitFirst '.' name.toList.reverse
  if rest.isEmpty then none else some (String.ofList reversed.reverse)

def join (directory name : String) : String :=
  if directory.isEmpty || directory.toList.getLast? == some '/' then directory ++ name
  else directory ++ "/" ++ name

end ChatRouter.Path
