import ChatRouter.Request

set_option autoImplicit false

namespace ChatRouter.Host

def echoLine (r : Request) : String :=
  if r.parameters.isEmpty then r.entry.qualifiedName ++ " (no arguments)"
  else " ".intercalate r.parameters

def echo (r : Request) : Response := .success r [echoLine r]

theorem echo_isError (r : Request) : (echo r).isError = false := rfl

end ChatRouter.Host
