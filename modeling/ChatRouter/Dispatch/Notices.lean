import ChatRouter.Request

set_option autoImplicit false

namespace ChatRouter.Dispatch

def errorTitle : String := "Error"

/-- The answer to a message whose command could not be resolved or may not run. -/
def planningFailure (command error : String) : String :=
  "The pipeline failed planning the invocation:\n```\n" ++ command ++
    "\n```\nThe specific error was:\n```\n" ++ error ++ "\n```"

def invocationText (r : Request) : String :=
  r.parameters.foldl (fun text parameter => text ++ " " ++ parameter) r.entry.qualifiedName

def outputText (r : Response) : String := "\n".intercalate r.output

def failureText (r : Response) : String :=
  match r.error with
  | some error => error
  | none => if r.output.isEmpty then s!"exit status {r.status}" else outputText r

def executionFailure (r : Response) : String :=
  "The pipeline failed executing the command:\n```\n" ++ invocationText r.request ++
    "\n```\nThe specific error was:\n```\n" ++ failureText r ++ "\n```"

def greetingText (bot : String) (trigger : Option Char) (sample : Option String) : String :=
  match trigger, sample with
  | some t, some command =>
    s!"{bot} is online. Commands start with `{t}`, e.g. `{t}{command}`."
  | some t, none => s!"{bot} is online. Commands start with `{t}`."
  | none, _ => s!"{bot} is online."

end ChatRouter.Dispatch
