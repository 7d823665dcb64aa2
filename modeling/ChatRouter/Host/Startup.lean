import ChatRouter.Access.Bootstrap
import ChatRouter.Catalog.Manifest
import ChatRouter.Machine

set_option autoImplicit false

namespace ChatRouter.Host

structure Fatal where
  message : String
  cause : Option String := none
deriving DecidableEq

def Fatal.text (f : Fatal) : String :=
  match f.cause with
  | none => s!"Error: {f.message}\n"
  | some cause => s!"Error: {f.message}\n\nCaused by:\n    {cause}\n"

namespace Startup

def echoBundle : Bundle :=
  { Bundle.named "echo" "1.0" with
    description := "Built-in commands served by the echo executor"
    commands := SortedMap.ofList [
      ("echo", ⟨"echo", "Repeat the arguments back", [], ["allow"], []⟩),
      ("say", ⟨"say", "Repeat a line starting with \"say:\"", ["^say:"], ["allow"], []⟩),
      ("audit", ⟨"audit", "Echo, restricted to user administrators", [],
        ["must have switchyard:manage_users"], []⟩)] }

def isManifest (name : String) : Bool :=
  match Path.extension? name with
  | some "yml" | some "yaml" => true
  | _ => false

/-- The bundles of manifest files, as far as the first one that is refused. -/
def bundlesOf : List String → Survey (Except Fatal (List Bundle))
  | [] => return .ok []
  | path :: rest => do
    let content ← Survey.ask (.read path)
    match Bundle.ofManifestFile path (content.mapError FileRefusal.message) with
    | .error e => return .error { message := e.message }
    | .ok b => return (← bundlesOf rest).map (b :: ·)

/-- The bundles of a directory in the order of the names of their files. -/
def bundlesIn (directory : String) : Survey (Except Fatal (List Bundle)) := do
  match ← Survey.ask (.names directory) with
  | .error cause =>
    return .error { message := s!"read bundle directory {directory}", cause := some cause.message }
  | .ok names =>
    bundlesOf (((names.filter isManifest).mergeSort fun a b => !(b < a)).map (Path.join directory))

def bundles (directory : Option String) : Survey (Except Fatal (List Bundle)) := do
  match directory with
  | none => return .ok [echoBundle]
  | some directory => return (← bundlesIn directory).map (echoBundle :: ·)

def install : List Bundle → Accessing Unit
  | [] => return ()
  | b :: rest => do
    Authorization.call (.bundleCreate { b with enabled := true })
    install rest

end Startup

end ChatRouter.Host
