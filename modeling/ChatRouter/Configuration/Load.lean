import ChatRouter.Configuration.Fields
import ChatRouter.Configuration.Placeholders
import ChatRouter.Format.Json
import ChatRouter.Format.Toml
import ChatRouter.Format.Yaml.Node
import ChatRouter.Machine

set_option autoImplicit false

namespace ChatRouter

inductive FileFormat where
  | toml
  | yaml
  | json
deriving DecidableEq

namespace FileFormat

def text : FileFormat → String
  | toml => "TOML"
  | yaml => "YAML"
  | json => "JSON"

def ofExtension? : String → Option FileFormat
  | "toml" => some toml
  | "yaml" | "yml" => some yaml
  | "json" => some json
  | _ => none

def parse : FileFormat → String → Option Format.Document
  | toml => Format.Toml.parse
  | yaml => Format.Yaml.parse
  | json => Format.Json.parse

def recordForm : FileFormat → Format.RecordForm
  | toml => .openEnded
  | yaml => .named
  | json => .positional

end FileFormat

inductive LoadError where
  | unreadable (path : String) (cause : FileRefusal)
  | malformed (format : FileFormat)
  | unsupported (extension : String)
deriving DecidableEq

def LoadError.message : LoadError → String
  | unreadable path cause => s!"failed to read {path}: {cause.message}"
  | malformed format => s!"malformed {format.text}"
  | unsupported extension => s!"unsupported config format: .{extension}"

namespace Configuration

/-- The configuration of a text in the format that the path tells; without an extension it is TOML. -/
def ofText (path text : String) : Except LoadError Configuration :=
  let extension := (Path.extension? path).getD "toml"
  match FileFormat.ofExtension? extension with
  | none => .error (.unsupported extension)
  | some format =>
    match (format.parse text).bind (ofDocument? format.recordForm) with
    | some c => .ok c
    | none => .error (.malformed format)

def load (path : String) : Survey (Except LoadError Configuration) := do
  match ← Survey.ask (.read path) with
  | .error cause => return .error (.unreadable path cause)
  | .ok text =>
    let values ← Survey.values (Placeholders.names text)
    return ofText path (Placeholders.substitute values.get? text)

def fileNames : List String := ["switchyard.toml", "switchyard.yaml", "switchyard.yml", "switchyard.json"]

/-- The directory of the user's own configuration, if the user has a home. -/
def userDirectory : Survey (Option String) := do
  let chosen ← Survey.ask (.value "XDG_CONFIG_HOME")
  let home ← Survey.ask (.value "HOME")
  return match chosen.filter Path.isAbsolute, home.filter (· != "") with
    | some directory, _ => some (Path.join directory "switchyard")
    | none, some home => some (Path.join (Path.join home ".config") "switchyard")
    | none, none => none

def firstPlace? : List String → Survey (Option String)
  | [] => return none
  | path :: rest => do
    if (← Survey.ask (.place path)).isSome then return some path else firstPlace? rest

/-- The configuration of the working directory, or else of the user. Where there is none, or none that
can be loaded, the defaults hold. -/
def discover : Survey Configuration := do
  let own := match ← userDirectory with
    | some directory => fileNames.map (Path.join directory)
    | none => []
  match ← firstPlace? (fileNames ++ own) with
  | some path =>
    match ← load path with
    | .ok c => return c
    | .error _ => return {}
  | none => return {}

end Configuration

end ChatRouter
