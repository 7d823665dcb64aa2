import ChatRouter.Configuration.Schema
import ChatRouter.Machine
import ChatRouter.Text.Blank
import ChatRouter.Text.Quoted

set_option autoImplicit false

namespace ChatRouter

inductive Severity where
  | error
  | warning
  | info
deriving DecidableEq

def Severity.text : Severity → String
  | error => "error"
  | warning => "warning"
  | info => "info"

structure Diagnostic where
  severity : Severity
  /-- The setting, with dots between its parts. -/
  path : String
  message : String
deriving DecidableEq

def Diagnostic.text (d : Diagnostic) : String := s!"{d.severity.text}: {d.path}: {d.message}"

namespace Configuration

def checkTrigger (g : GlobalSettings) : List Diagnostic :=
  match g.triggerChar? with
  | none =>
    [⟨.error, "global.command_trigger",
      s!"must be exactly one character, got {Text.quoted g.commandTrigger}"⟩]
  | some c =>
    if Text.isBlank c then [⟨.error, "global.command_trigger", "must not be whitespace"⟩] else []

def checkModes (g : GlobalSettings) : List Diagnostic :=
  if g.enableSpokenCommands || g.enableExplicitCommands then []
  else
    [⟨.warning, "global",
      "both spoken and explicit commands are disabled; no message will ever resolve"⟩]

def checkRegistration (g : GlobalSettings) : List Diagnostic :=
  if g.allowSelfRegistration then
    [⟨.info, "global.allow_self_registration",
      "unknown chat users will get accounts on their first command"⟩]
  else []

def checkBuffers (b : Buffers) : List Diagnostic :=
  [("dispatch.event_buffer", b.events), ("dispatch.request_buffer", b.requests),
    ("dispatch.response_buffer", b.responses), ("dispatch.error_buffer", b.errors)].filterMap
    fun (path, capacity) =>
      if capacity = 0 then some ⟨.error, path, "channel capacity must be > 0"⟩ else none

def checkDirectory (isDirectory : String → Bool) : Option String → List Diagnostic
  | none => []
  | some dir =>
    if isDirectory dir then [] else [⟨.warning, "bundles.dir", s!"{dir} is not a directory"⟩]

/-- All findings, where `isDirectory` tells which paths are directories. -/
def check (isDirectory : String → Bool) (c : Configuration) : List Diagnostic :=
  checkTrigger c.global ++ checkModes c.global ++ checkRegistration c.global ++
    checkBuffers c.buffers ++ checkDirectory isDirectory c.bundleDirectory

def examine (c : Configuration) : Survey (List Diagnostic) := do
  match c.bundleDirectory with
  | none => return c.check fun _ => true
  | some dir =>
    let place ← Survey.ask (.place dir)
    return c.check fun _ => place = some .directory

end Configuration

namespace Diagnostic

def count (severity : Severity) (findings : List Diagnostic) : Nat :=
  findings.countP fun d => d.severity = severity

def hasErrors (findings : List Diagnostic) : Bool := findings.any fun d => d.severity = .error

end Diagnostic

end ChatRouter
