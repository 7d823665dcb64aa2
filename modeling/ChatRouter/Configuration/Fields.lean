import ChatRouter.Configuration.Schema
import ChatRouter.Format.Document

set_option autoImplicit false

namespace ChatRouter.Configuration

open Format Document

def readGlobal (form : RecordForm) (d : Document) : Option GlobalSettings := do
  let names := ["command_trigger", "allow_self_registration", "enable_spoken_commands",
    "enable_explicit_commands", "greeting"]
  match ← d.fields? form names with
  | [trigger, registration, spoken, explicit, greeting] =>
    let standard : GlobalSettings := {}
    return {
      commandTrigger := ← fieldOr standard.commandTrigger readText trigger
      allowSelfRegistration := ← fieldOr standard.allowSelfRegistration readFlag registration
      enableSpokenCommands := ← fieldOr standard.enableSpokenCommands readFlag spoken
      enableExplicitCommands := ← fieldOr standard.enableExplicitCommands readFlag explicit
      greeting := ← fieldOr standard.greeting readFlag greeting }
  | _ => none

def readBuffers (form : RecordForm) (d : Document) : Option Buffers := do
  let names := ["event_buffer", "request_buffer", "response_buffer", "error_buffer"]
  match ← d.fields? form names with
  | [events, requests, responses, errors] =>
    let standard : Buffers := {}
    return {
      events := ← fieldOr standard.events readCount events
      requests := ← fieldOr standard.requests readCount requests
      responses := ← fieldOr standard.responses readCount responses
      errors := ← fieldOr standard.errors readCount errors }
  | _ => none

def readBundles (form : RecordForm) (d : Document) : Option (Option String) := do
  match ← d.fields? form ["dir"] with
  | [dir] => fieldOr none (readOptional readText) dir
  | _ => none

def readMetrics (form : RecordForm) (d : Document) : Option MetricsSettings := do
  match ← d.fields? form ["enabled", "labels", "report_on_exit"] with
  | [enabled, labels, report] =>
    return {
      enabled := ← fieldOr false readFlag enabled
      labels := ← fieldOr ∅ (readMap readText) labels
      reportOnExit := ← fieldOr false readFlag report }
  | _ => none

/-- The configuration of a document in a format with this form of records. -/
def ofDocument? (form : RecordForm) (d : Document) : Option Configuration := do
  match ← d.fields? form ["global", "dispatch", "bundles", "metrics"] with
  | [global, buffers, bundles, metrics] =>
    return {
      global := ← fieldOr {} (readGlobal form) global
      buffers := ← fieldOr {} (readBuffers form) buffers
      bundleDirectory := ← fieldOr none (readBundles form) bundles
      metrics := ← fieldOr {} (readMetrics form) metrics }
  | _ => none

end ChatRouter.Configuration
