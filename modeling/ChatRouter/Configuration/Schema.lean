import ChatRouter.SortedMap

set_option autoImplicit false

namespace ChatRouter

structure GlobalSettings where
  commandTrigger : String := "!"
  allowSelfRegistration : Bool := false
  enableSpokenCommands : Bool := true
  enableExplicitCommands : Bool := true
  greeting : Bool := true
deriving DecidableEq

/-- The capacities of the pipeline's queues. -/
structure Buffers where
  events : Nat := 256
  requests : Nat := 64
  responses : Nat := 64
  errors : Nat := 128
deriving DecidableEq

structure MetricsSettings where
  enabled : Bool := false
  labels : SortedMap String String := ∅
  reportOnExit : Bool := false
deriving DecidableEq

structure Configuration where
  global : GlobalSettings := {}
  buffers : Buffers := {}
  /-- The directory of the manifests that are installed at the start. -/
  bundleDirectory : Option String := none
  metrics : MetricsSettings := {}
deriving DecidableEq

def GlobalSettings.triggerChar? (g : GlobalSettings) : Option Char :=
  match g.commandTrigger.toList with
  | [c] => some c
  | _ => none

end ChatRouter
