import ChatRouter.Configuration.Check

set_option autoImplicit false

namespace ChatRouter.Host.Report

def heading : Option String → String
  | some path => s!"Checking {path}\n\n"
  | none => "Checking discovered configuration (defaults if none).\n\n"

def colour : Severity → String
  | .error => "\x1b[31m"
  | .warning => "\x1b[33m"
  | .info => "\x1b[36m"

def line (d : Diagnostic) : String :=
  s!"  \x1b[1m{colour d.severity}{d.severity.text}\x1b[0m {d.path}: {d.message}\n"

/-- The findings that are shown; those for information only when asked for. -/
def shown (verbose : Bool) (findings : List Diagnostic) : List Diagnostic :=
  findings.filter fun d => verbose || d.severity ≠ .info

def summary (findings : List Diagnostic) : String :=
  let errors := Diagnostic.count .error findings
  let warnings := Diagnostic.count .warning findings
  if errors = 0 && warnings = 0 then "No issues found.\n"
  else s!"{errors} error(s), {warnings} warning(s)\n"

def text (verbose : Bool) (findings : List Diagnostic) : String :=
  let shown := shown verbose findings
  String.join (shown.map line) ++ (if shown.isEmpty then "" else "\n") ++ summary findings

theorem shown_true (findings : List Diagnostic) : shown true findings = findings := by
  simp [shown]

end ChatRouter.Host.Report
