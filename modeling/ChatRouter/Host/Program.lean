import ChatRouter.Access.Credentials
import ChatRouter.Configuration.Check
import ChatRouter.Configuration.Load
import ChatRouter.Dispatch.Settings
import ChatRouter.Host.Console
import ChatRouter.Host.Help
import ChatRouter.Host.Report
import ChatRouter.Host.Session
import ChatRouter.Host.Startup
import ChatRouter.Metrics.Exposition
import ChatRouter.Regex.Parser
import ChatRouter.Text.Words

set_option autoImplicit false

/-!
# The program

What the program does for a command line. A router on the console is `opened`, is fed with what the
operator writes, and is closed at the end of the input; `run` is all of that at once.
-/

namespace ChatRouter

def Store.empty : Store := .new .standard

end ChatRouter

namespace ChatRouter.Host

structure Outcome where
  code : Nat := 0
  output : String := ""
  errors : String := ""
deriving DecidableEq

structure Service where
  session : Session
  metrics : MetricsSettings

namespace Service

def flush (r : Service) : String × Service :=
  let (sent, session) := r.session.settle.takeSent
  (String.join (sent.map Console.print), { r with session })

def feed (r : Service) (text : String) : String × Service :=
  flush { r with session := r.session.deliver Console.name (Console.events text) }

def close (r : Service) (last : Event) : String × Service :=
  flush { r with session := (r.session.deliver Console.name [last]).endStream Console.name }

def exposition (r : Service) : String :=
  if r.metrics.enabled && r.metrics.reportOnExit then
    Exposition.render r.metrics.labels r.session.pipeline.world.tally
  else ""

end Service

namespace Program

def fileVariable : String := "SWITCHYARD_CONFIG"

def configuration (file : Option String) : Survey (Except LoadError Configuration) := do
  match file with
  | some path => Configuration.load path
  | none => return .ok (← Configuration.discover)

def invalid : Fatal := { message := "invalid configuration; run \x60switchyard config check\x60 for details" }

def account : Bootstrap.Account := ⟨some Console.operatorEmail, none⟩

def passwordLine (seed : ByteArray) : String :=
  s!"admin password (shown once): {Credentials.password seed 0}\n"

def bootstrapped (seed : ByteArray) : Except Fatal Faulty :=
  match (Faulty.ofStore .empty).run (Bootstrap.bootstrap account (Credentials.freshHash seed 0)).run with
  | (.ok (), data) => .ok data
  | (.error e, _) => .error { message := e.message }

/-- A router whose store has been filled, with the console connected. -/
def connect (seed : ByteArray) (c : Configuration) (operator : Identity) (data : Faulty) : Service :=
  let adapters : Registry Adapter :=
    .ofMap ((∅ : SortedMap String Adapter).insert Console.name (Console.adapter operator))
  let pipeline := Dispatch.Pipeline.initial (.ofConfiguration c)
    (fun n => Credentials.freshHash seed (n + 1)) data adapters
  ⟨(Session.ofPipeline pipeline).deliver Console.name [Console.opening], c.metrics⟩

def furnish (seed : ByteArray) (c : Configuration) (data : Faulty) : Survey (Except Fatal Service) := do
  match ← Startup.bundles c.bundleDirectory with
  | .error e => return .error e
  | .ok bundles =>
    match data.run (Startup.install bundles).run with
    | (.error e, _) => return .error { message := e.message }
    | (.ok (), data) =>
      let login ← Survey.ask (.value "USER")
      return .ok (connect seed c (Console.operator login) data)

/-- Starts a router; what is printed to the error output comes with it. `seed` is what credentials are
drawn from. -/
def opened (seed : ByteArray) (file : Option String) : Survey (String × Except Fatal Service) := do
  match ← configuration file with
  | .error e => return ("", .error { message := e.message })
  | .ok c =>
    if Diagnostic.hasErrors (← c.examine) then return ("", .error invalid)
    else
      match bootstrapped seed with
      | .error e => return ("", .error e)
      | .ok data => return (passwordLine seed, ← furnish seed c data)

def fail (errors : String) (e : Fatal) : Outcome := { code := 1, errors := errors ++ e.text }

def run (seed : ByteArray) (file : Option String) (input : String) : Survey Outcome := do
  match ← opened seed file with
  | (errors, .error e) => return fail errors e
  | (errors, .ok r) =>
    let (fed, r) := r.feed input
    let (last, r) := r.close Console.closing
    return { output := fed ++ last, errors := errors ++ r.exposition }

def tokenize (texts : List String) : Outcome :=
  { output := String.join ((Text.words (" ".intercalate texts)).map (· ++ "\n")) }

def check (file : Option String) (verbose : Bool) : Survey Outcome := do
  match ← configuration file with
  | .error e => return fail (Report.heading file) { message := e.message }
  | .ok c =>
    let findings ← c.examine
    return {
      code := if Diagnostic.hasErrors findings then 1 else 0
      errors := Report.heading file ++ Report.text verbose findings }

/-- What is printed when there is nothing to do; `file` is what the environment names. -/
def stop (file : Option String) : Stop → Outcome
  | .help topic => { output := topic.text file }
  | .misuse e => { code := 2, errors := s!"error: {e.message}\n" }

/-- The whole program: its arguments and its input, on a machine that answers. -/
def outcome (seed : ByteArray) (arguments : List String) (input : String) : Survey Outcome := do
  let file ← Survey.ask (.value fileVariable)
  match CommandLine.parse file arguments with
  | .error s => return stop file s
  | .ok c =>
    match c.action with
    | .run => run seed c.config input
    | .tokenize texts => return tokenize texts
    | .check verbose => check c.config verbose

end Program

end ChatRouter.Host
