import ChatRouter.Host.CommandLine

set_option autoImplicit false

namespace ChatRouter.Host

structure Section where
  title : String
  rows : List (String × String)
deriving DecidableEq

namespace Section

def width (s : Section) : Nat := (s.rows.map fun r => r.1.length).foldl max 0

def padded (width : Nat) (s : String) : String := s ++ String.ofList (List.replicate (width - s.length) ' ')

def text (s : Section) : String :=
  s.title ++ ":\n" ++
    String.join (s.rows.map fun (left, right) => "  " ++ padded s.width left ++ "  " ++ right ++ "\n")

end Section

namespace Level

def about : Level → String
  | program => "Switchyard, a chatops command router"
  | run => "Start the dispatcher with a console adapter (default)"
  | tokenize => "Print the tokens a command line splits into"
  | config => "Configuration management"
  | check => "Validate the configuration and report errors/warnings"

def path : Level → String
  | program => "switchyard"
  | run => "switchyard run"
  | tokenize => "switchyard tokenize"
  | config => "switchyard config"
  | check => "switchyard config check"

def usage : Level → String
  | program => "[OPTIONS] [COMMAND]"
  | run | check => "[OPTIONS]"
  | tokenize => "[OPTIONS] <TEXT>..."
  | config => "[OPTIONS] <COMMAND>"

def below : Level → List (String × Level)
  | program => [("run", run), ("tokenize", tokenize), ("config", config)]
  | config => [("check", check)]
  | run | tokenize | check => []

theorem sub?_of_mem_below {level inner : Level} {word : String} (h : (word, inner) ∈ level.below) :
    level.sub? word = some inner := by
  cases level <;> simp only [below, List.mem_cons, Prod.mk.injEq, List.not_mem_nil, or_false] at h
  · rcases h with ⟨rfl, rfl⟩ | ⟨rfl, rfl⟩ | ⟨rfl, rfl⟩ <;> rfl
  · obtain ⟨rfl, rfl⟩ := h
    rfl

def helpAbout : String := "Print this message or the help of the given subcommand(s)"

def commands (level : Level) : List Section :=
  if level.below.isEmpty then []
  else [⟨"Commands", level.below.map (fun (word, inner) => (word, inner.about)) ++ [("help", helpAbout)]⟩]

def arguments : Level → List Section
  | tokenize => [⟨"Arguments", [("<TEXT>...", "Text to tokenize; multiple arguments are joined with spaces")]⟩]
  | program | run | config | check => []

/-- The options; `file` is what the environment names as the configuration file. -/
def options (file : Option String) (level : Level) : Section :=
  let logLevel := ("    --log-level <LOG_LEVEL>", "Log level (trace, debug, info, warn, error) [default: info]")
  let verbose := ("    --verbose", "Show informational diagnostics in addition to errors and warnings")
  let jsonLogs := ("    --json-logs", "Output logs as JSON instead of human-readable")
  let config := ("    --config <CONFIG>",
    "Config file (overrides discovery in ./ and ~/.config/switchyard/) [env: SWITCHYARD_CONFIG=" ++
      file.getD "" ++ "]")
  let help := ("-h, --help", "Print help")
  ⟨"Options", logLevel :: (if level = .check then [verbose] else []) ++ [jsonLogs, config, help]⟩

end Level

def helpText (about usage : String) (sections : List Section) : String :=
  about ++ "\n\nUsage: " ++ usage ++ "\n" ++ String.join (sections.map fun s => "\n" ++ s.text)

/-- The help on a topic, where the environment names `file` as the configuration file. -/
def Topic.text (file : Option String) : Topic → String
  | level l => helpText l.about (l.path ++ " " ++ l.usage) (l.commands ++ l.arguments ++ [l.options file])
  | help below =>
    helpText Level.helpAbout (below.path ++ " help [COMMAND]...")
      [⟨"Arguments", [("[COMMAND]...", "Print help for the subcommand(s)")]⟩]

end ChatRouter.Host
