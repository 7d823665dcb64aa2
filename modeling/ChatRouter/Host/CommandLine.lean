set_option autoImplicit false

namespace ChatRouter.Host

/-- Where in the tree of commands an argument stands. -/
inductive Level where
  | program
  | run
  | tokenize
  | config
  | check
deriving DecidableEq

inductive Setting where
  | logLevel
  | config
deriving DecidableEq

inductive Switch where
  | jsonLogs
  | verbose
  | help
deriving DecidableEq

inductive Topic where
  | level (level : Level)
  | help (below : Level)
deriving DecidableEq

inductive UsageError where
  | unexpected (argument : String)
  | missingValue (setting : Setting)
  | repeated (option : String)
  | missingCommand
  | missingText
deriving DecidableEq

inductive Stop where
  | help (topic : Topic)
  | misuse (error : UsageError)
deriving DecidableEq

inductive Action where
  | run
  | tokenize (texts : List String)
  | check (verbose : Bool)
deriving DecidableEq

structure CommandLine where
  action : Action
  config : Option String
  logLevel : String
  jsonLogs : Bool
deriving DecidableEq

namespace Level

def sub? : Level → String → Option Level
  | program, "run" => some run
  | program, "tokenize" => some tokenize
  | program, "config" => some config
  | config, "check" => some check
  | _, _ => none

def hasLevels : Level → Bool
  | program | config => true
  | run | tokenize | check => false

end Level

def Setting.name : Setting → String
  | logLevel => "log-level"
  | config => "config"

def setting? : String → Option Setting
  | "log-level" => some .logLevel
  | "config" => some .config
  | _ => none

def Switch.name : Switch → String
  | jsonLogs => "json-logs"
  | verbose => "verbose"
  | help => "help"

def switch? (level : Level) : String → Option Switch
  | "json-logs" => some .jsonLogs
  | "help" => some .help
  | "verbose" => if level = .check then some .verbose else none
  | _ => none

def UsageError.message : UsageError → String
  | unexpected argument => s!"unexpected argument '{argument}' found"
  | missingValue setting => s!"a value is required for '--{setting.name}' but none was supplied"
  | repeated option => s!"the argument '--{option}' cannot be used multiple times"
  | missingCommand => "a subcommand is required"
  | missingText => "the following required arguments were not provided: <TEXT>..."

structure Given where
  level : Level
  logLevel : Option String := none
  config : Option String := none
  jsonLogs : Bool := false
  verbose : Bool := false
  texts : List String := []
deriving DecidableEq

/-- An option whose value has not been taken in: it may still be missing. -/
structure Pending where
  setting : Setting
  value : Option String
deriving DecidableEq

namespace Given

def misuse {α : Type} (e : UsageError) : Except Stop α := .error (.misuse e)

/-- Takes in the value of an option, which may be given once. A path is not empty. -/
def set (g : Given) (setting : Setting) (value : String) : Except Stop Given :=
  match setting with
  | .logLevel =>
    if g.logLevel.isSome then misuse (.repeated setting.name) else .ok { g with logLevel := some value }
  | .config =>
    if value.isEmpty then misuse (.missingValue setting)
    else if g.config.isSome then misuse (.repeated setting.name)
    else .ok { g with config := some value }

def resolve (g : Given) : Option Pending → Except Stop Given
  | none => .ok g
  | some ⟨setting, some value⟩ => g.set setting value
  | some ⟨setting, none⟩ => misuse (.missingValue setting)

def turnOn (g : Given) : Switch → Except Stop Given
  | .jsonLogs =>
    if g.jsonLogs then misuse (.repeated Switch.jsonLogs.name) else .ok { g with jsonLogs := true }
  | .verbose =>
    if g.verbose then misuse (.repeated Switch.verbose.name) else .ok { g with verbose := true }
  | .help => .error (.help (.level g.level))

def long (g : Given) (pending : Option Pending) (argument name : String) (attached : Option String) :
    Except Stop (Given × Option Pending) :=
  match setting? name, attached with
  | some setting, some value => do return (← (← g.resolve pending).set setting value, none)
  | some setting, none => do return (← g.resolve pending, some ⟨setting, none⟩)
  | none, some _ => misuse (.unexpected argument)
  | none, none =>
    match switch? g.level name with
    | some switch => do return (← (← g.resolve pending).turnOn switch, none)
    | none => misuse (.unexpected argument)

def positional (g : Given) (pending : Option Pending) (argument : String) :
    Except Stop (Given × Option Pending) :=
  if g.level = .tokenize then do
    let g ← g.resolve pending
    return ({ g with texts := g.texts ++ [argument] }, none)
  else misuse (.unexpected argument)

def positionals (g : Given) (pending : Option Pending) : List String → Except Stop (Given × Option Pending)
  | [] => .ok (g, pending)
  | argument :: rest => do
    let (g, pending) ← g.positional pending argument
    g.positionals pending rest

/-- The level is complete: what must be there is there. `named` is the file that the environment
names. -/
def finish (g : Given) (named : Option String) (pending : Option Pending) (inner : List Given) :
    Except Stop (List Given) := do
  let g ← g.resolve pending
  if g.config.isNone && named == some "" then misuse (.missingValue .config)
  else if g.level = .tokenize && g.texts.isEmpty then misuse .missingText
  else if g.level = .config && inner.isEmpty then misuse .missingCommand
  else return g :: inner

end Given

inductive Shape where
  /-- Two dashes: no options follow. -/
  | dashes
  | long (name : String) (attached : Option String)
  | short (letters : List Char)
  | word
deriving DecidableEq

def attached : List Char → List Char × Option (List Char)
  | [] => ([], none)
  | '=' :: value => ([], some value)
  | c :: rest => let (name, value) := attached rest; (c :: name, value)

def shape (argument : String) : Shape :=
  match argument.toList with
  | ['-', '-'] => .dashes
  | '-' :: '-' :: rest =>
    let (name, value) := attached rest
    .long (String.ofList name) (value.map String.ofList)
  | '-' :: c :: rest => .short (c :: rest)
  | _ => .word

def helpOn : Level → List String → Stop
  | level, [] => .help (.level level)
  | level, "help" :: rest =>
    if level.hasLevels && rest.isEmpty then .help (.help level) else .misuse (.unexpected "help")
  | level, word :: rest =>
    match level.sub? word with
    | some inner => helpOn inner rest
    | none => .misuse (.unexpected word)

/-- Reads the arguments of a level and the levels below. The outermost comes first. -/
def scan (named : Option String) (g : Given) (pending : Option Pending) :
    List String → Except Stop (List Given)
  | [] => g.finish named pending []
  | argument :: rest =>
    match pending, shape argument with
    | some ⟨setting, none⟩, .word => scan named g (some ⟨setting, some argument⟩) rest
    | some ⟨setting, none⟩, _ => Given.misuse (.missingValue setting)
    | pending, .dashes => do
      let (g, pending) ← g.positionals pending rest
      g.finish named pending []
    | pending, .long name value =>
      match g.long pending argument name value with
      | .error stop => .error stop
      | .ok (g, pending) => scan named g pending rest
    | pending, .short letters =>
      if letters.head? == some 'h' then do
        let _ ← g.resolve pending
        .error (.help (.level g.level))
      else Given.misuse (.unexpected argument)
    | pending, .word =>
      match g.level.sub? argument with
      | some inner =>
        match scan named { level := inner } none rest with
        | .error stop => .error stop
        | .ok levels => g.finish named pending levels
      | none =>
        if argument = "help" && g.level.hasLevels then .error (helpOn g.level rest)
        else
          match g.positional pending argument with
          | .error stop => .error stop
          | .ok (g, pending) => scan named g pending rest

def innermost {α : Type} (value : Given → Option α) (levels : List Given) : Option α :=
  levels.reverse.findSome? value

def Given.action (g : Given) : Action :=
  match g.level with
  | .program | .run | .config => .run
  | .tokenize => .tokenize g.texts
  | .check => .check g.verbose

/-- Reads the arguments. `named` is the configuration file that the environment names. -/
def CommandLine.parse (named : Option String) (arguments : List String) : Except Stop CommandLine := do
  let levels ← scan named { level := .program } none arguments
  return {
    action := ((levels.getLast?).map Given.action).getD .run
    config := (innermost Given.config levels).or named
    logLevel := (innermost Given.logLevel levels).getD "info"
    jsonLogs := levels.any Given.jsonLogs }

end ChatRouter.Host
