import ChatRouter.Path
import ChatRouter.Script
import ChatRouter.SortedMap

set_option autoImplicit false

/-!
# The machine

What the router asks of the machine that it runs on: variables and files. It only looks. A `Survey` is a
script of such questions, and a `Machine` answers them from what it holds.
-/

namespace ChatRouter

/-- Why a file cannot be read or a directory not be listed. -/
inductive FileRefusal where
  | missing
  | notDirectory
  | isDirectory
  | notText
  | other (message : String)
deriving DecidableEq

def FileRefusal.message : FileRefusal → String
  | missing => "No such file or directory (os error 2)"
  | notDirectory => "Not a directory (os error 20)"
  | isDirectory => "Is a directory (os error 21)"
  | notText => "stream did not contain valid UTF-8"
  | other message => message

inductive Place where
  | file
  | directory
deriving DecidableEq

inductive Inquiry where
  | value (name : String)
  | read (path : String)
  | place (path : String)
  /-- The names in a directory, in any order. -/
  | names (path : String)
deriving DecidableEq

@[reducible] def Inquiry.Answer : Inquiry → Type
  | value _ => Option String
  | read _ => Except FileRefusal String
  | place _ => Option Place
  | names _ => Except FileRefusal (List String)

abbrev Survey (α : Type) : Type := Script Inquiry Inquiry.Answer α

def Survey.ask (q : Inquiry) : Survey q.Answer := Script.question q

def Survey.values : List String → Survey (SortedMap String String)
  | [] => return ∅
  | name :: rest => do
    let value ← Survey.ask (.value name)
    let values ← Survey.values rest
    return match value with
      | some value => values.insert name value
      | none => values

structure Machine where
  environment : SortedMap String String
  /-- The texts of the files by the parts of their paths from the root. Whatever leads to a file is a
  directory. -/
  files : SortedMap (List String) String
  /-- The parts of the path of the working directory, which is there even when it is empty. -/
  home : List String

namespace Machine

def partAfter? : List String → List String → Option String
  | [], part :: _ => some part
  | d :: ds, p :: ps => if d = p then partAfter? ds ps else none
  | _, [] => none

/-- The names in a directory, one for each path that leads through it. -/
def inside (m : Machine) (directory : List String) : List String :=
  ((m.home :: m.files.keys).filterMap (partAfter? directory)).eraseDups

def place (m : Machine) (parts : List String) : Option Place :=
  if m.files.contains parts then some .file
  else if parts.isEmpty || parts = m.home || !(m.inside parts).isEmpty then some .directory
  else none

def follow (m : Machine) (directory : List String) : List String → Except FileRefusal (List String)
  | [] => .ok directory
  | part :: rest =>
    match m.place directory with
    | some .directory => m.follow (if part = ".." then directory.dropLast else directory ++ [part]) rest
    | some .file => .error .notDirectory
    | none => .error .missing

/-- Where a path leads and what stands there. A slash at its end asks for a directory. -/
def find (m : Machine) (path : String) : Except FileRefusal (List String × Place) := do
  if path.isEmpty then throw .missing
  let parts ← m.follow (if Path.isAbsolute path then [] else m.home) (Path.parts path)
  match m.place parts with
  | some .directory => return (parts, .directory)
  | some .file => if path.toList.getLast? == some '/' then throw .notDirectory else return (parts, .file)
  | none => throw .missing

def read (m : Machine) (path : String) : Except FileRefusal String := do
  match ← m.find path with
  | (_, .directory) => throw .isDirectory
  | (parts, .file) =>
    match m.files.get? parts with
    | some text => return text
    | none => throw .missing

def names (m : Machine) (path : String) : Except FileRefusal (List String) := do
  match ← m.find path with
  | (parts, .directory) => return m.inside parts
  | (_, .file) => throw .notDirectory

def answer (m : Machine) : (q : Inquiry) → q.Answer
  | .value name => m.environment.get? name
  | .read path => m.read path
  | .place path => match m.find path with
    | .ok (_, place) => some place
    | .error _ => none
  | .names path => m.names path

def survey {α : Type} (m : Machine) (s : Survey α) : α := (s.run (fun q m => (m.answer q, m)) m).1

@[simp] theorem survey_pure {α : Type} (m : Machine) (a : α) : m.survey (pure a) = a := rfl

@[simp] theorem survey_ask (m : Machine) (q : Inquiry) : m.survey (Survey.ask q) = m.answer q := rfl

theorem run_answer_snd {α : Type} (m : Machine) (s : Survey α) :
    (s.run (fun q m => (m.answer q, m)) m).2 = m := by
  induction s with
  | done a => rfl
  | ask q next ih => exact ih _

theorem survey_bind {α β : Type} (m : Machine) (s : Survey α) (f : α → Survey β) :
    m.survey (s >>= f) = m.survey (f (m.survey s)) := by
  simp only [survey, Script.run_bind, run_answer_snd]

def ofFiles (environment : SortedMap String String) (home : List String)
    (files : List (String × String)) : Machine where
  environment
  files := SortedMap.ofList (files.map fun (path, text) =>
    ((if Path.isAbsolute path then [] else home) ++ Path.parts path, text))
  home

end Machine

end ChatRouter
