import ChatRouter.Host.Program

set_option autoImplicit false

namespace ChatRouter.Host

def refusal : IO.Error → FileRefusal
  | .noFileOrDirectory .. => .missing
  | .inappropriateType .. => .notDirectory
  | e => .other (toString e)

def placeOf (file : IO.FS.Handle) : IO Place := do
  try
    let _ ← file.read 1
    return .file
  catch _ => return .directory

def lookAt (path : String) : IO (Option Place) := do
  try
    return some (← placeOf (← IO.FS.Handle.mk path .read))
  catch _ => return none

def readText (path : String) : IO (Except FileRefusal String) := do
  try
    if (← lookAt path) = some .directory then return .error .isDirectory
    return match String.fromUTF8? (← IO.FS.readBinFile path) with
      | some text => .ok text
      | none => .error .notText
  catch e => return .error (refusal e)

def readNames (path : String) : IO (Except FileRefusal (List String)) := do
  try
    let directory ← IO.FS.realPath path
    return .ok ((← directory.readDir).toList.map fun entry => entry.fileName)
  catch e => return .error (refusal e)

def lookUp : (q : Inquiry) → IO q.Answer
  | .value name => IO.getEnv name
  | .read path => readText path
  | .place path => lookAt path
  | .names path => readNames path

def look {α : Type} : Survey α → IO α
  | Script.done a => return a
  | Script.ask q next => do look (next (← lookUp q))

/-- Reads the operator's lines to the end of the input and tells how it ended. -/
partial def converse (input : IO.FS.Stream) (s : Service) : IO (Event × Service) := do
  let (printed, s) := s.flush
  IO.print printed
  (← IO.getStdout).flush
  try
    let line ← input.getLine
    if line.isEmpty then return (Console.closing, s)
    let (printed, s) := s.feed line
    IO.print printed
    converse input s
  catch e => return (.error s!"read stdin: {e}", s)

def serve (seed : ByteArray) (file : Option String) : IO UInt32 := do
  let (errors, started) ← look (Program.opened seed file)
  IO.eprint errors
  match started with
  | .error e =>
    IO.eprint e.text
    return 1
  | .ok s =>
    let (last, s) ← converse (← IO.getStdin) s
    let (printed, s) := s.close last
    IO.print printed
    IO.eprint s.exposition
    return 0

end ChatRouter.Host

open ChatRouter ChatRouter.Host in
def main (arguments : List String) : IO UInt32 := do
  let seed ← IO.getRandomBytes 32
  let file ← IO.getEnv Program.fileVariable
  match CommandLine.parse file arguments with
  | .ok ⟨.run, file, _, _⟩ => serve seed file
  | _ =>
    let o ← look (Program.outcome seed arguments "")
    IO.print o.output
    IO.eprint o.errors
    return UInt32.ofNat o.code
