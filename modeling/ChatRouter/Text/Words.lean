import ChatRouter.Text.Blank

set_option autoImplicit false

namespace ChatRouter.Text

/-- What a backslash and `c` stand for; other letters stand for nothing. -/
def unescape (c : Char) : Option Char :=
  match c with
  | 'a' => some '\x07'
  | 'b' => some '\x08'
  | 'f' => some '\x0C'
  | 'n' => some '\n'
  | 'r' => some '\r'
  | 't' => some '\t'
  | 'v' => some '\x0B'
  | '\\' | '\'' | '"' | '?' | '“' | '”' => some c
  | _ => none

def isDoubleQuote (c : Char) : Bool := c == '"' || c == '“' || c == '”'

/-- The state between two characters. Finished words and the characters of the word being read are
kept last first. -/
structure Scan where
  words : List (List Char)
  word : List Char
  double : Bool
  single : Bool
  escaped : Bool
deriving DecidableEq

namespace Scan

def start : Scan := ⟨[], [], false, false, false⟩

def push (s : Scan) (c : Char) : Scan := { s with word := c :: s.word }

def flush (s : Scan) : Scan :=
  if s.word.isEmpty then s else { s with words := s.word.reverse :: s.words, word := [] }

def read (s : Scan) (c : Char) : Scan :=
  if s.escaped then
    let s := { s with escaped := false }
    match unescape c with
    | some literal => s.push literal
    | none => s
  else if c = ' ' then
    if s.double then s.push c else s.flush
  else if c = '\\' then
    { s with escaped := true }
  else if isDoubleQuote c then
    if s.single then s.push '"' else { s with double := !s.double }
  else if c = '\'' then
    if s.double then s.push c else { s with single := !s.single }
  else s.push c

def readAll (s : Scan) (text : List Char) : Scan := text.foldl read s

def result (s : Scan) : List (List Char) := s.flush.words.reverse

theorem readAll_append (s : Scan) (a b : List Char) :
    s.readAll (a ++ b) = (s.readAll a).readAll b := by
  simp [readAll]

end Scan

def splitWords (text : List Char) : List (List Char) := (Scan.start.readAll (trim text)).result

def words (text : String) : List String := (splitWords text.toList).map String.ofList

end ChatRouter.Text
