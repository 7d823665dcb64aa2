import ChatRouter.Format.Yaml.Cursor
import ChatRouter.Unicode.Runs

set_option autoImplicit false

namespace ChatRouter.Format.Yaml

/-- The blanks and line breaks between two parts of a scalar. -/
structure Gap where
  blanks : List Char
  first : List Char
  more : List Char
  broken : Bool

namespace Gap

def empty : Gap := ⟨[], [], [], false⟩

def escaped : Gap := ⟨[], [], [], true⟩

/-- What the gap contributes: a single line break is a space, and of several the first is dropped. -/
def text (g : Gap) : List Char :=
  if g.broken then
    if g.first = ['\n'] then (if g.more.isEmpty then [' '] else g.more.reverse)
    else g.first ++ g.more.reverse
  else g.blanks.reverse

/-- Reads on. A tab in the indentation of a line is refused when `indent` says how deep that is. -/
def read (indent : Nat) : Nat → Gap → Cursor → Option (Gap × Cursor)
  | 0, g, c => some (g, c)
  | fuel + 1, g, c =>
    match c.head? with
    | some x =>
      if isBlank x then
        if g.broken then
          if c.column < indent && x = '\t' then none else read indent fuel g (c.skip 1)
        else read indent fuel { g with blanks := x :: g.blanks } (c.skip 1)
      else if isBreak x then
        if g.broken then read indent fuel { g with more := c.breakText ++ g.more } c.skipBreak
        else read indent fuel { g with blanks := [], first := c.breakText, broken := true } c.skipBreak
      else some (g, c)
    | none => some (g, c)

end Gap

/-- A character after which a colon may not stand in a flow collection. -/
def isFlowMark (c : Char) : Bool := c = ',' || c = '[' || c = ']' || c = '\x7b' || c = '\x7d'

def endsPlain (inFlow : Bool) (c : Cursor) (x : Char) : Bool :=
  (x = ':' && isGap (c.peek 1)) || (inFlow && isFlowMark x)

def strayColon (inFlow : Bool) (c : Cursor) (x : Char) : Bool :=
  inFlow && x = ':' && (c.peek 1).any fun y => isFlowMark y || y = '?'

def plainRun (inFlow : Bool) : Nat → List Char → Cursor → Option (List Char × Cursor)
  | 0, read, c => some (read, c)
  | fuel + 1, read, c =>
    match c.head? with
    | some x =>
      if isGap (some x) then some (read, c)
      else if strayColon inFlow c x then none
      else if endsPlain inFlow c x then some (read, c)
      else plainRun inFlow fuel (x :: read) (c.skip 1)
    | none => some (read, c)

/-- The parts of a plain scalar; a part is preceded by its gap. The answer tells whether the last gap
has a line break. -/
def plainParts (inFlow : Bool) (indent : Nat) :
    Nat → List Char → Gap → Cursor → Option (List Char × Bool × Cursor)
  | 0, read, g, c => some (read, g.broken, c)
  | fuel + 1, read, g, c =>
    if c.atDocumentMark || c.is '#' then some (read, g.broken, c)
    else do
      let (run, c') ← plainRun inFlow (c.rest.length + 1) [] c
      let (read, g) := if run.isEmpty then (read, g) else (run ++ g.text.reverse ++ read, .empty)
      if isGap c'.head? && c'.head?.isSome then
        let (g, c') ← Gap.read indent (c'.rest.length + 1) g c'
        if !inFlow && c'.column < indent then some (read, g.broken, c')
        else plainParts inFlow indent fuel read g c'
      else some (read, g.broken, c')

def plainScalar (inFlow : Bool) (indent : Nat) (c : Cursor) : Option (String × Bool × Cursor) := do
  let (read, broken, c) ← plainParts inFlow indent (c.rest.length + 1) [] .empty c
  return (String.ofList read.reverse, broken, c)

def simpleEscape? (c : Char) : Option Char :=
  match c with
  | '0' => some '\x00'
  | 'a' => some '\x07'
  | 'b' => some '\x08'
  | 't' | '\t' => some '\t'
  | 'n' => some '\n'
  | 'v' => some '\x0b'
  | 'f' => some '\x0c'
  | 'r' => some '\r'
  | 'e' => some '\x1b'
  | ' ' => some ' '
  | '"' => some '"'
  | '/' => some '/'
  | '\\' => some '\\'
  | 'N' => some '\u0085'
  | '_' => some '\u00a0'
  | 'L' => some '\u2028'
  | 'P' => some '\u2029'
  | _ => none

def hexWidth? (c : Char) : Option Nat :=
  match c with
  | 'x' => some 2
  | 'u' => some 4
  | 'U' => some 8
  | _ => none

/-- The character of an escape, at whose backslash the cursor stands. -/
def escape (c : Cursor) : Option (Char × Cursor) := do
  let x ← c.peek 1
  match simpleEscape? x with
  | some y => return (y, c.skip 2)
  | none =>
    let width ← hexWidth? x
    let digits := (c.rest.drop 2).take width
    guard (digits.length = width)
    let n ← Unicode.hex? digits
    guard n.isValidChar
    return (Char.ofNat n, c.skip (2 + width))

inductive PartEnd where
  | gap
  | escapedBreak
  | quote

/-- The characters of a quoted scalar up to the next gap or quote, last first. -/
def quotedRun (single : Bool) : Nat → List Char → Cursor → Option (List Char × PartEnd × Cursor)
  | 0, _, _ => none
  | fuel + 1, read, c =>
    match c.head? with
    | none => some (read, .gap, c)
    | some x =>
      if isGap (some x) then some (read, .gap, c)
      else if single && x = '\'' && c.peek 1 == some '\'' then
        quotedRun single fuel ('\'' :: read) (c.skip 2)
      else if x = (if single then '\'' else '"') then some (read, .quote, c)
      else if !single && x = '\\' then
        if (c.peek 1).any isBreak then some (read, .escapedBreak, (c.skip 1).skipBreak)
        else do
          let (y, c) ← escape c
          quotedRun single fuel (y :: read) c
      else quotedRun single fuel (x :: read) (c.skip 1)

def quotedParts (single : Bool) : Nat → List Char → Cursor → Option (List Char × Cursor)
  | 0, _, _ => none
  | fuel + 1, read, c =>
    if c.atDocumentMark || c.rest.isEmpty then none
    else do
      let (read, stop, c) ← quotedRun single (c.rest.length + 1) read c
      match stop with
      | .quote => return (read, c.skip 1)
      | .gap =>
        let (g, c) ← Gap.read 0 (c.rest.length + 1) .empty c
        quotedParts single fuel (g.text.reverse ++ read) c
      | .escapedBreak =>
        let (g, c) ← Gap.read 0 (c.rest.length + 1) .escaped c
        quotedParts single fuel (g.text.reverse ++ read) c

def quotedScalar (single : Bool) (c : Cursor) : Option (String × Cursor) := do
  let (read, c) ← quotedParts single (c.rest.length + 1) [] (c.skip 1)
  return (String.ofList read.reverse, c)

/-- What a block keeps of the line breaks at its end. -/
inductive Chomping where
  | strip
  | clip
  | keep
deriving DecidableEq

def chomping? : Option Char → Option Chomping
  | some '+' => some .keep
  | some '-' => some .strip
  | _ => none

/-- The digit that says how deep a block is indented; zero is refused. -/
def increment? (x : Option Char) : Option (Option Nat) :=
  match x with
  | some d => if d = '0' then none else if d.isDigit then some (some (d.toNat - '0'.toNat)) else some none
  | none => some none

/-- The head of a block after its mark: chomping and increment in either order. -/
def blockHead (c : Cursor) : Option (Chomping × Option Nat × Cursor) :=
  match chomping? c.head? with
  | some chomping => do
    let c := c.skip 1
    let increment ← increment? c.head?
    return (chomping, increment, if increment.isSome then c.skip 1 else c)
  | none => do
    match ← increment? c.head? with
    | some n =>
      let c := c.skip 1
      match chomping? c.head? with
      | some chomping => return (chomping, some n, c.skip 1)
      | none => return (.clip, some n, c)
    | none => return (.clip, none, c)

/-- Moves over the empty lines of a block; `most` is the deepest column so far. An indentation that is not
known yet is settled by the first line that is not empty. -/
def blockBreaks (indent : Option Nat) : Nat → Nat → List Char → Cursor → Option (Nat × List Char × Cursor)
  | 0, most, breaks, c => some (most, breaks, c)
  | fuel + 1, most, breaks, c =>
    let run := (c.rest.takeWhile (· = ' ')).length
    let c := c.skip (match indent with
      | some n => min run (n - c.column)
      | none => run)
    let most := max most c.column
    let inside := match indent with
      | some n => c.column < n
      | none => true
    if inside && c.is '\t' then none
    else if c.head?.any isBreak then blockBreaks indent fuel most (c.breakText.reverse ++ breaks) c.skipBreak
    else some (most, breaks, c)

/-- The lines of a block. `first` is the break before the line and `breaks` are the empty lines after it,
last first; `spaced` tells whether the line before began with a blank. -/
def blockLines (literal : Bool) (indent : Nat) :
    Nat → List Char → List Char → List Char → Bool → Cursor → Option (List Char × List Char × List Char × Cursor)
  | 0, read, first, breaks, _, c => some (read, first, breaks, c)
  | fuel + 1, read, first, breaks, spaced, c =>
    if c.column = indent && !c.rest.isEmpty then do
      let blank := c.head?.any isBlank
      let fold := !literal && first = ['\n'] && !spaced && !blank
      let glue := if fold then (if breaks.isEmpty then [' '] else []) else first
      let run := c.rest.takeWhile fun x => !isBreak x
      let read := run.reverse ++ breaks ++ glue ++ read
      let c := c.skip run.length
      let (first, c) := if c.rest.isEmpty then ([], c) else (c.breakText, c.skipBreak)
      let (_, breaks, c) ← blockBreaks (some indent) (c.rest.length + 1) 0 [] c
      blockLines literal indent fuel read first breaks blank c
    else some (read, first, breaks, c)

/-- A block of lines, at whose mark the cursor stands; `outer` is the indentation around it, if any. -/
def blockScalar (literal : Bool) (outer : Option Nat) (c : Cursor) : Option (String × Cursor) := do
  let (chomping, increment, c) ← blockHead (c.skip 1)
  let c := c.skipWhile isBlank
  let c := if c.is '#' then c.skipWhile fun x => !isBreak x else c
  guard (isLineEnd c.head?)
  let c := if c.rest.isEmpty then c else c.skipBreak
  let given := increment.map fun n => outer.getD 0 + n
  let (most, breaks, c) ← blockBreaks given (c.rest.length + 1) 0 [] c
  let indent := given.getD (max (max most (outer.elim 0 (· + 1))) 1)
  let (read, first, breaks, c) ← blockLines literal indent (c.rest.length + 1) [] [] breaks false c
  let read := match chomping with
    | .strip => read
    | .clip => first ++ read
    | .keep => breaks ++ first ++ read
  return (String.ofList read.reverse, c)

end ChatRouter.Format.Yaml
