import ChatRouter.Format.Document
import ChatRouter.Format.Yaml.Scalar

set_option autoImplicit false

/-!
# Tokens of YAML

Indentation and the keys of mappings become tokens of their own. That a text was a key is known only at
the colon behind it, so a token that may begin a key is remembered by its place, and the key's token is
put in there later.
-/

namespace ChatRouter.Format.Yaml

inductive Token where
  | version (major minor : Nat)
  /-- A short form for the beginning of tags. -/
  | shorthand (handle start : String)
  | documentStart
  | documentEnd
  | blockSequenceStart
  | blockMappingStart
  | blockEnd
  | flowSequenceStart
  | flowSequenceEnd
  | flowMappingStart
  | flowMappingEnd
  | blockEntry
  | flowEntry
  | key
  | value
  | alias (name : String)
  | anchor (name : String)
  | tag (handle suffix : String)
  | scalar (style : ScalarStyle) (text : String)
deriving DecidableEq

/-- A token that may turn out to begin a key. -/
structure Candidate where
  required : Bool
  place : Nat
  index : Nat
  line : Nat
  column : Nat
deriving DecidableEq

structure Lexer where
  cursor : Cursor
  /-- The columns of the open blocks, innermost first. -/
  indents : List Nat
  keyAllowed : Bool
  /-- The candidate of this level of flow collections, and those of the levels around it. -/
  candidate : Option Candidate
  outer : List (Option Candidate)
  tokens : Array Token

namespace Lexer

def ofText (text : List Char) : Lexer := ⟨.ofText text, [], true, none, [], #[]⟩

def inFlow (l : Lexer) : Bool := !l.outer.isEmpty

def push (l : Lexer) (t : Token) : Lexer := { l with tokens := l.tokens.push t }

def skip (l : Lexer) (n : Nat) : Lexer := { l with cursor := l.cursor.skip n }

def skipGaps : Nat → Lexer → Lexer
  | 0, l => l
  | fuel + 1, l =>
    let c := if l.cursor.column = 0 && l.cursor.is '\ufeff' then l.cursor.skip 1 else l.cursor
    let c := c.skipWhile fun x => x = ' ' || ((l.inFlow || !l.keyAllowed) && x = '\t')
    let c := if c.is '#' then c.skipWhile fun x => !isBreak x else c
    if c.head?.any isBreak then
      skipGaps fuel { l with cursor := c.skipBreak, keyAllowed := l.keyAllowed || !l.inFlow }
    else { l with cursor := c }

/-- A candidate is given up when its line has ended or it is too long. -/
def isStale (c : Cursor) (k : Candidate) : Bool := k.line < c.line || k.index + 1024 < c.index

def dropStale (l : Lexer) : Option Lexer :=
  let stale (k : Option Candidate) : Bool := k.any (isStale l.cursor)
  if (l.candidate :: l.outer).any fun k => stale k && k.any (·.required) then none
  else
    let keep (k : Option Candidate) : Option Candidate := if stale k then none else k
    some { l with candidate := keep l.candidate, outer := l.outer.map keep }

def dropCandidate (l : Lexer) : Option Lexer :=
  if l.candidate.any (·.required) then none else some { l with candidate := none }

def remember (l : Lexer) : Option Lexer :=
  if l.keyAllowed then do
    let required := !l.inFlow && l.indents.head? == some l.cursor.column
    let l' ← l.dropCandidate
    let c := l.cursor
    return { l' with candidate := some ⟨required, l.tokens.size, c.index, c.line, c.column⟩ }
  else some l

/-- Closes the blocks that are deeper than `column`; without a column, all of them. -/
def closeBlocks (column : Option Nat) : List Nat → Lexer → Lexer
  | [], l => l
  | i :: rest, l =>
    if column.all (· < i) then closeBlocks column rest { l with indents := rest, tokens := l.tokens.push .blockEnd }
    else l

def unroll (l : Lexer) (column : Option Nat) : Lexer :=
  if l.inFlow then l else closeBlocks column l.indents l

/-- Opens a block at `column` if the open ones are less deep; its token goes in at `place`. -/
def roll (l : Lexer) (column place : Nat) (t : Token) : Lexer :=
  if l.inFlow || l.indents.head?.any (column ≤ ·) then l
  else { l with indents := column :: l.indents, tokens := l.tokens.insertIdxIfInBounds place t }

def startOver (l : Lexer) : Option Lexer := do
  let l ← (l.unroll none).dropCandidate
  return { l with keyAllowed := false }

def openFlow (l : Lexer) (t : Token) : Option Lexer := do
  let l ← l.remember
  return { (l.push t).skip 1 with outer := l.candidate :: l.outer, candidate := none, keyAllowed := true }

def closeFlow (l : Lexer) (t : Token) : Option Lexer := do
  let l ← l.dropCandidate
  let l := { (l.push t).skip 1 with keyAllowed := false }
  match l.outer with
  | k :: rest => return { l with candidate := k, outer := rest }
  | [] => return l

def flowEntry (l : Lexer) : Option Lexer := do
  let l ← l.dropCandidate
  return { (l.push .flowEntry).skip 1 with keyAllowed := true }

def blockEntry (l : Lexer) : Option Lexer := do
  guard (l.inFlow || l.keyAllowed)
  let l := l.roll l.cursor.column l.tokens.size .blockSequenceStart
  let l ← l.dropCandidate
  return { (l.push .blockEntry).skip 1 with keyAllowed := true }

def explicitKey (l : Lexer) : Option Lexer := do
  guard (l.inFlow || l.keyAllowed)
  let l := l.roll l.cursor.column l.tokens.size .blockMappingStart
  let l ← l.dropCandidate
  return { (l.push .key).skip 1 with keyAllowed := !l.inFlow }

def value (l : Lexer) : Option Lexer :=
  match l.candidate with
  | some k =>
    let l := { l with tokens := l.tokens.insertIdxIfInBounds k.place .key, candidate := none, keyAllowed := false }
    let l := l.roll k.column k.place .blockMappingStart
    some ((l.push .value).skip 1)
  | none =>
    if l.inFlow || l.keyAllowed then
      let l := l.roll l.cursor.column l.tokens.size .blockMappingStart
      some { (l.push .value).skip 1 with keyAllowed := !l.inFlow }
    else none

def named (l : Lexer) (t : String → Token) : Option Lexer := do
  let l ← l.remember
  let c := l.cursor.skip 1
  let name := c.rest.takeWhile isWord
  let c := c.skip name.length
  guard (!name.isEmpty && (isGap c.head? || c.head?.any "?:,]\x7d%@\x60".toList.contains))
  return { l.push (t (String.ofList name)) with cursor := c, keyAllowed := false }

def isTagMark (brackets : Bool) (c : Char) : Bool :=
  ";/?:@&=+$.!~*'()".toList.contains c || (brackets && ",[]".toList.contains c)

def tagByte (s : List Char) : Option UInt8 :=
  match s with
  | '%' :: x :: y :: _ => (Unicode.hex? [x, y]).map Nat.toUInt8
  | _ => none

/-- How many bytes follow the first one of a character, and the bits that it gives. -/
def leadByte? (b : UInt8) : Option (Nat × Nat) :=
  let n := b.toNat
  if n < 0x80 then some (0, n)
  else if 0xC0 ≤ n && n < 0xE0 then some (1, n - 0xC0)
  else if 0xE0 ≤ n && n < 0xF0 then some (2, n - 0xE0)
  else if 0xF0 ≤ n && n < 0xF8 then some (3, n - 0xF0)
  else none

def moreBytes : Nat → Nat → List Char → Option (Char × List Char)
  | 0, n, s => if n.isValidChar then some (Char.ofNat n, s) else none
  | k + 1, n, s => do
    let b ← tagByte s
    guard (0x80 ≤ b.toNat && b.toNat < 0xC0)
    moreBytes k (n * 64 + (b.toNat - 0x80)) (s.drop 3)

def tagText (brackets : Bool) : Nat → List Char → Nat → List Char → Option (List Char × Nat)
  | 0, read, n, _ => some (read, n)
  | fuel + 1, read, n, s =>
    match s with
    | '%' :: _ => do
      let b ← tagByte s
      let (more, bits) ← leadByte? b
      let (x, rest) ← moreBytes more bits (s.drop 3)
      tagText brackets fuel (x :: read) (n + 3 * (more + 1)) rest
    | x :: rest =>
      if isWord x || isTagMark brackets x then tagText brackets fuel (x :: read) (n + 1) rest
      else some (read, n)
    | [] => some (read, n)

def tagRun (brackets : Bool) (c : Cursor) : Option (List Char × Cursor) := do
  let (read, n) ← tagText brackets (c.rest.length + 1) [] 0 c.rest
  return (read.reverse, c.skip n)

def tagHandle? (s : List Char) : Option (List Char) :=
  match s with
  | '!' :: rest =>
    let word := rest.takeWhile isWord
    match rest.drop word.length with
    | '!' :: _ => some ('!' :: word ++ ['!'])
    | _ => none
  | _ => none

def tagParts (c : Cursor) : Option (String × String × Cursor) :=
  if c.peek 1 == some '<' then do
    let (uri, c) ← tagRun true (c.skip 2)
    guard (!uri.isEmpty && c.is '>')
    return ("", String.ofList uri, c.skip 1)
  else
    match tagHandle? c.rest with
    | some handle => do
      let (suffix, c) ← tagRun false (c.skip handle.length)
      guard !suffix.isEmpty
      return (String.ofList handle, String.ofList suffix, c)
    | none => do
      let (suffix, c) ← tagRun false (c.skip 1)
      return if suffix.isEmpty then ("", "!", c) else ("!", String.ofList suffix, c)

def tag (l : Lexer) : Option Lexer := do
  let l ← l.remember
  let (handle, suffix, c) ← tagParts l.cursor
  guard (isGap c.head? || (l.inFlow && c.is ','))
  return { l.push (.tag handle suffix) with cursor := c, keyAllowed := false }

def block (l : Lexer) (literal : Bool) : Option Lexer := do
  let l ← l.dropCandidate
  let (text, c) ← blockScalar literal l.indents.head? l.cursor
  return { l.push (.scalar (if literal then .literal else .quoted) text) with cursor := c, keyAllowed := true }

def quoted (l : Lexer) (single : Bool) : Option Lexer := do
  let l ← l.remember
  let (text, c) ← quotedScalar single l.cursor
  return { l.push (.scalar .quoted text) with cursor := c, keyAllowed := false }

def plain (l : Lexer) : Option Lexer := do
  let l ← l.remember
  let indent := l.indents.head?.elim 0 (· + 1)
  let (text, broken, c) ← plainScalar l.inFlow indent l.cursor
  return { l.push (.scalar .plain text) with cursor := c, keyAllowed := broken }

def lineEnd (c : Cursor) : Option Cursor :=
  let c := c.skipWhile isBlank
  let c := if c.is '#' then c.skipWhile fun x => !isBreak x else c
  if isLineEnd c.head? then some (if c.rest.isEmpty then c else c.skipBreak) else none

def versionNumber (c : Cursor) : Option (Nat × Cursor) :=
  let digits := c.rest.takeWhile Char.isDigit
  if digits.isEmpty || 9 < digits.length then none
  else some (Text.digitsValue digits, c.skip digits.length)

def directive (l : Lexer) : Option Lexer := do
  let l ← l.startOver
  let c := l.cursor.skip 1
  let name := c.rest.takeWhile isWord
  let c := c.skip name.length
  guard (!name.isEmpty && isGap c.head?)
  match String.ofList name with
  | "YAML" =>
    let (major, c) ← versionNumber (c.skipWhile isBlank)
    guard (c.is '.')
    let (minor, c) ← versionNumber (c.skip 1)
    let c ← lineEnd c
    return { l.push (.version major minor) with cursor := c }
  | "TAG" =>
    let c := c.skipWhile isBlank
    let handle ← match tagHandle? c.rest with
      | some handle => some handle
      | none => if c.is '!' then some ['!'] else none
    let c := c.skip handle.length
    guard (c.head?.any isBlank)
    let (start, c) ← tagRun true (c.skipWhile isBlank)
    guard (!start.isEmpty && isGap c.head?)
    let c ← lineEnd c
    return { l.push (.shorthand (String.ofList handle) (String.ofList start)) with cursor := c }
  | _ => none

def isIndicator (c : Char) : Bool := isBlank c || "-?:,[]\x7b\x7d#&*!|>'\"%@\x60".toList.contains c

def startsPlain (l : Lexer) (x : Char) : Bool :=
  !isIndicator x || (x = '-' && !(l.cursor.peek 1).any isBlank) ||
    (!l.inFlow && (x = '?' || x = ':') && !isGap (l.cursor.peek 1))

/-- Reads the token that begins with `x`, the character at the cursor. -/
def next (l : Lexer) (x : Char) : Option Lexer :=
  let c := l.cursor
  let spaced := isGap (c.peek 1)
  if c.column = 0 && x = '%' then l.directive
  else if c.atMark '-' then l.startOver.map fun l => (l.push .documentStart).skip 3
  else if c.atMark '.' then l.startOver.map fun l => (l.push .documentEnd).skip 3
  else if x = '[' then l.openFlow .flowSequenceStart
  else if x = '\x7b' then l.openFlow .flowMappingStart
  else if x = ']' then l.closeFlow .flowSequenceEnd
  else if x = '\x7d' then l.closeFlow .flowMappingEnd
  else if x = ',' then l.flowEntry
  else if x = '-' && spaced then l.blockEntry
  else if x = '?' && (l.inFlow || spaced) then l.explicitKey
  else if x = ':' && (l.inFlow || spaced) then l.value
  else if x = '*' then l.named .alias
  else if x = '&' then l.named .anchor
  else if x = '!' then l.tag
  else if x = '|' && !l.inFlow then l.block true
  else if x = '>' && !l.inFlow then l.block false
  else if x = '\'' then l.quoted true
  else if x = '"' then l.quoted false
  else if l.startsPlain x then l.plain
  else none

def run : Nat → Lexer → Option (Array Token)
  | 0, _ => none
  | fuel + 1, l => do
    let l ← (skipGaps (l.cursor.rest.length + 1) l).dropStale
    let l := l.unroll (some l.cursor.column)
    match l.cursor.head? with
    | some x => run fuel (← l.next x)
    | none => (← (l.unroll none).dropCandidate).tokens

end Lexer

def tokens? (text : List Char) : Option (List Token) :=
  if text.all isAllowed then (Lexer.run (text.length + 1) (.ofText text)).map Array.toList else none

end ChatRouter.Format.Yaml
