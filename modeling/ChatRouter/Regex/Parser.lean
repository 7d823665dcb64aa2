import ChatRouter.Regex.Engine
import ChatRouter.Regex.Pattern

set_option autoImplicit false

/-!
# The language of patterns

The pattern language: literals, `.`, bracketed classes with set operations, escapes, groups with
flags, alternation and greedy or lazy repetition. It has no look-around and no back-references. What a
pattern captures is not kept, so groups serve only to nest. Of the properties of characters it knows the
categories, the scripts and the binary ones, and none of ages and of boundaries in a text.
-/

namespace ChatRouter.Regex

structure Flags where
  insensitive : Bool
  multiLine : Bool
  dotAll : Bool
  anyLine : Bool
  unicode : Bool
  verbose : Bool
deriving DecidableEq

def Flags.initial : Flags := ⟨false, false, false, false, true, false⟩

/-- A part of a pattern, with how deep groups, repetitions, alternatives, sequences and bracketed classes are
nested in it. -/
structure Nested (α : Type) where
  value : α
  depth : Nat

namespace Nested

variable {α : Type}

def flat (value : α) : Nested α := ⟨value, 0⟩

/-- Several parts are one level deeper than the deepest of them; a single part is no level of its own. -/
def depthOf : List (Nested α) → Nat
  | [] => 0
  | [part] => part.depth
  | parts => (parts.map depth).foldl max 0 + 1

def sequence (parts : List (Nested Pattern)) : Nested Pattern :=
  ⟨.ofList ((parts.map value).filter (· ≠ .empty)), depthOf parts⟩

def branches (parts : List (Nested Pattern)) : Nested Pattern := ⟨.ofBranches (parts.map value), depthOf parts⟩

def unions (parts : List (Nested CharSet)) : Nested CharSet := ⟨.unions (parts.map value), depthOf parts⟩

end Nested

def afterComment : List Char → List Char
  | [] => []
  | c :: rest => if c = '\n' then rest else afterComment rest

theorem afterComment_length (s : List Char) : (afterComment s).length ≤ s.length := by
  induction s with
  | nil => simp [afterComment]
  | cons c rest ih =>
    simp only [afterComment]
    split
    · simp
    · simp only [List.length_cons]; omega

def skip (verbose : Bool) : List Char → List Char
  | [] => []
  | c :: rest =>
    if !verbose then c :: rest
    else if Text.isBlank c then skip verbose rest
    else if c = '#' then skip verbose (afterComment rest)
    else c :: rest
termination_by s => s.length
decreasing_by
  · simp
  · have := afterComment_length rest
    simp only [List.length_cons]; omega

/-- The character of that number, unless it is a surrogate or too large. -/
def char? (n : Nat) : Option Char := if n.isValidChar then some (Char.ofNat n) else none

/-- What a single item of a pattern or class can be. -/
inductive Primitive where
  | literal (c : Char) (byte : Bool)
  | class (set : CharSet)
  | condition (look : Look)

def isMeta (c : Char) : Bool := "\\.+*?()|[]\x7b\x7d^$#&-~".toList.contains c

def isEscapable (c : Char) : Bool :=
  isMeta c || (c.toNat < 128 && !c.isAlphanum && c != '<' && c != '>')

def readHex (verbose : Bool) : Nat → Nat → List Char → Option (Nat × List Char)
  | 0, value, rest => some (value, rest)
  | n + 1, value, c :: rest => do
    let digit ← Unicode.hexDigit? c
    readHex verbose n (value * 16 + digit) (skip verbose rest)
  | _ + 1, _, [] => none

def readBraced (verbose : Bool) : Nat → List Char → List Char → Option (List Char × List Char)
  | 0, _, _ => none
  | _ + 1, _, [] => none
  | n + 1, seen, c :: rest =>
    if c = '\x7d' then some (seen.reverse, rest)
    else readBraced verbose n (c :: seen) (skip verbose rest)

/-- The escape of a code point after `x`, `u` or `U`, which take 2, 4 or 8 digits or a brace. -/
def readCodePoint (verbose : Bool) (width : Nat) (s : List Char) : Option (Primitive × List Char) :=
  match skip verbose s with
  | [] => none
  | c :: rest =>
    if c = '\x7b' then do
      let (digits, rest) ← readBraced verbose (rest.length + 1) [] (skip verbose rest)
      let value ← Unicode.hex? digits
      let c ← char? value
      some (.literal c false, skip verbose rest)
    else do
      let (value, rest) ← readHex verbose width 0 (c :: rest)
      let c ← char? value
      some (.literal c (width == 2), rest)

def splitAtMark (mark : List Char) : List Char → Option (List Char × List Char)
  | [] => none
  | c :: rest =>
    if mark.isPrefixOf (c :: rest) then some ([], (c :: rest).drop mark.length)
    else (splitAtMark mark rest).map fun (before, after) => (c :: before, after)

def namedProperty (name : List Char) : Option CharSet :=
  let valued (split : List Char × List Char) : Option CharSet :=
    (Unicode.CharProperty.ofNameAndValue? (String.ofList split.1) (String.ofList split.2)).map
      .property
  match splitAtMark ['!', '='] name with
  | some split => (valued split).map .complement
  | none =>
    match splitAtMark [':'] name with
    | some split => valued split
    | none =>
      match splitAtMark ['='] name with
      | some split => valued split
      | none => (Unicode.CharProperty.ofName? (String.ofList name)).map .property

def readProperty (flags : Flags) (negated : Bool) (s : List Char) : Option (Primitive × List Char) := do
  guard flags.unicode
  let finish (set : CharSet) : Primitive :=
    let set := if flags.insensitive then .caseVariants set else set
    .class (if negated then .complement set else set)
  match skip flags.verbose s with
  | [] => none
  | c :: rest =>
    if c = '\x7b' then do
      let (name, rest) ← readBraced flags.verbose (rest.length + 1) [] (skip flags.verbose rest)
      let set ← namedProperty name
      some (finish set, rest)
    else do
      guard (c ≠ '\\')
      let set ← namedProperty [c]
      some (finish set, skip flags.verbose rest)

/-- The classes of digits, blanks and word characters; a capital letter negates. -/
def shorthand? (flags : Flags) (c : Char) : Option CharSet :=
  let base := match c.toLower with
    | 'd' => some (if flags.unicode then CharSet.digits else CharSet.asciiDigits)
    | 's' => some (if flags.unicode then .property .blank else CharSet.asciiSpace)
    | 'w' => some (if flags.unicode then .word else CharSet.asciiWord)
    | _ => none
  base.map fun set => if c.isUpper then .complement set else set

/-- The name of a special word boundary: letters and hyphens before a closing brace. -/
def readBoundaryName (verbose : Bool) : Nat → List Char → List Char → Option (List Char × List Char)
  | 0, _, _ => none
  | _ + 1, _, [] => none
  | n + 1, seen, c :: rest =>
    if c.isAlpha || c == '-' then readBoundaryName verbose n (c :: seen) (skip verbose rest)
    else if c = '\x7d' then some (seen.reverse, rest)
    else none

def boundaryNamed? (name : List Char) : Option BoundaryKind :=
  match String.ofList name with
  | "start" => some .start
  | "end" => some .stop
  | "start-half" => some .startHalf
  | "end-half" => some .stopHalf
  | _ => none

/-- What follows the escape of a word boundary; a brace that holds a number is a repetition. -/
def readBoundary (flags : Flags) (s : List Char) : Option (Primitive × List Char) :=
  let ascii := !flags.unicode
  let plain : Option (Primitive × List Char) := some (.condition (.boundary .both ascii), s)
  match s with
  | '\x7b' :: rest =>
    match skip flags.verbose rest with
    | [] => none
    | c :: rest =>
      if c.isAlpha || c == '-' then do
        let (name, rest) ← readBoundaryName flags.verbose (rest.length + 2) [] (c :: rest)
        let kind ← boundaryNamed? name
        some (.condition (.boundary kind ascii), rest)
      else plain
  | _ => plain

def readEscape (flags : Flags) : List Char → Option (Primitive × List Char)
  | [] => none
  | c :: rest =>
    let ascii := !flags.unicode
    let literal (c : Char) : Option (Primitive × List Char) := some (.literal c false, rest)
    if c.isDigit then none
    else if c = 'x' then readCodePoint flags.verbose 2 rest
    else if c = 'u' then readCodePoint flags.verbose 4 rest
    else if c = 'U' then readCodePoint flags.verbose 8 rest
    else if c = 'p' then readProperty flags false rest
    else if c = 'P' then readProperty flags true rest
    else match shorthand? flags c with
      | some set => if flags.unicode || set.isAscii then some (.class set, rest) else none
      | none =>
        if isEscapable c then literal c
        else match c with
          | 'a' => literal '\x07'
          | 'f' => literal '\x0C'
          | 't' => literal '\t'
          | 'n' => literal '\n'
          | 'r' => literal '\r'
          | 'v' => literal '\x0B'
          | 'A' => some (.condition .textStart, rest)
          | 'z' => some (.condition .textEnd, rest)
          | 'b' => readBoundary flags rest
          | 'B' => some (.condition (.boundary .neither ascii), rest)
          | '<' => some (.condition (.boundary .start ascii), rest)
          | '>' => some (.condition (.boundary .stop ascii), rest)
          | _ => none

/-! ## Bracketed classes -/

inductive SetOperation where
  | intersection
  | difference
  | symmetricDifference

def SetOperation.apply : SetOperation → CharSet → CharSet → CharSet
  | .intersection => .inter
  | .difference => .diff
  | .symmetricDifference => .symmDiff

/-- An operation that waits for its right side. -/
structure Pending where
  operation : SetOperation
  left : Nested CharSet

/-- A class that is still open, with the items before it, last item first. -/
structure OpenClass where
  outer : List (Nested CharSet)
  outerPending : Option Pending
  negated : Bool

/-- The class being read: its current items, last item first, and a pending operation. -/
structure ClassState where
  rest : List Char
  items : List (Nested CharSet)
  pending : Option Pending
  opened : List OpenClass

def asciiClass? (name : String) : Option CharSet :=
  match name with
  | "alnum" => some (.unions [.range '0' '9', .range 'A' 'Z', .range 'a' 'z'])
  | "alpha" => some (.unions [.range 'A' 'Z', .range 'a' 'z'])
  | "ascii" => some (.range '\x00' '\x7f')
  | "blank" => some (.union (.single '\t') (.single ' '))
  | "cntrl" => some (.union (.range '\x00' '\x1f') (.single '\x7f'))
  | "digit" => some (.range '0' '9')
  | "graph" => some (.range '!' '~')
  | "lower" => some (.range 'a' 'z')
  | "print" => some (.range ' ' '~')
  | "punct" => some (.unions [.range '!' '/', .range ':' '@', .range '[' '\x60', .range '\x7b' '~'])
  | "space" => some CharSet.asciiSpace
  | "upper" => some (.range 'A' 'Z')
  | "word" => some CharSet.asciiWord
  | "xdigit" => some (.unions [.range '0' '9', .range 'A' 'F', .range 'a' 'f'])
  | _ => none

/-- A named ASCII class after its opening bracket; anything else is no such class. -/
def readAsciiClass (s : List Char) : Option (CharSet × List Char) := do
  let rest ← Text.afterStart [':'] s
  let (negated, rest) := match rest with
    | '^' :: rest => (true, rest)
    | rest => (false, rest)
  let (name, rest) ← Text.splitFirst ':' rest
  let rest ← Text.afterStart [']'] rest
  let set ← asciiClass? (String.ofList name)
  some (if negated then .complement set else set, rest)

def readHyphens (verbose : Bool) : Nat → List (Nested CharSet) → List Char → List (Nested CharSet) × List Char
  | n + 1, items, '-' :: rest => readHyphens verbose n (.flat (.single '-') :: items) (skip verbose rest)
  | _, items, rest => (items, rest)

/-- After an opening bracket: a negation, hyphens, and a closing bracket that stands for itself. -/
def readClassStart (verbose : Bool) (s : List Char) : Option ((Bool × List (Nested CharSet)) × List Char) :=
  let s := skip verbose s
  let (negated, s) := match s with
    | '^' :: rest => (true, skip verbose rest)
    | s => (false, s)
  let (items, s) := readHyphens verbose s.length [] s
  match s with
  | [] => none
  | ']' :: rest =>
    if !items.isEmpty then some ((negated, items), s)
    else match skip verbose rest with
      | [] => none
      | rest => some ((negated, [.flat (.single ']')]), rest)
  | s => some ((negated, items), s)

def readClassItem (flags : Flags) : List Char → Option (Primitive × List Char)
  | [] => none
  | '\\' :: rest => readEscape flags rest
  | c :: rest => some (.literal c false, rest)

def Primitive.items (flags : Flags) : Primitive → Option CharSet
  | literal c _ => if flags.unicode || c.toNat < 128 then some (.single c) else none
  | .class set => some set
  | condition _ => none

def Primitive.literal? (flags : Flags) : Primitive → Option Char
  | literal c _ => if flags.unicode || c.toNat < 128 then some c else none
  | _ => none

/-- A range or a single item. A hyphen before the closing bracket or another hyphen makes no
range. -/
def readClassRange (flags : Flags) (s : List Char) : Option (CharSet × List Char) := do
  let (first, rest) ← readClassItem flags s
  let rest := skip flags.verbose rest
  match rest with
  | [] => none
  | '-' :: after =>
    let after := skip flags.verbose after
    match after with
    | [] => none
    | c :: _ =>
      if c = ']' || c = '-' then
        let set ← first.items flags
        some (set, rest)
      else
        let (last, rest) ← readClassItem flags after
        let low ← first.literal? flags
        let high ← last.literal? flags
        if low ≤ high then some (.range low high, rest) else none
  | _ =>
    let set ← first.items flags
    some (set, rest)

def settle (pending : Option Pending) (items : List (Nested CharSet)) : Nested CharSet :=
  let right := Nested.unions items.reverse
  match pending with
  | none => right
  | some ⟨operation, left⟩ => ⟨operation.apply left.value right.value, max left.depth right.depth + 1⟩

def closeClass (flags : Flags) (negated : Bool) (inner : Nested CharSet) : Nested CharSet :=
  let set := if !flags.insensitive then inner.value
    else if flags.unicode then .caseVariants inner.value else .asciiCaseVariants inner.value
  ⟨if negated then .complement set else set, inner.depth + 1⟩

def readClass (flags : Flags) : Nat → ClassState → Option (Nested CharSet × List Char)
  | 0, _ => none
  | n + 1, state =>
    let operate (operation : SetOperation) (rest : List Char) :=
      readClass flags n
        { state with rest, items := [], pending := some ⟨operation, settle state.pending state.items⟩ }
    match skip flags.verbose state.rest with
    | [] => none
    | '[' :: rest =>
      match readAsciiClass rest with
      | some (set, rest) => readClass flags n { state with rest, items := .flat set :: state.items }
      | none => do
        let ((negated, items), rest) ← readClassStart flags.verbose rest
        readClass flags n
          ⟨rest, items, none, ⟨state.items, state.pending, negated⟩ :: state.opened⟩
    | ']' :: rest =>
      match state.opened with
      | [] => none
      | inner :: opened =>
        let set := closeClass flags inner.negated (settle state.pending state.items)
        if opened.isEmpty then some (set, rest)
        else readClass flags n ⟨rest, set :: inner.outer, inner.outerPending, opened⟩
    | '&' :: '&' :: rest => operate .intersection rest
    | '-' :: '-' :: rest => operate .difference rest
    | '~' :: '~' :: rest => operate .symmetricDifference rest
    | s => do
      let (set, rest) ← readClassRange flags s
      readClass flags n { state with rest, items := .flat set :: state.items }

def readBracketed (flags : Flags) (s : List Char) : Option (Nested CharSet × List Char) := do
  let ((negated, items), rest) ← readClassStart flags.verbose s
  let (set, rest) ← readClass flags (2 * s.length + 2) ⟨rest, items, none, [⟨[], none, negated⟩]⟩
  if flags.unicode || set.value.isAscii then some (set, rest) else none

/-! ## Groups and flags -/

/-- Flags as they are written: each at most once, one negation, which is not last. -/
def readFlags : Nat → List Char → Option Bool → Flags → List Char → Option ((Flags × Bool) × List Char)
  | 0, _, _, _, _ => none
  | _ + 1, _, _, _, [] => none
  | n + 1, seen, negation, flags, c :: rest =>
    let on := negation.isNone
    if c = ':' || c = ')' then
      if negation = some true then none
      else some ((flags, seen.isEmpty && negation.isNone), c :: rest)
    else if c = '-' then
      if negation.isSome then none else readFlags n seen (some true) flags rest
    else if seen.contains c then none
    else
      let negation := negation.map fun _ => false
      match c with
      | 'i' => readFlags n (c :: seen) negation { flags with insensitive := on } rest
      | 'm' => readFlags n (c :: seen) negation { flags with multiLine := on } rest
      | 's' => readFlags n (c :: seen) negation { flags with dotAll := on } rest
      | 'U' => readFlags n (c :: seen) negation flags rest
      | 'u' => readFlags n (c :: seen) negation { flags with unicode := on } rest
      | 'R' => readFlags n (c :: seen) negation { flags with anyLine := on } rest
      | 'x' => readFlags n (c :: seen) negation { flags with verbose := on } rest
      | _ => none

def isNameChar (first : Bool) (c : Char) : Bool :=
  c == '_' || Unicode.isAlphabetic c ||
    (!first && (c == '.' || c == '[' || c == ']' ||
      (match Unicode.Category.ofChar c with
        | .nd | .nl | .no => true
        | _ => false)))

def readGroupName (s : List Char) : Option (List Char × List Char) := do
  let (name, rest) ← Text.splitFirst '>' s
  match name with
  | [] => none
  | c :: others =>
    if isNameChar true c && others.all (isNameChar false) then some (name, rest) else none

/-- A group that is still open: what stands before it, and the flags to return to. -/
structure Frame where
  items : List (Option (Nested Pattern))
  branches : List (Nested Pattern)
  flags : Flags

/-- The sequence being read, last item first; an item without pattern is a change of flags. -/
structure State where
  rest : List Char
  items : List (Option (Nested Pattern))
  branches : List (Nested Pattern)
  flags : Flags
  frames : List Frame
  names : List (List Char)

namespace State

def push (st : State) (p : Nested Pattern) (rest : List Char) : State :=
  { st with rest, items := some p :: st.items }

/-- The items since the last bar; a change of flags matches nothing of the text. -/
def branch (st : State) : Nested Pattern :=
  .sequence (st.items.reverse.map fun item => item.getD (.flat .empty))

def pattern (st : State) : Nested Pattern := .branches (st.branch :: st.branches).reverse

def enter (st : State) (flags : Flags) (rest : List Char) : State :=
  { st with rest, flags, items := [], branches := [],
            frames := ⟨st.items, st.branches, st.flags⟩ :: st.frames }

def enterNamed (st : State) (s : List Char) : Option State := do
  let (name, rest) ← readGroupName s
  guard (!st.names.contains name)
  some ({ st with names := name :: st.names }.enter st.flags rest)

def openGroup (st : State) (s : List Char) : Option State :=
  let s := skip st.flags.verbose s
  match s with
  | '?' :: '=' :: _ | '?' :: '!' :: _ | '?' :: '<' :: '=' :: _ | '?' :: '<' :: '!' :: _ => none
  | '?' :: 'P' :: '<' :: rest => st.enterNamed rest
  | '?' :: '<' :: rest => st.enterNamed rest
  | '?' :: rest => do
    let ((flags, unchanged), rest) ← readFlags (rest.length + 1) [] none st.flags rest
    match rest with
    | ')' :: rest => if unchanged then none else some { st with rest, flags, items := none :: st.items }
    | _ :: rest => some (st.enter flags rest)
    | [] => none
  | s => some (st.enter st.flags s)

def closeGroup (st : State) (rest : List Char) : Option State :=
  match st.frames with
  | [] => none
  | frame :: frames =>
    let ⟨p, depth⟩ := st.pattern
    some { st with rest, frames, flags := frame.flags, branches := frame.branches,
                   items := some ⟨p, depth + 1⟩ :: frame.items }

def repeatLast (st : State) (least : Nat) (most : Option Nat) (rest : List Char) : Option State :=
  match st.items with
  | some ⟨p, depth⟩ :: items => some { st with rest, items := some ⟨.loop p least most, depth + 1⟩ :: items }
  | _ => none

/-- A question mark after a repetition makes it lazy, which changes no match. -/
def afterLazy : List Char → List Char
  | '?' :: rest => rest
  | rest => rest

def readNumber (verbose : Bool) (s : List Char) : Option (Option Nat × List Char) :=
  let s := skip verbose (Text.trimLeft s)
  let rec digits : Nat → Option Nat → List Char → Option Nat × List Char
    | n + 1, value, c :: rest =>
      if c.isDigit then
        digits n (some (value.getD 0 * 10 + (c.toNat - '0'.toNat))) (skip verbose rest)
      else (value, c :: rest)
    | _, value, rest => (value, rest)
  let (value, rest) := digits s.length none s
  match value with
  | some n => if n < Nat.pow 2 32 then some (some n, Text.trimLeft rest) else none
  | none => some (none, Text.trimLeft rest)

def repeatCounted (st : State) (s : List Char) : Option State := do
  let verbose := st.flags.verbose
  let (least, rest) ← readNumber verbose (skip verbose s)
  let least ← least
  let (most, rest) ← match rest with
    | ',' :: rest =>
      match skip verbose rest with
      | '\x7d' :: rest => some (none, '\x7d' :: rest)
      | rest => do
        let (most, rest) ← readNumber verbose rest
        let most ← most
        some (some most, rest)
    | rest => some (some least, rest)
  match rest with
  | '\x7d' :: rest =>
    if most.all (least ≤ ·) then st.repeatLast least most (afterLazy (skip verbose rest)) else none
  | _ => none

def pushPrimitive (st : State) (p : Primitive) (rest : List Char) : Option State :=
  let flags := st.flags
  match p with
  | .literal c byte =>
    if byte && !flags.unicode && 128 ≤ c.toNat then none
    else
      let set := CharSet.single c
      let set := if !flags.insensitive then set
        else if flags.unicode then .caseVariants set else .asciiCaseVariants set
      some (st.push (.flat (.set set)) rest)
  | .class set => some (st.push (.flat (.set set)) rest)
  | .condition look => some (st.push (.flat (.look look)) rest)

def dot (flags : Flags) : CharSet :=
  if flags.dotAll then .complement .nothing
  else if flags.anyLine then .complement (.union (.single '\n') (.single '\r'))
  else .complement (.single '\n')

def lineStart (flags : Flags) : Look :=
  if !flags.multiLine then .textStart else if flags.anyLine then .anyLineStart else .lineStart

def lineEnd (flags : Flags) : Look :=
  if !flags.multiLine then .textEnd else if flags.anyLine then .anyLineEnd else .lineEnd

def step (st : State) (c : Char) (rest : List Char) : Option State :=
  if c = '(' then st.openGroup rest
  else if c = ')' then st.closeGroup rest
  else if c = '|' then some { st with rest, items := [], branches := st.branch :: st.branches }
  else if c = '[' then do
    let (⟨set, depth⟩, rest) ← readBracketed st.flags rest
    some (st.push ⟨.set set, depth⟩ rest)
  else if c = '?' then st.repeatLast 0 (some 1) (afterLazy rest)
  else if c = '*' then st.repeatLast 0 none (afterLazy rest)
  else if c = '+' then st.repeatLast 1 none (afterLazy rest)
  else if c = '\x7b' then st.repeatCounted rest
  else if c = '\\' then do
    let (p, rest) ← readEscape st.flags rest
    st.pushPrimitive p rest
  else if c = '.' then
    if st.flags.unicode then some (st.push (.flat (.set (dot st.flags))) rest) else none
  else if c = '^' then some (st.push (.flat (.look (lineStart st.flags))) rest)
  else if c = '$' then some (st.push (.flat (.look (lineEnd st.flags))) rest)
  else st.pushPrimitive (.literal c false) rest

/-- The fuel counts items, of which there are no more than characters. -/
def run : Nat → State → Option State
  | 0, _ => none
  | n + 1, st =>
    match skip st.flags.verbose st.rest with
    | [] => some st
    | c :: rest => do
      let st ← st.step c rest
      run n st

end State

/-- How deep the parts of a pattern may be nested. -/
def nestLimit : Nat := 250

/-- The pattern that `text` writes, unless it is malformed, nested too deep or too large. -/
def Pattern.ofList? (text : List Char) : Option Pattern := do
  let st ← State.run (text.length + 1) ⟨text, [], [], .initial, [], []⟩
  guard st.frames.isEmpty
  let ⟨p, depth⟩ := st.pattern
  guard (depth ≤ nestLimit && p.cost ≤ costLimit)
  some p

def Pattern.ofText? (text : String) : Option Pattern := ofList? text.toList

/-- The engine that the program runs with. -/
def Engine.standard : Engine where
  compiles pattern := (Pattern.ofText? pattern).isSome
  isMatch pattern text := (Pattern.ofText? pattern).any (·.isMatch text.toList)

end ChatRouter.Regex
