import ChatRouter.Format.Yaml.Token

set_option autoImplicit false

namespace ChatRouter.Format.Yaml

/-- What is known while a document is read. -/
structure Reader where
  tokens : List Token
  /-- The anchored nodes, the latest first. A node that is still being read has no tree. -/
  anchors : List (String × Document)
  shorthands : List (String × String)

abbrev Step (α : Type) : Type := StateT Reader Option α

namespace Step

def peek : Step (Option Token) := do return (← get).tokens.head?

def skip : Step Unit := modify fun r => { r with tokens := r.tokens.tail }

def atAny (ts : List Token) : Step Bool := do
  match ← peek with
  | some t => return ts.contains t
  | none => return true

def accept (t : Token) : Step Bool := do
  if (← peek) = some t then
    skip
    return true
  else return false

def fail {α : Type} : Step α := fun _ => none

end Step

open Step

def blankNode : Document := .scalar .plain none ""

def resolveTag (handle suffix : String) : Step String := do
  if handle.isEmpty then return suffix
  match (← get).shorthands.lookup handle with
  | some start => return start ++ suffix
  | none => fail

def anchor? : Step (Option String) := do
  match ← peek with
  | some (.anchor name) =>
    skip
    return some name
  | _ => return none

def tag? : Step (Option String) := do
  match ← peek with
  | some (.tag handle suffix) =>
    skip
    return some (← resolveTag handle suffix)
  | _ => return none

def properties : Step (Option String × Option String) := do
  match ← anchor? with
  | some a => return (some a, ← tag?)
  | none =>
    let t ← tag?
    return (← if t.isSome then anchor? else pure none, t)

def setAnchor (name : Option String) (d : Document) : Step Unit :=
  match name with
  | some n => modify fun r => { r with anchors := (n, d) :: r.anchors }
  | none => pure ()

/-- Where a node may be written as a block, and where a sequence needs no indentation. -/
structure Place where
  block : Bool
  indentless : Bool

mutual

def node : Nat → Place → Step Document
  | 0, _ => fail
  | fuel + 1, place => do
    match ← peek with
    | some (.alias name) =>
      skip
      match (← get).anchors.lookup name with
      | some d => return d
      | none => fail
    | _ =>
      let (name, tag) ← properties
      setAnchor name .other
      let d ← content fuel place (name.isSome || tag.isSome) tag
      setAnchor name d
      return d

def content : Nat → Place → Bool → Option String → Step Document
  | 0, _, _, _ => fail
  | fuel + 1, place, marked, tag => do
    match ← peek with
    | some .blockEntry =>
      if place.indentless then return .sequence (← indentlessEntries fuel [])
      else if marked then return .scalar .plain tag ""
      else fail
    | some (.scalar style text) =>
      skip
      return .scalar style tag text
    | some .flowSequenceStart =>
      skip
      return .sequence (← flowItems fuel true [])
    | some .flowMappingStart =>
      skip
      return .mapping (← flowEntries fuel true [])
    | some .blockSequenceStart =>
      if place.block then
        skip
        return .sequence (← blockItems fuel [])
      else if marked then return .scalar .plain tag ""
      else fail
    | some .blockMappingStart =>
      if place.block then
        skip
        return .mapping (← blockEntries fuel [])
      else if marked then return .scalar .plain tag ""
      else fail
    | _ => if marked then return .scalar .plain tag "" else fail

def nodeUnless : Nat → Place → List Token → Step Document
  | 0, _, _ => fail
  | fuel + 1, place, ends => do
    if ← atAny ends then return blankNode else node fuel place

def blockItems : Nat → List Document → Step (List Document)
  | 0, _ => fail
  | fuel + 1, read => do
    if ← accept .blockEntry then
      let d ← nodeUnless fuel ⟨true, false⟩ [.blockEntry, .blockEnd]
      blockItems fuel (d :: read)
    else if ← accept .blockEnd then return read.reverse
    else fail

def indentlessEntries : Nat → List Document → Step (List Document)
  | 0, _ => fail
  | fuel + 1, read => do
    if ← accept .blockEntry then
      let d ← nodeUnless fuel ⟨true, false⟩ [.blockEntry, .key, .value, .blockEnd]
      indentlessEntries fuel (d :: read)
    else return read.reverse

def blockEntries : Nat → List (Document × Document) → Step (List (Document × Document))
  | 0, _ => fail
  | fuel + 1, read => do
    if ← accept .key then
      let k ← nodeUnless fuel ⟨true, true⟩ [.key, .value, .blockEnd]
      let v ← if ← accept .value then nodeUnless fuel ⟨true, true⟩ [.key, .value, .blockEnd]
        else pure blankNode
      blockEntries fuel ((k, v) :: read)
    else if ← accept .blockEnd then return read.reverse
    else fail

/-- The value of a single pair in a sequence, or of an entry of a flow mapping. -/
def flowValue : Nat → Token → Step Document
  | 0, _ => fail
  | fuel + 1, close => do
    if ← accept .value then nodeUnless fuel ⟨false, false⟩ [.flowEntry, close] else return blankNode

def flowItems : Nat → Bool → List Document → Step (List Document)
  | 0, _, _ => fail
  | fuel + 1, first, read => do
    if ← accept .flowSequenceEnd then return read.reverse
    unless first do
      unless ← accept .flowEntry do fail
    if ← accept .key then
      let k ← node fuel ⟨false, false⟩
      let v ← flowValue fuel .flowSequenceEnd
      flowItems fuel false (.mapping [(k, v)] :: read)
    else if ← accept .flowSequenceEnd then return read.reverse
    else
      let d ← node fuel ⟨false, false⟩
      flowItems fuel false (d :: read)

def flowEntries : Nat → Bool → List (Document × Document) → Step (List (Document × Document))
  | 0, _, _ => fail
  | fuel + 1, first, read => do
    if ← accept .flowMappingEnd then return read.reverse
    unless first do
      unless ← accept .flowEntry do fail
    if ← accept .key then
      let k ← nodeUnless fuel ⟨false, false⟩ [.value, .flowEntry, .flowMappingEnd]
      let v ← flowValue fuel .flowMappingEnd
      flowEntries fuel false ((k, v) :: read)
    else if ← accept .flowMappingEnd then return read.reverse
    else
      let k ← node fuel ⟨false, false⟩
      flowEntries fuel false ((k, blankNode) :: read)

end

/-- The directives before a document, each given once; tells whether there are any. -/
def directives : Nat → Bool → List String → Step Bool
  | 0, _, _ => fail
  | fuel + 1, versioned, handles => do
    match ← peek with
    | some (.version major minor) =>
      if versioned || major ≠ 1 || (minor ≠ 1 && minor ≠ 2) then fail
      skip
      directives fuel true handles
    | some (.shorthand handle start) =>
      if handles.contains handle then fail
      skip
      modify fun r => { r with shorthands := (handle, start) :: r.shorthands }
      directives fuel versioned (handle :: handles)
    | _ => return versioned || !handles.isEmpty

def skipEnds : Nat → Step Unit
  | 0 => pure ()
  | fuel + 1 => do
    if ← accept .documentEnd then skipEnds fuel

def document : Step Document := do
  let fuel := (← get).tokens.length + 1
  if (← peek).isNone then return blankNode
  let directed ← directives fuel false []
  let started ← accept .documentStart
  if directed && !started then fail
  let empty ← atAny [.documentStart, .documentEnd]
  let d ← if started && empty then pure blankNode else node (8 * fuel) ⟨true, false⟩
  skipEnds fuel
  if (← peek).isSome then fail
  return d

def parse (text : String) : Option Document := do
  let s := match text.toList with
    | '\ufeff' :: rest => rest
    | s => s
  let tokens ← tokens? s
  let start : Reader := ⟨tokens, [], [("!", "!"), ("!!", coreTag "")]⟩
  let (d, _) ← document.run start
  return d

end ChatRouter.Format.Yaml
