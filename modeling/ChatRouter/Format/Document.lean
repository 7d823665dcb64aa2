import ChatRouter.SortedMap
import ChatRouter.Text.Number
import ChatRouter.Unicode.Runs

set_option autoImplicit false

/-!
# Documents

The tree that a data file writes, in whichever format, and typed readings of it. A reading is `none`
when the tree has another shape.
-/

namespace ChatRouter.Format

inductive ScalarStyle where
  | plain
  | quoted
  /-- A block of lines kept as they are. -/
  | literal
deriving DecidableEq

inductive Document where
  | null
  | boolean (value : Bool)
  | integer (value : Int)
  | text (value : String)
  /-- A scalar whose type is settled by the reading; a tag may name one. -/
  | scalar (style : ScalarStyle) (tag : Option String) (text : String)
  /-- A value that no reading accepts. -/
  | other
  | sequence (items : List Document)
  | mapping (entries : List (Document × Document))

def coreTag (name : String) : String := "tag:yaml.org,2002:" ++ name

/-- What a sequence means in the place of a record. -/
inductive RecordForm where
  /-- Records have names for their fields. -/
  | named
  /-- The first fields, in order. -/
  | positional
  /-- The fields in order, and whatever follows them. -/
  | openEnded
deriving DecidableEq

def RecordForm.place (form : RecordForm) (size : Nat) (items : List Document) :
    Option (List (Option Document)) :=
  let placed := (items.take size).map some ++ List.replicate (size - items.length) none
  match form with
  | named => none
  | positional => if items.length ≤ size then some placed else none
  | openEnded => some placed

namespace Document

def readText : Document → Option String
  | text s | scalar _ _ s => some s
  | _ => none

/-- The text of a scalar that may be read as a value of the type that `tag` names. -/
def untyped? (tag : String) : Document → Option String
  | scalar .plain _ s => some s
  | scalar .literal (some t) s => if t = coreTag tag then some s else none
  | _ => none

def readFlag : Document → Option Bool
  | boolean b => some b
  | d =>
    match d.untyped? "bool" with
    | some "true" | some "True" | some "TRUE" => some true
    | some "false" | some "False" | some "FALSE" => some false
    | _ => none

/-- The number that digits of a base write, after a mark that names the base. -/
def radix? (s : List Char) : Option Nat :=
  let value (base : Nat) (digits : List Char) : Option Nat :=
    if digits.isEmpty then none
    else digits.foldlM (fun n c => do
      let d ← Unicode.hexDigit? c
      if d < base then some (n * base + d) else none) 0
  match s with
  | '0' :: 'x' :: digits => value 16 digits
  | '0' :: 'o' :: digits => value 8 digits
  | '0' :: 'b' :: digits => value 2 digits
  | ['0'] => some 0
  | '0' :: _ => none
  | digits => Text.number? digits

/-- The number of an untyped scalar; a plus sign may stand before it, and no zero. -/
def count? (s : List Char) : Option Nat :=
  match s with
  | '+' :: digits => radix? digits
  | digits => radix? digits

def readCount (d : Document) : Option Nat := do
  let n ← match d with
    | integer n => if 0 ≤ n then some n.toNat else none
    | d => (d.untyped? "int").bind fun s => count? s.toList
  if n < Nat.pow 2 64 then some n else none

def isNullWord (s : String) : Bool := s == "~" || s == "null" || s == "Null" || s == "NULL"

def readOptional {α : Type} (read : Document → Option α) : Document → Option (Option α)
  | null => some none
  | scalar .plain none s =>
    if s.isEmpty || isNullWord s then some none else (read (.scalar .plain none s)).map some
  | scalar .plain (some tag) s =>
    if tag = coreTag "null" then if isNullWord s then some none else none
    else (read (.scalar .plain (some tag) s)).map some
  | d => (read d).map some

def isBlank : Document → Bool
  | scalar .plain _ "" => true
  | _ => false

def readList {α : Type} (read : Document → Option α) : Document → Option (List α)
  | sequence items => items.mapM read
  | d => if d.isBlank then some [] else none

def entries? : Document → Option (List (Document × Document))
  | mapping entries => some entries
  | d => if d.isBlank then some [] else none

/-- A mapping with texts as keys; of values for one key the last counts. -/
def readMap {α : Type} (read : Document → Option α) (d : Document) : Option (SortedMap String α) := do
  let entries ← d.entries?
  let pairs ← entries.mapM fun (key, value) => do
    let key ← key.readText
    let value ← read value
    return (key, value)
  return SortedMap.ofList pairs

/-- Puts the value of each named field in its place; a field may not occur twice. -/
def placeFields (names : List String) :
    List (Document × Document) → List (Option Document) → Option (List (Option Document))
  | [], places => some places
  | (key, value) :: rest, places => do
    let key ← key.readText
    match names.idxOf? key with
    | none => placeFields names rest places
    | some i =>
      if (places[i]?.join).isSome then none
      else placeFields names rest (places.set i (some value))

/-- The values of the named fields in the order of the names, where a format says what a sequence means
in the place of a record. -/
def fields? (form : RecordForm) (names : List String) (d : Document) : Option (List (Option Document)) :=
  match d with
  | sequence items => form.place names.length items
  | d => d.entries?.bind fun entries => placeFields names entries (names.map fun _ => none)

def fieldOr {α : Type} (default : α) (read : Document → Option α) : Option Document → Option α
  | some d => read d
  | none => some default

end Document

end ChatRouter.Format
