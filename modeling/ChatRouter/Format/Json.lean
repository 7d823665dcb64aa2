import ChatRouter.Format.Document

set_option autoImplicit false

namespace ChatRouter.Format.Json

def isBlank (c : Char) : Bool := c = ' ' || c = '\n' || c = '\t' || c = '\r'

def skipBlank (s : List Char) : List Char := s.dropWhile isBlank

def digits (s : List Char) : List Char × List Char := s.span Char.isDigit

def integral (s : List Char) : Option (List Char × List Char) :=
  match digits s with
  | ([], _) => none
  | ('0' :: _ :: _, _) => none
  | split => some split

def afterFraction (s : List Char) : Option (Bool × List Char) :=
  match s with
  | '.' :: rest =>
    match digits rest with
    | ([], _) => none
    | (_, rest) => some (true, rest)
  | rest => some (false, rest)

def afterExponent (s : List Char) : Option (Bool × List Char) :=
  match s with
  | 'e' :: rest | 'E' :: rest =>
    let unsigned := match rest with
      | '+' :: r | '-' :: r => r
      | r => r
    match digits unsigned with
    | ([], _) => none
    | (_, rest) => some (true, rest)
  | rest => some (false, rest)

def number (s : List Char) : Option (Document × List Char) := do
  let (negative, unsigned) := match s with
    | '-' :: rest => (true, rest)
    | rest => (false, rest)
  let (whole, rest) ← integral unsigned
  let (fractional, rest) ← afterFraction rest
  let (scaled, rest) ← afterExponent rest
  let n := Text.digitsValue whole
  if fractional || scaled then return (.other, rest)
  else if negative then
    return (if n = 0 ∨ Nat.pow 2 63 < n then .other else .integer (-(n : Int)), rest)
  else return (if n < Nat.pow 2 64 then .integer n else .other, rest)

def unit (s : List Char) : Option (Nat × List Char) :=
  if s.length < 4 then none else (Unicode.hex? (s.take 4)).map fun n => (n, s.drop 4)

/-- The character after a backslash and the letter u; half a surrogate pair gives none. -/
def codePoint (s : List Char) : Option (Option Char × List Char) := do
  let (high, rest) ← unit s
  if 0xD800 ≤ high && high < 0xDC00 then
    match rest with
    | '\\' :: 'u' :: more =>
      let (low, rest') ← unit more
      if 0xDC00 ≤ low && low < 0xE000 then
        return (some (Char.ofNat (0x10000 + (high - 0xD800) * 0x400 + (low - 0xDC00))), rest')
      else return (none, rest')
    | rest => return (none, rest)
  else if 0xDC00 ≤ high && high < 0xE000 then return (none, rest)
  else return (some (Char.ofNat high), rest)

def simpleEscape? (c : Char) : Option Char :=
  match c with
  | '"' => some '"'
  | '\\' => some '\\'
  | '/' => some '/'
  | 'b' => some '\x08'
  | 'f' => some '\x0c'
  | 'n' => some '\n'
  | 'r' => some '\r'
  | 't' => some '\t'
  | _ => none

/-- The rest of a string after its opening quote; `read` holds its characters, last first, as long as
they are characters. -/
def string : Nat → Option (List Char) → List Char → Option (Document × List Char)
  | 0, _, _ => none
  | _ + 1, _, [] => none
  | _ + 1, read, '"' :: rest =>
    some (match read with
      | some cs => .text (String.ofList cs.reverse)
      | none => .other, rest)
  | fuel + 1, read, '\\' :: 'u' :: rest => do
    let (c, rest) ← codePoint rest
    string fuel (read.bind fun cs => c.map (· :: cs)) rest
  | fuel + 1, read, '\\' :: c :: rest => do
    let c ← simpleEscape? c
    string fuel (read.map (c :: ·)) rest
  | fuel + 1, read, c :: rest =>
    if c = '\\' || c.toNat < 0x20 then none else string fuel (read.map (c :: ·)) rest

def word (w : String) (value : Document) (s : List Char) : Option (Document × List Char) :=
  if w.toList.isPrefixOf s then some (value, s.drop w.length) else none

mutual

/-- A value and what follows it. The fuel exceeds the number of characters. -/
def value : Nat → List Char → Option (Document × List Char)
  | 0, _ => none
  | fuel + 1, s =>
    match s with
    | '\x7b' :: rest =>
      match skipBlank rest with
      | '\x7d' :: rest => some (.mapping [], rest)
      | rest => (members fuel [] rest).map fun (entries, rest) => (.mapping entries, rest)
    | '[' :: rest =>
      match skipBlank rest with
      | ']' :: rest => some (.sequence [], rest)
      | rest => (elements fuel [] rest).map fun (items, rest) => (.sequence items, rest)
    | '"' :: rest => string (rest.length + 1) (some []) rest
    | 't' :: _ => word "true" (.boolean true) s
    | 'f' :: _ => word "false" (.boolean false) s
    | 'n' :: _ => word "null" .null s
    | s => number s

/-- The elements of an array, the first of which begins here; `read` holds those before, last first. -/
def elements : Nat → List Document → List Char → Option (List Document × List Char)
  | 0, _, _ => none
  | fuel + 1, read, s => do
    let (item, rest) ← value fuel s
    match skipBlank rest with
    | ',' :: rest => elements fuel (item :: read) (skipBlank rest)
    | ']' :: rest => some ((item :: read).reverse, rest)
    | _ => none

def members : Nat → List (Document × Document) → List Char →
    Option (List (Document × Document) × List Char)
  | 0, _, _ => none
  | fuel + 1, read, s =>
    match s with
    | '"' :: rest => do
      let (key, rest) ← string (rest.length + 1) (some []) rest
      match skipBlank rest with
      | ':' :: rest =>
        let (item, rest) ← value fuel (skipBlank rest)
        match skipBlank rest with
        | ',' :: rest => members fuel ((key, item) :: read) (skipBlank rest)
        | '\x7d' :: rest => some (((key, item) :: read).reverse, rest)
        | _ => none
      | _ => none
    | _ => none

end

def parse (text : String) : Option Document := do
  let s := skipBlank text.toList
  let (d, rest) ← value (s.length + 1) s
  if (skipBlank rest).isEmpty then some d else none

end ChatRouter.Format.Json
