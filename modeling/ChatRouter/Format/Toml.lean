import ChatRouter.Format.Document
import ChatRouter.Text.Blank

set_option autoImplicit false

/-!
# TOML

Texts of TOML as documents. Tables are built by headers and by dotted keys, and each may be defined in
one of these ways only, so a table remembers how it came to be. Numbers with a fraction and dates are
values that no reading accepts.
-/

namespace ChatRouter.Format.Toml

inductive Origin where
  /-- By a header of its own, or as the root. -/
  | header
  /-- By the header of a table in it. -/
  | implied
  /-- By a dotted key. -/
  | dotted
deriving DecidableEq

inductive Item where
  | value (d : Document)
  | table (origin : Origin) (entries : List (String × Item))
  /-- The tables of an array, the last of which is open. -/
  | tables (elements : List (List (String × Item)))

abbrev Entries : Type := List (String × Item)

namespace Item

mutual

def toDocument : Item → Document
  | value d => d
  | table _ entries => .mapping (fields entries)
  | tables elements => .sequence (rows elements)

def fields : List (String × Item) → List (Document × Document)
  | [] => []
  | (key, item) :: rest => (.text key, item.toDocument) :: fields rest

def rows : List (List (String × Item)) → List Document
  | [] => []
  | entries :: rest => .mapping (fields entries) :: rows rest

end

end Item

namespace Entries

def put (entries : Entries) (key : String) (item : Item) : Entries :=
  if entries.any (·.1 == key) then entries.map fun e => if e.1 == key then (key, item) else e
  else entries ++ [(key, item)]

/-- Changes the table at a path, making the tables on the way as `made` where they are missing. A dotted
key may not enter a table that has a header. -/
def at? (made : Origin) (change : Origin → Entries → Option Entries) :
    List String → Origin → Entries → Option Entries
  | [], origin, entries => change origin entries
  | key :: path, _, entries =>
    match entries.lookup key with
    | none => (at? made change path made []).map fun es => put entries key (.table made es)
    | some (.value _) => none
    | some (.table origin es) =>
      if made = .dotted && origin = .header then none
      else (at? made change path origin es).map fun es => put entries key (.table origin es)
    | some (.tables elements) =>
      match elements.getLast? with
      | none => none
      | some es => (at? made change path .header es).map fun es =>
          put entries key (.tables (elements.dropLast ++ [es]))

/-- Defines a key; all but its last part lead to a table that dotted keys have made. -/
def define (path : List String) (item : Item) (entries : Entries) : Option Entries :=
  match path.getLast? with
  | none => none
  | some key =>
    let inner := path.dropLast
    at? .dotted (fun origin es =>
      if (origin = .dotted) = inner.isEmpty || es.any (·.1 == key) then none
      else some (es ++ [(key, item)])) inner .header entries

def openTable (path : List String) (entries : Entries) : Option Entries :=
  match path.getLast? with
  | none => none
  | some key =>
    at? .implied (fun _ es =>
      match es.lookup key with
      | none => some (es ++ [(key, .table .header [])])
      | some (.table .implied inner) => some (put es key (.table .header inner))
      | some _ => none) path.dropLast .header entries

def openElement (path : List String) (entries : Entries) : Option Entries :=
  match path.getLast? with
  | none => none
  | some key =>
    at? .implied (fun _ es =>
      match es.lookup key with
      | none => some (es ++ [(key, .tables [[]])])
      | some (.tables elements) => some (put es key (.tables (elements ++ [[]])))
      | some _ => none) path.dropLast .header entries

end Entries

def isBlank (c : Char) : Bool := c = ' ' || c = '\t'

def skipBlank (s : List Char) : List Char := s.dropWhile isBlank

def isPrintable (c : Char) : Bool := c = '\t' || (0x20 ≤ c.toNat && c.toNat ≠ 0x7F)

def newline? (s : List Char) : Option (List Char) :=
  match s with
  | '\n' :: rest | '\r' :: '\n' :: rest => some rest
  | _ => none

def skipComment (s : List Char) : List Char :=
  match s with
  | '#' :: rest => rest.dropWhile isPrintable
  | s => s

def lineEnd (s : List Char) : Option (List Char) :=
  match skipComment (skipBlank s) with
  | [] => some []
  | s => newline? s

def skipGaps : Nat → List Char → List Char
  | 0, s => s
  | fuel + 1, s =>
    let s := skipComment (skipBlank s)
    match newline? s with
    | some rest => skipGaps fuel rest
    | none => s

def simpleEscape? (c : Char) : Option Char :=
  match c with
  | 'b' => some '\x08'
  | 't' => some '\t'
  | 'n' => some '\n'
  | 'f' => some '\x0c'
  | 'r' => some '\r'
  | '"' => some '"'
  | '\\' => some '\\'
  | _ => none

def escape (s : List Char) : Option (Char × List Char) :=
  match s with
  | [] => none
  | c :: rest =>
    match simpleEscape? c with
    | some x => some (x, rest)
    | none => do
      let width ← if c = 'u' then some 4 else if c = 'U' then some 8 else none
      guard (width ≤ rest.length)
      let n ← Unicode.hex? (rest.take width)
      guard n.isValidChar
      return (Char.ofNat n, rest.drop width)

/-- The rest of a string on one line after its opening quote; `read` holds its characters, last first. -/
def basicString : Nat → List Char → List Char → Option (String × List Char)
  | 0, _, _ => none
  | fuel + 1, read, s =>
    match s with
    | '"' :: rest => some (String.ofList read.reverse, rest)
    | '\\' :: rest => do
      let (c, rest) ← escape rest
      basicString fuel (c :: read) rest
    | c :: rest => if isPrintable c then basicString fuel (c :: read) rest else none
    | [] => none

def literalString (s : List Char) : Option (String × List Char) :=
  match s.span fun c => isPrintable c && c ≠ '\'' with
  | (read, '\'' :: rest) => some (String.ofList read, rest)
  | _ => none

/-- Up to two quotes may stand before the three that close a string of many lines. -/
def closing? (quote : Char) (s : List Char) : Option (List Char × List Char) :=
  let run := (s.takeWhile (· = quote)).length
  if run < 3 then none
  else
    let extra := min (run - 3) 2
    some (List.replicate extra quote, s.drop (extra + 3))

/-- What follows a backslash at the end of a line, without the blanks and line breaks there. -/
def afterContinuation? (s : List Char) : Option (List Char) :=
  (newline? (skipBlank s)).map fun rest => rest.dropWhile fun c => isBlank c || c = '\n' || c = '\r'

/-- The rest of a string of many lines; escapes are read when it is `basic`. -/
def longString (basic : Bool) : Nat → List Char → List Char → Option (String × List Char)
  | 0, _, _ => none
  | fuel + 1, read, s =>
    let quote := if basic then '"' else '\''
    match closing? quote s with
    | some (extra, rest) => some (String.ofList (read.reverse ++ extra), rest)
    | none =>
      match newline? s with
      | some rest => longString basic fuel ('\n' :: read) rest
      | none =>
        match s with
        | [] => none
        | c :: rest =>
          if basic && c = '\\' then
            match afterContinuation? rest with
            | some rest => longString basic fuel read rest
            | none => do
              let (x, rest) ← escape rest
              longString basic fuel (x :: read) rest
          else if isPrintable c then longString basic fuel (c :: read) rest
          else none

def afterOpening (s : List Char) : List Char := (newline? s).getD s

def string? (s : List Char) : Option (String × List Char) :=
  match s with
  | '"' :: '"' :: '"' :: rest => longString true (rest.length + 1) [] (afterOpening rest)
  | '\'' :: '\'' :: '\'' :: rest => longString false (rest.length + 1) [] (afterOpening rest)
  | '"' :: rest => basicString (rest.length + 1) [] rest
  | '\'' :: rest => literalString rest
  | _ => none

def isBare (c : Char) : Bool := c.isAlphanum || c = '-' || c = '_'

def simpleKey (s : List Char) : Option (String × List Char) :=
  match s with
  | '"' :: rest => basicString (rest.length + 1) [] rest
  | '\'' :: rest => literalString rest
  | s =>
    match s.span isBare with
    | ([], _) => none
    | (key, rest) => some (String.ofList key, rest)

def dottedKey : Nat → List Char → Option (List String × List Char)
  | 0, _ => none
  | fuel + 1, s => do
    let (key, rest) ← simpleKey (skipBlank s)
    match skipBlank rest with
    | '.' :: rest =>
      let (more, rest) ← dottedKey fuel rest
      return (key :: more, rest)
    | rest => return ([key], rest)

def digitRun (isDigit : Char → Bool) (s : List Char) : Option (List Char × List Char) :=
  let run := s.takeWhile fun c => isDigit c || c = '_'
  let pieces := Text.pieces '_' run
  if pieces.any List.isEmpty then none else some (pieces.flatten, s.drop run.length)

def signed (s : List Char) : Bool × Bool × List Char :=
  match s with
  | '+' :: rest => (true, false, rest)
  | '-' :: rest => (true, true, rest)
  | s => (false, false, s)

def integral (s : List Char) : Option (List Char × List Char) :=
  match s with
  | '0' :: rest => some (['0'], rest)
  | s => digitRun Char.isDigit s

def fraction? (s : List Char) : Option (List Char × List Char) :=
  match s with
  | '.' :: rest => digitRun Char.isDigit rest
  | _ => none

def exponent? (s : List Char) : Option (Int × List Char) :=
  match s with
  | 'e' :: rest | 'E' :: rest => do
    let (_, negative, rest) := signed rest
    let (digits, rest) ← digitRun Char.isDigit rest
    let n : Int := Text.digitsValue digits
    return (if negative then -n else n, rest)
  | _ => none

/-- Whether `n * 10 ^ e` rounds to no finite number of 64 bits. -/
def isTooLarge (n : Nat) (e : Int) : Bool :=
  let magnitude := (Nat.toDigits 10 n).length + e
  if n = 0 || magnitude < 309 then false
  else if magnitude > 309 then true
  else Nat.pow 2 1024 - Nat.pow 2 970 ≤ n * Nat.pow 10 e.toNat / Nat.pow 10 (-e).toNat

/-- What follows a number that is no integer. A positive one that is too large is none. -/
def float? (s : List Char) : Option (List Char) := do
  let (_, negative, s) := signed s
  if "inf".toList.isPrefixOf s || "nan".toList.isPrefixOf s then return s.drop 3
  let (whole, rest) ← integral s
  let (part, power, rest) ← match fraction? rest with
    | some (part, rest) =>
      let (power, rest) := (exponent? rest).getD (0, rest)
      some (part, power, rest)
    | none => (exponent? rest).map fun (power, rest) => ([], power, rest)
  guard (negative || !isTooLarge (Text.digitsValue (whole ++ part)) (power - part.length))
  return rest

def inRange (n : Int) : Option Document :=
  if -Int.pow 2 63 ≤ n ∧ n < Int.pow 2 63 then some (.integer n) else none

def radix (base : Nat) (s : List Char) : Option (Document × List Char) := do
  let isDigit (c : Char) : Bool := (Unicode.hexDigit? c).any (· < base)
  let (digits, rest) ← digitRun isDigit s
  let n := digits.foldl (fun n c => n * base + (Unicode.hexDigit? c).getD 0) 0
  return (← inRange n, rest)

def integer? (s : List Char) : Option (Document × List Char) :=
  match s with
  | '0' :: 'x' :: rest => radix 16 rest
  | '0' :: 'o' :: rest => radix 8 rest
  | '0' :: 'b' :: rest => radix 2 rest
  | s => do
    let (_, negative, rest) := signed s
    let (digits, rest) ← integral rest
    let n : Int := Text.digitsValue digits
    return (← inRange (if negative then -n else n), rest)

def fixed (width least most : Nat) (s : List Char) : Option (Nat × List Char) := do
  let digits := s.take width
  guard (digits.length = width)
  let n ← Text.number? digits
  guard (least ≤ n ∧ n ≤ most)
  return (n, s.drop width)

def mark (c : Char) (s : List Char) : Option (List Char) :=
  match s with
  | x :: rest => if x = c then some rest else none
  | [] => none

def daysIn (year month : Nat) : Nat :=
  if month = 2 then (if year % 4 = 0 ∧ (year % 100 ≠ 0 ∨ year % 400 = 0) then 29 else 28)
  else if month ∈ [4, 6, 9, 11] then 30 else 31

def date? (s : List Char) : Option (List Char × List Char) := do
  let (year, rest) ← fixed 4 0 9999 s
  let rest ← mark '-' rest
  let (month, rest) ← fixed 2 1 12 rest
  let rest ← mark '-' rest
  let (_, rest) ← fixed 2 1 (daysIn year month) rest
  return (s.take 10, rest)

/-- The canonical digits of a part of a second: at most nine, and no zero at the end. -/
def secondPart (digits : List Char) : List Char :=
  match ((digits.take 9).reverse.dropWhile (· = '0')).reverse with
  | [] => []
  | kept => '.' :: kept

def time? (s : List Char) : Option (List Char × List Char) := do
  let (_, rest) ← fixed 2 0 23 s
  let rest ← mark ':' rest
  let (_, rest) ← fixed 2 0 59 rest
  let rest ← mark ':' rest
  let (_, rest) ← fixed 2 0 60 rest
  match rest with
  | '.' :: more =>
    match more.span Char.isDigit with
    | ([], _) => return (s.take 8, rest)
    | (digits, more) => return (s.take 8 ++ secondPart digits, more)
  | _ => return (s.take 8, rest)

/-- The canonical text of a distance from the standard time and what follows it. No distance has no
sign of its own. -/
def offset? (s : List Char) : Option (List Char × List Char) := do
  match s with
  | 'Z' :: rest | 'z' :: rest => return (['Z'], rest)
  | '+' :: rest | '-' :: rest =>
    let (hours, rest) ← fixed 2 0 23 rest
    let rest ← mark ':' rest
    let (minutes, rest) ← fixed 2 0 59 rest
    return (if hours = 0 ∧ minutes = 0 then "+00:00".toList else s.take 6, rest)
  | _ => none

/-- The canonical text of a date, a time or both and what follows it. -/
def moment? (s : List Char) : Option (List Char × List Char) :=
  match date? s with
  | none => time? s
  | some (date, rest) =>
    match rest with
    | c :: more =>
      if c = 'T' || c = 't' || c = ' ' then
        match time? more with
        | some (time, rest) =>
          let (offset, rest) := (offset? rest).getD ([], rest)
          some (date ++ 'T' :: time ++ offset, rest)
        | none => some (date, rest)
      else some (date, rest)
    | [] => some (date, rest)

def ofMoment (text : List Char) : Document :=
  .mapping [(.text "$__toml_private_datetime", .text (String.ofList text))]

def isNumberStart (c : Char) : Bool := c.isDigit || c = '+' || c = '-' || c = 'i' || c = 'n'

def number (s : List Char) : Option (Document × List Char) :=
  match moment? s with
  | some (text, rest) => some (ofMoment text, rest)
  | none =>
    match float? s with
    | some rest => some (.other, rest)
    | none => integer? s

def word (w : String) (d : Document) (s : List Char) : Option (Document × List Char) :=
  if w.toList.isPrefixOf s then some (d, s.drop w.length) else none

mutual

/-- A value and what follows it. The fuel exceeds the number of characters. -/
def value : Nat → List Char → Option (Document × List Char)
  | 0, _ => none
  | fuel + 1, s =>
    match s with
    | '[' :: rest => (elements fuel [] rest).map fun (items, rest) => (.sequence items, rest)
    | '\x7b' :: rest =>
      match skipBlank rest with
      | '\x7d' :: rest => some (.mapping [], rest)
      | rest => (pairs fuel [] rest).map fun (entries, rest) => ((Item.table .header entries).toDocument, rest)
    | 't' :: _ => word "true" (.boolean true) s
    | 'f' :: _ => word "false" (.boolean false) s
    | c :: _ =>
      if c = '"' || c = '\'' then (string? s).map fun (text, rest) => (.text text, rest)
      else if isNumberStart c then number s
      else none
    | [] => none

/-- The elements of an array; line breaks may stand between them and a comma at the end. -/
def elements : Nat → List Document → List Char → Option (List Document × List Char)
  | 0, _, _ => none
  | fuel + 1, read, s =>
    match skipGaps (s.length + 1) s with
    | ']' :: rest => some (read.reverse, rest)
    | s => do
      let (item, rest) ← value fuel s
      match skipGaps (rest.length + 1) rest with
      | ',' :: rest => elements fuel (item :: read) rest
      | ']' :: rest => some ((item :: read).reverse, rest)
      | _ => none

def pairs : Nat → Entries → List Char → Option (Entries × List Char)
  | 0, _, _ => none
  | fuel + 1, entries, s => do
    let (path, rest) ← dottedKey (s.length + 1) s
    let rest ← mark '=' rest
    let (item, rest) ← value fuel (skipBlank rest)
    let entries ← entries.define path (.value item)
    match skipBlank rest with
    | ',' :: rest => pairs fuel entries rest
    | '\x7d' :: rest => some (entries, rest)
    | _ => none

end

def header (close : List Char) (s : List Char) : Option (List String × List Char) := do
  let (path, rest) ← dottedKey (s.length + 1) s
  guard (close.isPrefixOf rest)
  let rest ← lineEnd (rest.drop close.length)
  return (path, rest)

def lines : Nat → List String → Entries → List Char → Option Entries
  | 0, _, _, _ => none
  | fuel + 1, path, entries, s =>
    match skipGaps (s.length + 1) s with
    | [] => some entries
    | '[' :: '[' :: rest => do
      let (path, rest) ← header [']', ']'] rest
      lines fuel path (← entries.openElement path) rest
    | '[' :: rest => do
      let (path, rest) ← header [']'] rest
      lines fuel path (← entries.openTable path) rest
    | s => do
      let (key, rest) ← dottedKey (s.length + 1) s
      let rest ← mark '=' rest
      let (item, rest) ← value (rest.length + 1) (skipBlank rest)
      let rest ← lineEnd rest
      let entries ← Entries.at? .implied (fun _ es => Entries.define key (.value item) es) path .header entries
      lines fuel path entries rest

def parse (text : String) : Option Document := do
  let s := match text.toList with
    | '\ufeff' :: rest => rest
    | s => s
  let entries ← lines (s.length + 1) [] [] s
  return (Item.table .header entries).toDocument

end ChatRouter.Format.Toml
