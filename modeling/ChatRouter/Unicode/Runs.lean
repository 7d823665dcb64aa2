set_option autoImplicit false

/-!
# Runs of code points

A property of characters is a table of runs, in increasing order of their first code point. A table
is written as text: the first code point of each run in hexadecimal, then what holds from there.
-/

namespace ChatRouter.Unicode

def hexDigit? (c : Char) : Option Nat :=
  if '0' ≤ c && c ≤ '9' then some (c.toNat - '0'.toNat)
  else if 'a' ≤ c && c ≤ 'f' then some (c.toNat - 'a'.toNat + 10)
  else if 'A' ≤ c && c ≤ 'F' then some (c.toNat - 'A'.toNat + 10)
  else none

def hex? : List Char → Option Nat
  | [] => none
  | c :: cs => (c :: cs).foldlM (fun n d => (hexDigit? d).map (n * 16 + ·)) 0

/-- The words of a table's text, which blanks and line breaks separate. -/
def tableWords (text : String) : List String :=
  let step := fun (c : Char) (words : List (List Char)) =>
    match c.isWhitespace, words with
    | true, [] :: _ => words
    | true, _ => [] :: words
    | false, word :: rest => (c :: word) :: rest
    | false, [] => [[c]]
  ((text.toList.foldr step [[]]).filter fun word => !word.isEmpty).map String.ofList

structure Runs (α : Type) where
  entries : Array (Nat × α)

namespace Runs

variable {α : Type}

/-- Bisection between `low`, whose run starts at or before `point`, and `high`. -/
def seek (entries : Array (Nat × α)) (point low high : Nat) : Option (Nat × α) :=
  if high ≤ low + 1 then
    entries[low]?
  else
    let middle := (low + high) / 2
    match entries[middle]? with
    | some (start, _) =>
      if point < start then seek entries point low middle else seek entries point middle high
    | none => none
termination_by high - low

def at? (runs : Runs α) (point : Nat) : Option (Nat × α) :=
  match seek runs.entries point 0 runs.entries.size with
  | some (start, value) => if start ≤ point then some (start, value) else none
  | none => none

/-- Reads pairs of a first code point and a word that `value` understands. -/
def ofWords (value : String → Option α) : List String → List (Nat × α)
  | start :: word :: rest =>
    match hex? start.toList, value word with
    | some n, some v => (n, v) :: ofWords value rest
    | _, _ => ofWords value rest
  | _ => []

def ofText (value : String → Option α) (text : String) : Runs α :=
  ⟨(ofWords value (tableWords text)).toArray⟩

end Runs

abbrev Ranges := Runs Nat

def Ranges.ofText (text : String) : Ranges := Runs.ofText (fun word => hex? word.toList) text

def Ranges.contains (ranges : Ranges) (c : Char) : Bool :=
  match ranges.at? c.toNat with
  | some (_, last) => c.toNat ≤ last
  | none => false

end ChatRouter.Unicode
