import ChatRouter.Unicode.Named
import ChatRouter.Unicode.Fold

set_option autoImplicit false

namespace ChatRouter.Regex

inductive CharSet where
  | nothing
  | range (first last : Char)
  | property (property : Unicode.CharProperty)
  | word
  | union (a b : CharSet)
  | inter (a b : CharSet)
  | complement (a : CharSet)
  | caseVariants (a : CharSet)
  | asciiCaseVariants (a : CharSet)
deriving DecidableEq

namespace CharSet

def single (c : Char) : CharSet := range c c

def contains : CharSet → Char → Bool
  | nothing, _ => false
  | range first last, c => first ≤ c && c ≤ last
  | property p, c => p.holds c
  | word, c => Unicode.isWordChar c
  | union a b, c => a.contains c || b.contains c
  | inter a b, c => a.contains c && b.contains c
  | complement a, c => !a.contains c
  | caseVariants a, c => a.contains c || (Unicode.caseVariants c).any a.contains
  | asciiCaseVariants a, c => a.contains c || a.contains c.toLower || a.contains c.toUpper

def diff (a b : CharSet) : CharSet := inter a (complement b)

def symmDiff (a b : CharSet) : CharSet := union (diff a b) (diff b a)

def unions (sets : List CharSet) : CharSet := sets.foldl union nothing

def digits : CharSet := property (.category [.nd])

def asciiDigits : CharSet := range '0' '9'

def asciiSpace : CharSet := union (range '\t' '\r') (single ' ')

def asciiWord : CharSet :=
  unions [range '0' '9', range 'A' 'Z', single '_', range 'a' 'z']

def isAscii (a : CharSet) : Bool :=
  (List.range 128).all fun i => !a.contains (Char.ofNat (128 + i))

end CharSet

inductive BoundaryKind where
  | both
  | neither
  | start
  | stop
  | startHalf
  | stopHalf
deriving DecidableEq

inductive Look where
  | textStart
  | textEnd
  | lineStart
  | lineEnd
  | anyLineStart
  | anyLineEnd
  | boundary (kind : BoundaryKind) (ascii : Bool)
deriving DecidableEq

namespace Look

def isWord (ascii : Bool) (c : Option Char) : Bool :=
  match c with
  | none => false
  | some c => if ascii then CharSet.asciiWord.contains c else Unicode.isWordChar c

/-- Whether the condition holds between the characters `left` and `right`. -/
def holds (left right : Option Char) : Look → Bool
  | textStart => left.isNone
  | textEnd => right.isNone
  | lineStart => left.isNone || left == some '\n'
  | lineEnd => right.isNone || right == some '\n'
  | anyLineStart =>
    left.isNone || left == some '\n' || (left == some '\r' && right != some '\n')
  | anyLineEnd =>
    right.isNone || right == some '\r' || (right == some '\n' && left != some '\r')
  | boundary kind ascii =>
    let before := isWord ascii left
    let after := isWord ascii right
    match kind with
    | .both => before != after
    | .neither => before == after
    | .start => !before && after
    | .stop => before && !after
    | .startHalf => !before
    | .stopHalf => !after

end Look

inductive Pattern where
  | empty
  | set (chars : CharSet)
  | look (condition : Look)
  | cat (a b : Pattern)
  | alt (a b : Pattern)
  | loop (a : Pattern) (least : Nat) (most : Option Nat)
deriving DecidableEq

abbrev Positions := Nat

def positionsWhere (test : Option Char → Option Char → Bool) :
    Option Char → List Char → Positions
  | left, [] => (test left none).toNat
  | left, c :: rest => (test left (some c)).toNat + 2 * positionsWhere test (some c) rest

/-- Up to `n` applications of `f`, fewer when nothing changes any more. -/
def iterateStable (f : Positions → Positions) : Nat → Positions → Positions
  | 0, s => s
  | n + 1, s => if f s = s then s else iterateStable f n (f s)

namespace Pattern

/-- The ends of the matches that begin in `s`. Repetition is settled after as many rounds as there
are positions. -/
def ends (text : List Char) : Pattern → Positions → Positions
  | empty, s => s
  | set chars, s => (s &&& positionsWhere (fun _ c => c.any chars.contains) none text) <<< 1
  | look condition, s => s &&& positionsWhere (fun l r => condition.holds l r) none text
  | cat a b, s => ends text b (ends text a s)
  | alt a b, s => ends text a s ||| ends text b s
  | loop a least most, s =>
    let rounds := text.length + 1
    let begun := iterateStable (fun t => ends text a t) (min least rounds) s
    let more := match most with
      | none => rounds
      | some most => min (most - least) rounds
    iterateStable (fun t => t ||| ends text a t) more begun

/-- Whether some part of the text matches. -/
def isMatch (p : Pattern) (text : List Char) : Bool :=
  p.ends text (Nat.pow 2 (text.length + 1) - 1) != 0

def ofList : List Pattern → Pattern
  | [] => empty
  | [p] => p
  | p :: rest => cat p (ofList rest)

def ofBranches : List Pattern → Pattern
  | [] => empty
  | [p] => p
  | p :: rest => alt p (ofBranches rest)

end Pattern

/-- An estimate of the room that a set takes when it is spelled out in bytes. -/
def CharSet.cost : CharSet → Nat
  | nothing => 32
  | range first last => if last.toNat < 128 then 40 else 40 * (first.utf8Size + last.utf8Size)
  | property (.category [.nd]) => 6000
  | property .blank => 1000
  | property _ => 30000
  | word => 46000
  | union a b => a.cost + b.cost
  | inter a b => max a.cost b.cost
  | complement a => a.cost + 400
  | caseVariants a => a.cost + 80
  | asciiCaseVariants a => a.cost + 8

/-- An estimate of the room that a compiled pattern takes, with every repetition written out. It is only right
about patterns that are far from the limit. -/
def Pattern.cost : Pattern → Nat
  | empty => 32
  | set chars => chars.cost
  | look _ => 32
  | cat a b => a.cost + b.cost
  | alt a b => a.cost + b.cost + 48
  | loop a least none => a.cost * max least 1 + 64
  | loop a least (some most) => a.cost * least + (a.cost + 48) * (most - least)

def costLimit : Nat := 10 * Nat.pow 2 20

end ChatRouter.Regex
