import ChatRouter.Text.Blank

set_option autoImplicit false

/-!
# Placeholders

A configuration text may hold placeholders, a dollar sign and a name in braces, that stand for the
values of variables. A text is cut into literals and placeholders once, before any value is known; a
value put in for a placeholder is never read again.
-/

namespace ChatRouter.Placeholders

inductive Piece where
  | literal (text : List Char)
  | placeholder (name : List Char)
deriving DecidableEq

/-- The name up to the first closing brace, unless it is empty, and what follows the brace. -/
def name? (s : List Char) : Option (List Char × List Char) :=
  match Text.splitFirst '\x7d' s with
  | some ([], _) | none => none
  | some split => some split

/-- Puts a text before some pieces; two literals are never neighbours. -/
def prepend (text : List Char) : List Piece → List Piece
  | .literal t :: rest => .literal (text ++ t) :: rest
  | pieces => .literal text :: pieces

theorem length_of_name? {s name rest : List Char} (h : name? s = some (name, rest)) :
    rest.length < s.length := by
  unfold name? at h
  split at h <;> simp_all
  exact Text.length_of_splitFirst ‹_›

def cut : List Char → List Piece
  | [] => []
  | '$' :: '\x7b' :: rest =>
    match _h : name? rest with
    | some (name, after) => .placeholder name :: cut after
    | none => prepend ['$', '\x7b'] (cut rest)
  | c :: rest => prepend [c] (cut rest)
termination_by s => s.length
decreasing_by
  · have := length_of_name? _h; simp only [List.length_cons]; omega
  · simp only [List.length_cons]; omega
  · simp

def Piece.source : Piece → List Char
  | .literal text => text
  | .placeholder name => '$' :: '\x7b' :: name ++ ['\x7d']

def Piece.fill (value : String → Option String) : Piece → List Char
  | .literal text => text
  | .placeholder name =>
    match value (String.ofList name) with
    | some v => v.toList
    | none => (Piece.placeholder name).source

def Piece.name? : Piece → Option String
  | .literal _ => none
  | .placeholder name => some (String.ofList name)

def names (text : String) : List String := (cut text.toList).filterMap Piece.name?

def substitute (value : String → Option String) (text : String) : String :=
  String.ofList ((cut text.toList).flatMap (Piece.fill value))

end ChatRouter.Placeholders
