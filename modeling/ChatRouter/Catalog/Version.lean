import ChatRouter.DataError
import ChatRouter.Text.Blank
import ChatRouter.Text.Number
import Std.Data.TreeMap.Basic

set_option autoImplicit false

/-!
# Bundle versions

A version is read leniently: one to three numbers, an optional `v`, an optional pre-release and a build
part that is dropped. Two texts with the same numbers and pre-release are the same version.
-/

namespace ChatRouter

structure Version where
  major : Nat
  minor : Nat
  patch : Nat
  pre : Option String
deriving DecidableEq

namespace Version

/-- By numbers; a pre-release comes before its release, and pre-releases go by their text. -/
def order : Version → Version → Ordering :=
  compareLex (compareOn major) <| compareLex (compareOn minor) <| compareLex (compareOn patch) <|
    compareLex (compareOn fun v => v.pre.isNone) (compareOn pre)

instance : Ord Version := ⟨order⟩

instance : Std.TransOrd Version := inferInstanceAs (Std.TransCmp (compareLex _ _))

instance : Std.LawfulEqOrd Version where
  eq_of_compare {a b} h := by
    obtain ⟨a₁, a₂, a₃, a₄⟩ := a
    obtain ⟨b₁, b₂, b₃, b₄⟩ := b
    change order _ _ = .eq at h
    simp only [order, compareLex, compareOn, Ordering.then_eq_eq] at h
    obtain ⟨h₁, h₂, h₃, -, h₄⟩ := h
    have e₁ : a₁ = b₁ := Nat.compare_eq_eq.1 h₁
    have e₂ : a₂ = b₂ := Nat.compare_eq_eq.1 h₂
    have e₃ : a₃ = b₃ := Nat.compare_eq_eq.1 h₃
    have e₄ : a₄ = b₄ := Std.LawfulEqOrd.compare_eq_iff_eq.1 h₄
    rw [e₁, e₂, e₃, e₄]

def numbers? (core : List Char) : Option (List Nat) :=
  (Text.pieces '.' core).mapM fun piece => do
    let n ← Text.number? piece
    if n < Nat.pow 2 64 then some n else none

def ofCore? (core : List Char) (pre : Option String) : Option Version :=
  match numbers? core with
  | some [a] => some ⟨a, 0, 0, pre⟩
  | some [a, b] => some ⟨a, b, 0, pre⟩
  | some [a, b, c] => some ⟨a, b, c, pre⟩
  | _ => none

def dropMark : List Char → List Char
  | 'v' :: rest | 'V' :: rest => rest
  | s => s

/-- Without the build part, which begins at the first plus sign. -/
def dropBuild (s : List Char) : List Char := s.takeWhile (· != '+')

/-- The version that a text without blanks at its ends writes. -/
def ofTrimmed? (s : List Char) : Option Version :=
  let body := dropBuild (dropMark s)
  match Text.splitFirst '-' body with
  | none => ofCore? body none
  | some (_, []) => none
  | some (core, pre) => ofCore? core (some (String.ofList pre))

def coerce (text : String) : Except DataError Version :=
  match Text.trim text.toList with
  | [] => .error .emptyBundleVersion
  | s =>
    match ofTrimmed? s with
    | some version => .ok version
    | none => .error (.invalidBundleVersion text)

def text (v : Version) : String :=
  let core := s!"{v.major}.{v.minor}.{v.patch}"
  match v.pre with
  | none => core
  | some pre => core ++ "-" ++ pre

end Version

end ChatRouter
